import LetCalc.Proofs.Execution

set_option autoImplicit false

/-! # Running the queue

A run executes queued statements in the order of their numbers, each of them once: all of them on a
reporter that is not fatal, those up to the first that fails on any other (`Agenda.executed`). What it
leaves behind is given by the effects of these statements alone: bindings, results and reports are
those of the old state, continued by what the statements in this order store, yield and report. So on
a reporter that is not fatal a statement that fails could as well not have been queued, but for the
report of its failure (`Completes.spared`). -/

namespace LetCalc

/-! ## Agendas -/

namespace Queue

theorem ascends_eq_of_perm {es es' : List (Int × Queued)} (hperm : es.Perm es')
    (h : es.Pairwise fun a b => a.1 < b.1) (h' : es'.Pairwise fun a b => a.1 < b.1) : es = es' :=
  hperm.eq_of_pairwise (fun _ _ _ _ hab hba => absurd hab (by omega)) h h'

section

variable {before after : List (Int × Queued)} {e : Int × Queued}

/-- Where numbers ascend strictly, taking one of them away takes one entry away. -/
theorem filter_ne_of_ascends (h : (before ++ e :: after).Pairwise fun a b => a.1 < b.1) :
    (before ++ e :: after).filter (fun d => d.1 ≠ e.1) = before ++ after := by
  obtain ⟨-, hafter, hbefore⟩ := List.pairwise_append.1 h
  have hkeepBefore : before.filter (fun d => d.1 ≠ e.1) = before := by
    apply List.filter_eq_self.2
    intro d hd
    have hlt := hbefore d hd e (List.mem_cons_self ..)
    exact decide_eq_true (Int.ne_of_lt hlt)
  have hkeepAfter : after.filter (fun d => d.1 ≠ e.1) = after := by
    apply List.filter_eq_self.2
    intro d hd
    have hlt := (List.pairwise_cons.1 hafter).1 d hd
    exact decide_eq_true (Int.ne_of_gt hlt)
  rw [List.filter_append, List.filter_cons_of_neg (by simp), hkeepBefore, hkeepAfter]

/-- Where numbers ascend strictly, the greater ones are those that come after. -/
theorem filter_above_of_ascends (h : (before ++ e :: after).Pairwise fun a b => a.1 < b.1) :
    (before ++ e :: after).filter (fun d => e.1 < d.1) = after := by
  obtain ⟨-, hafter, hbefore⟩ := List.pairwise_append.1 h
  have hnoneBefore : before.filter (fun d => e.1 < d.1) = [] := by
    apply List.filter_eq_nil_iff.2
    intro d hd
    have hlt := hbefore d hd e (List.mem_cons_self ..)
    simp only [decide_eq_true_eq]
    omega
  have hkeepAfter : after.filter (fun d => e.1 < d.1) = after := by
    apply List.filter_eq_self.2
    intro d hd
    exact decide_eq_true ((List.pairwise_cons.1 hafter).1 d hd)
  rw [List.filter_append, List.filter_cons_of_neg (by simp), hnoneBefore, hkeepAfter,
    List.nil_append]

end

theorem agenda_nodup (queue : Queue) : (queue.agenda.map Prod.fst).Nodup :=
  (queue.agenda_perm.map Prod.fst).nodup_iff.2 queue.nodup

theorem get?_of_mem_agenda {queue : Queue} {e : Int × Queued} (he : e ∈ queue.agenda) :
    queue.get? e.1 = some e.2 := Table.get?_eq_some_iff.2 (queue.agenda_perm.mem_iff.1 he)

theorem agenda_of_filter {queue queue' : Queue} {keep : Int × Queued → Bool}
    (h : queue'.entries = queue.entries.filter keep) : queue'.agenda = queue.agenda.filter keep := by
  refine ascends_eq_of_perm ?_ queue'.agenda_ascends (queue.agenda_ascends.filter _)
  have hperm := queue'.agenda_perm
  rw [h] at hperm
  exact hperm.trans (queue.agenda_perm.filter _).symm

theorem agenda_erase (queue : Queue) (number : Int) :
    agenda (queue.erase number) = queue.agenda.filter fun e => e.1 ≠ number :=
  agenda_of_filter rfl

/-- The queue without the statements of the given entries. -/
def eraseAll (queue : Queue) (es : List (Int × Queued)) : Queue :=
  es.foldl (fun q e => q.erase e.1) queue

theorem get?_eraseAll (queue : Queue) (es : List (Int × Queued)) (number : Int) :
    (queue.eraseAll es).get? number
      = if number ∈ es.map Prod.fst then none else queue.get? number := by
  induction es generalizing queue with
  | nil => simp [eraseAll]
  | cons e rest ih =>
      have hstep : queue.eraseAll (e :: rest) = eraseAll (queue.erase e.1) rest := rfl
      rw [hstep, ih, Table.get?_erase]
      simp only [List.map_cons, List.mem_cons]
      by_cases hrest : number ∈ rest.map Prod.fst
      · rw [if_pos hrest, if_pos (Or.inr hrest)]
      · by_cases he : number = e.1
        · rw [if_neg hrest, if_pos he, if_pos (Or.inl he)]
        · rw [if_neg hrest, if_neg he, if_neg (by simp [he, hrest])]

theorem eq_empty_of_get? {queue : Queue} (h : ∀ number, queue.get? number = none) : queue = ∅ := by
  refine Table.ext (List.eq_nil_iff_forall_not_mem.2 ?_)
  intro e he
  have hget := Table.get?_eq_some_iff.2 he
  rw [h e.1] at hget
  cases hget

theorem eraseAll_agenda (queue : Queue) : queue.eraseAll queue.agenda = ∅ := by
  apply eq_empty_of_get?
  intro number
  rw [get?_eraseAll]
  split
  · rfl
  · next hnot =>
      refine Table.get?_eq_none_iff.2 fun hmem => hnot ?_
      exact (queue.agenda_perm.map Prod.fst).mem_iff.2 hmem

end Queue

/-! ## What the statements of an agenda amount to -/

namespace Agenda

/-- What the statements store. -/
def stores (es : List (Int × Queued)) : List (Text × Int) :=
  es.filterMap fun e => e.2.stmt.effect.stored?

/-- What the statements yield. -/
def yields (es : List (Int × Queued)) : List Int :=
  es.filterMap fun e => e.2.stmt.effect.yielded?

/-- The failures of the statements. -/
def failures (es : List (Int × Queued)) : List Failure :=
  es.filterMap fun e => e.2.stmt.effect.failure?

/-- The statements that are executed: all of them, or on a fatal reporter those up to the first
    that fails. -/
def executed (fatal : Bool) : List (Int × Queued) → List (Int × Queued)
  | [] => []
  | e :: rest => e :: if fatal = true ∧ e.2.stmt.fails = true then [] else executed fatal rest

theorem executed_of_not_fatal {fatal : Bool} (hfatal : fatal = false) (es : List (Int × Queued)) :
    executed fatal es = es := by
  induction es with
  | nil => rfl
  | cons e rest ih => rw [executed, if_neg (by simp [hfatal]), ih]

/-- What the statements report, where names are bound as given and then as they store. -/
def contents (bindings : Bindings) : List (Int × Queued) → List (Severity × Diagnostic)
  | [] => []
  | e :: rest =>
      e.2.stmt.effect.contents bindings ++ contents (bindings.storeAll (stores [e])) rest

theorem filterMap_effect_cons {α : Type} (part : Effect → Option α) (e : Int × Queued)
    (es : List (Int × Queued)) : (e :: es).filterMap (fun e => part e.2.stmt.effect)
      = (part e.2.stmt.effect).toList ++ es.filterMap fun e => part e.2.stmt.effect := by
  rw [List.filterMap_cons]
  cases part e.2.stmt.effect <;> rfl

theorem stores_cons (e : Int × Queued) (es : List (Int × Queued)) :
    stores (e :: es) = e.2.stmt.effect.stored?.toList ++ stores es :=
  filterMap_effect_cons Effect.stored? e es

theorem stores_singleton (e : Int × Queued) : stores [e] = e.2.stmt.effect.stored?.toList :=
  (stores_cons e []).trans (List.append_nil _)

theorem yields_cons (e : Int × Queued) (es : List (Int × Queued)) :
    yields (e :: es) = e.2.stmt.effect.yielded?.toList ++ yields es :=
  filterMap_effect_cons Effect.yielded? e es

theorem failures_cons (e : Int × Queued) (es : List (Int × Queued)) :
    failures (e :: es) = e.2.stmt.effect.failure?.toList ++ failures es :=
  filterMap_effect_cons Effect.failure? e es

theorem stores_append (es es' : List (Int × Queued)) :
    stores (es ++ es') = stores es ++ stores es' := List.filterMap_append

theorem yields_append (es es' : List (Int × Queued)) :
    yields (es ++ es') = yields es ++ yields es' := List.filterMap_append

theorem storeAll_stores_append (bindings : Bindings) (es es' : List (Int × Queued)) :
    bindings.storeAll (stores (es ++ es')) = (bindings.storeAll (stores es)).storeAll (stores es') := by
  rw [stores_append, Bindings.storeAll_append]

theorem contents_append (bindings : Bindings) (es es' : List (Int × Queued)) :
    contents bindings (es ++ es')
      = contents bindings es ++ contents (bindings.storeAll (stores es)) es' := by
  induction es generalizing bindings with
  | nil => rfl
  | cons e rest ih =>
      rw [List.cons_append, contents, contents, ih, List.append_assoc,
        ← storeAll_stores_append bindings [e] rest]
      rfl

/-- The errors among the reports are the failures. -/
theorem errors_contents (bindings : Bindings) (es : List (Int × Queued)) :
    ((contents bindings es).filter fun c => c.1 = .error).map Prod.snd
      = (failures es).map Failure.diagnostic := by
  induction es generalizing bindings with
  | nil => rfl
  | cons e rest ih =>
      rw [contents, failures_cons, List.filter_append, List.map_append, List.map_append, ih]
      refine congrArg (· ++ _) ?_
      cases e.2.stmt.effect with
      | stores name n =>
          simp only [Effect.contents, Effect.failure?]
          split <;> rfl
      | yields n => rfl
      | fails failure => rfl

/-- The names in order after one more was bound: a name that is there keeps its place, and a new
    one goes last. -/
def noteName (names : List Text) (name : Text) : List Text :=
  if name ∈ names then names else names ++ [name]

theorem keys_storeAll (bindings : Bindings) (ss : List (Text × Int)) :
    (bindings.storeAll ss).keys = (ss.map Prod.fst).foldl noteName bindings.keys := by
  induction ss generalizing bindings with
  | nil => rfl
  | cons s rest ih =>
      have hkeys : (bindings.store s.1 s.2).keys = noteName bindings.keys s.1 := by
        unfold noteName
        rw [Bindings.store, Table.keys_insert]
        congr
      show (Bindings.storeAll (bindings.store s.1 s.2) rest).keys = _
      rw [ih, hkeys]
      rfl

end Agenda

/-! ## Runs -/

namespace Session

open Agenda

theorem executeAll_cons (number : Int) (queued : Queued) (rest : List (Int × Queued))
    (session : Session) (reporter : Reporter) :
    executeAll ((number, queued) :: rest) session reporter =
      let step := session.execute reporter number queued
      let last := executeAll rest step.session step.reporter
      if reporter.fatal = true ∧ queued.stmt.fails = true then step
      else { last with messages := step.messages ++ last.messages } := by
  rw [executeAll]
  by_cases hexit : reporter.fatal = true ∧ queued.stmt.fails = true
  · rw [if_pos (by rw [execute_answer, if_pos hexit]), if_pos hexit]
  · rw [if_neg (by rw [execute_answer, if_neg hexit]; decide), if_neg hexit]

/-- Unless a statement ends the program, the statements after it are executed in the state that it
    has left. -/
theorem executeAll_append {es : List (Int × Queued)} {session : Session} {reporter : Reporter}
    (h : (executeAll es session reporter).answer ≠ .exit) (es' : List (Int × Queued)) :
    executeAll (es ++ es') session reporter =
      let first := executeAll es session reporter
      let last := executeAll es' first.session first.reporter
      { last with messages := first.messages ++ last.messages } := by
  induction es generalizing session reporter with
  | nil => rfl
  | cons e rest ih =>
      obtain ⟨number, queued⟩ := e
      rw [executeAll_cons] at h
      by_cases hexit : reporter.fatal = true ∧ queued.stmt.fails = true
      · rw [if_pos hexit, execute_answer, if_pos hexit] at h
        exact absurd rfl h
      · rw [if_neg hexit] at h
        rw [List.cons_append, executeAll_cons, executeAll_cons, if_neg hexit, if_neg hexit, ih h]
        simp only [List.append_assoc]

theorem executeAll_session (es : List (Int × Queued)) (session : Session) (reporter : Reporter) :
    (executeAll es session reporter).session =
      { path := session.path
        bindings := session.bindings.storeAll (stores (executed reporter.fatal es))
        queue := session.queue.eraseAll (executed reporter.fatal es)
        results := session.results ++ yields (executed reporter.fatal es) } := by
  induction es generalizing session reporter with
  | nil => simp [executeAll, executed, Bindings.storeAll, stores, yields, Queue.eraseAll]
  | cons e rest ih =>
      obtain ⟨number, queued⟩ := e
      rw [executeAll_cons, executed, stores_cons, yields_cons]
      by_cases hexit : reporter.fatal = true ∧ queued.stmt.fails = true
      · rw [if_pos hexit, if_pos hexit, execute_session]
        simp only [stores, yields, List.filterMap_nil, List.append_nil]
        rfl
      · rw [if_neg hexit, if_neg hexit]
        show (executeAll rest _ _).session = _
        rw [ih, execute_fatal, execute_session]
        simp only [Bindings.storeAll, List.foldl_append, List.append_assoc]
        rfl

theorem executeAll_contents (es : List (Int × Queued)) (session : Session) (reporter : Reporter) :
    (executeAll es session reporter).messages.map Message.content
      = contents session.bindings (executed reporter.fatal es) := by
  induction es generalizing session reporter with
  | nil => rfl
  | cons e rest ih =>
      obtain ⟨number, queued⟩ := e
      rw [executeAll_cons, executed, contents]
      by_cases hexit : reporter.fatal = true ∧ queued.stmt.fails = true
      · rw [if_pos hexit, if_pos hexit, execute_contents, contents, List.append_nil]
      · rw [if_neg hexit, if_neg hexit]
        show (_ ++ (executeAll rest _ _).messages).map Message.content = _
        rw [List.map_append, ih, execute_fatal, execute_session, execute_contents, stores_cons]
        simp only [stores, List.filterMap_nil, List.append_nil]

/-- Only on a fatal reporter a statement that fails ends the program. -/
theorem executeAll_ending (es : List (Int × Queued)) (session : Session) (reporter : Reporter) :
    (executeAll es session reporter).answer =
      if reporter.fatal = true ∧ es.any (fun e => e.2.stmt.fails) = true then .exit else .done := by
  induction es generalizing session reporter with
  | nil => simp [executeAll]
  | cons e rest ih =>
      obtain ⟨number, queued⟩ := e
      rw [executeAll_cons, List.any_cons]
      by_cases hexit : reporter.fatal = true ∧ queued.stmt.fails = true
      · rw [if_pos hexit, execute_answer, if_pos hexit, if_pos (by simp [hexit])]
      · rw [if_neg hexit]
        show (executeAll rest _ _).answer = _
        rw [ih, execute_fatal]
        by_cases hfatal : reporter.fatal = true
        · have hqueued : queued.stmt.fails = false := by simpa [hfatal] using hexit
          rw [hqueued, Bool.false_or]
        · rw [if_neg (by simp [hfatal]), if_neg (by simp [hfatal])]

theorem executeAll_fatal (es : List (Int × Queued)) (session : Session) (reporter : Reporter) :
    (executeAll es session reporter).reporter.fatal = reporter.fatal := by
  induction es generalizing session reporter with
  | nil => rfl
  | cons e rest ih =>
      obtain ⟨number, queued⟩ := e
      rw [executeAll_cons]
      by_cases hexit : reporter.fatal = true ∧ queued.stmt.fails = true
      · rw [if_pos hexit, execute_fatal]
      · rw [if_neg hexit]
        show (executeAll rest _ _).reporter.fatal = _
        rw [ih, execute_fatal]

/-! ## Runs on a reporter that is not fatal -/

theorem executeAll_answer (es : List (Int × Queued)) (session : Session) {reporter : Reporter}
    (hfatal : reporter.fatal = false) : (executeAll es session reporter).answer = .done := by
  rw [executeAll_ending, if_neg (by simp [hfatal])]

/-- Statements that are queued under other numbers stay queued when one is executed. -/
theorem execute_queued {es : List (Int × Queued)} {session : Session} {reporter : Reporter}
    {number : Int} {queued : Queued} (hnumber : number ∉ es.map Prod.fst)
    (hqueued : ∀ e ∈ es, session.queue.get? e.1 = some e.2) :
    ∀ e ∈ es, (session.execute reporter number queued).session.queue.get? e.1 = some e.2 := by
  intro e he
  have hne : e.1 ≠ number := by
    rintro rfl
    exact hnumber (List.mem_map.2 ⟨e, he, rfl⟩)
  rw [execute_session, Table.get?_erase, if_neg hne]
  exact hqueued e he

/-- The given statements are executed one after the other, each while it is queued under its
    number, and all of them come to an end. -/
inductive Executes : Session → Reporter → List (Int × Queued) → Step → Prop where
  | done {session : Session} {reporter : Reporter} :
      Executes session reporter [] ⟨[], session, reporter, .done⟩
  | step {session : Session} {reporter : Reporter} {number : Int} {queued : Queued}
      {rest : List (Int × Queued)} {last : Step}
      (hqueued : session.queue.get? number = some queued)
      (hdone : (session.execute reporter number queued).answer = .done)
      (hrest : Executes (session.execute reporter number queued).session
        (session.execute reporter number queued).reporter rest last) :
      Executes session reporter ((number, queued) :: rest)
        { last with
          messages := (session.execute reporter number queued).messages ++ last.messages }

theorem executes_executeAll {es : List (Int × Queued)} {session : Session} {reporter : Reporter}
    (hfatal : reporter.fatal = false) (hnodup : (es.map Prod.fst).Nodup)
    (hqueued : ∀ e ∈ es, session.queue.get? e.1 = some e.2) :
    Executes session reporter es (executeAll es session reporter) := by
  induction es generalizing session reporter with
  | nil => exact .done
  | cons e rest ih =>
      obtain ⟨number, queued⟩ := e
      obtain ⟨hnumber, hnodup⟩ := List.nodup_cons.1 hnodup
      rw [executeAll_cons, if_neg (by simp [hfatal])]
      refine .step (hqueued _ (List.mem_cons_self ..)) ?_ (ih ?_ hnodup ?_)
      · rw [execute_answer, if_neg (by simp [hfatal])]
      · exact (execute_fatal ..).trans hfatal
      · exact execute_queued hnumber fun e he => hqueued e (List.mem_cons_of_mem _ he)

/-- `step` is what comes of executing the whole queue of `session` in the order `es`. -/
structure Completes (session : Session) (reporter : Reporter) (es : List (Int × Queued))
    (step : Step) : Prop where
  /-- Every queued statement, and none twice. -/
  perm : es.Perm session.queue.entries
  ascends : es.Pairwise fun a b => a.1 < b.1
  executes : Executes session reporter es step
  answer : step.answer = .done
  queue : step.session.queue = ∅
  bindings : step.session.bindings = session.bindings.storeAll (stores es)
  names : step.session.bindings.keys
    = ((stores es).map Prod.fst).foldl noteName session.bindings.keys
  results : step.session.results = session.results ++ yields es
  errors : (step.messages.filter fun m => m.severity = .error).map Message.diagnostic
    = (failures es).map Failure.diagnostic
  /-- Without a statement that fails, the run ends in the same state, and of what it reports only
      this failure is missing. -/
  spared : ∀ e ∈ es, ∀ failure, e.2.stmt.effect = .fails failure →
    let other := run { session with queue := session.queue.erase e.1 } reporter
    other.session = step.session ∧ ∃ before after,
      step.messages.map Message.content = before ++ (.error, failure.diagnostic) :: after ∧
        other.messages.map Message.content = before ++ after

/-- The state of a session that has executed the given statements and has nothing queued. -/
def concluded (session : Session) (es : List (Int × Queued)) : Session where
  path := session.path
  bindings := session.bindings.storeAll (stores es)
  queue := ∅
  results := session.results ++ yields es

variable {session : Session} {reporter : Reporter}

theorem concluded_nil (h : session.queue = ∅) : session.concluded [] = session := by
  simp [concluded, stores, yields, Bindings.storeAll, ← h]

theorem concluded_concluded (es es' : List (Int × Queued)) :
    (session.concluded es).concluded es' = session.concluded (es ++ es') := by
  simp only [concluded, storeAll_stores_append, yields_append, List.append_assoc]

theorem run_session (hfatal : reporter.fatal = false) : (session.run reporter).session =
    { path := session.path
      bindings := session.bindings.storeAll (stores session.queue.agenda)
      queue := ∅
      results := session.results ++ yields session.queue.agenda } := by
  rw [run, executeAll_session, executed_of_not_fatal hfatal, Queue.eraseAll_agenda]

theorem run_concluded (hfatal : reporter.fatal = false) :
    (session.run reporter).session = session.concluded session.queue.agenda := run_session hfatal

theorem run_contents (hfatal : reporter.fatal = false) :
    (session.run reporter).messages.map Message.content
      = contents session.bindings session.queue.agenda := by
  rw [run, executeAll_contents, executed_of_not_fatal hfatal]

theorem run_executes (hfatal : reporter.fatal = false) :
    Executes session reporter session.queue.agenda (session.run reporter) :=
  executes_executeAll hfatal session.queue.agenda_nodup fun _ => Queue.get?_of_mem_agenda

theorem run_errors (hfatal : reporter.fatal = false) :
    ((session.run reporter).messages.filter fun m => m.severity = .error).map Message.diagnostic
      = (failures session.queue.agenda).map Failure.diagnostic := by
  have hcontents : (session.run reporter).messages.map Message.content
      = contents session.bindings session.queue.agenda := run_contents hfatal
  rw [← errors_contents session.bindings, ← hcontents, List.filter_map, List.map_map]
  rfl

theorem run_spared (hfatal : reporter.fatal = false) {e : Int × Queued}
    (he : e ∈ session.queue.agenda) {failure : Failure}
    (heffect : e.2.stmt.effect = .fails failure) :
    let other := run { session with queue := session.queue.erase e.1 } reporter
    other.session = (session.run reporter).session ∧ ∃ before after,
      (session.run reporter).messages.map Message.content
          = before ++ (.error, failure.diagnostic) :: after ∧
        other.messages.map Message.content = before ++ after := by
  obtain ⟨before, after, hsplit⟩ := List.append_of_mem he
  have hother : Queue.agenda (session.queue.erase e.1) = before ++ after := by
    have hascends := session.queue.agenda_ascends
    rw [Queue.agenda_erase, hsplit]
    rw [hsplit] at hascends
    exact Queue.filter_ne_of_ascends hascends
  -- A statement that fails stores and yields nothing.
  have hstores : stores (e :: after) = stores after := by
    rw [stores_cons, heffect]
    rfl
  have hyields : yields (e :: after) = yields after := by
    rw [yields_cons, heffect]
    rfl
  refine ⟨?_, contents session.bindings before,
    contents (session.bindings.storeAll (stores before)) after, ?_, ?_⟩
  · rw [run_session hfatal, run_session hfatal]
    simp only [hother, hsplit, stores_append, yields_append, hstores, hyields]
  · rw [run_contents hfatal, hsplit, contents_append, contents, heffect]
    have hnone : stores [e] = [] := by
      rw [stores_cons, heffect]
      rfl
    rw [hnone]
    rfl
  · rw [run_contents hfatal, hother, contents_append]

end Session

end LetCalc
