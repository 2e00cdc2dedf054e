import LetCalc.Proofs.Isolation

set_option autoImplicit false

/-! # Adding lines and running them

It does not matter in which order numbered lines are added before they are run, nor whether they are
run all at once or each as soon as it is added (`batched_eq_stepwise`). Either way the statements that
could be read are executed in the order of their numbers: what is left of the lines is
`Listing.readable`. The same bindings and values come of evaluating the lines without a session, one
after the other (`evaluateAll`). -/

namespace LetCalc

/-! ## Numbered lines -/

/-- Lines in the order in which they are added, each under its number. No number occurs twice. -/
abbrev Listing := Table Int Text

namespace Listing

/-- What a numbered line puts into a queue: its statement, if it can be read. -/
def queued? (numbered : Int × Text) : Option (Int × Queued) :=
  match Stmt.infer numbered.2 with
  | .ok stmt => some (numbered.1, ⟨numbered.2, stmt⟩)
  | .error _ => none

/-- The statements of the lines that can be read. -/
def readable (lines : List (Int × Text)) : List (Int × Queued) := lines.filterMap queued?

theorem queued?_number {numbered : Int × Text} {e : Int × Queued} (h : queued? numbered = some e) :
    e.1 = numbered.1 := by
  unfold queued? at h
  cases hinfer : Stmt.infer numbered.2 with
  | ok stmt =>
      rw [hinfer] at h
      rw [← Option.some.inj h]
  | error failure =>
      rw [hinfer] at h
      cases h

theorem readable_cons (numbered : Int × Text) (rest : List (Int × Text)) :
    readable (numbered :: rest) = (queued? numbered).toList ++ readable rest := by
  rw [readable, List.filterMap_cons]
  cases queued? numbered <;> rfl

theorem readable_ascends {lines : List (Int × Text)} (h : lines.Pairwise fun a b => a.1 < b.1) :
    (readable lines).Pairwise fun a b => a.1 < b.1 := by
  refine h.filterMap queued? ?_
  intro a b hab e he e' he'
  rw [queued?_number he, queued?_number he']
  exact hab

end Listing

/-! ## Lines without a session -/

/-- Reads a line and executes its statement: what it yields, and the bindings after it. -/
def Bindings.evaluate (bindings : Bindings) (line : Text) :
    Except Failure (Option Int) × Bindings :=
  match Stmt.infer line with
  | .ok stmt => stmt.exec bindings
  | .error failure => (.error failure, bindings)

/-- Evaluates lines one after the other: the bindings after them and the values that they yield. A
    line that fails is passed over. -/
def Bindings.evaluateAll (bindings : Bindings) : List Text → Bindings × List Int
  | [] => (bindings, [])
  | line :: rest =>
      let last := evaluateAll (bindings.evaluate line).2 rest
      match (bindings.evaluate line).1 with
      | .ok value => (last.1, value.toList ++ last.2)
      | .error _ => last

open Agenda Listing

theorem Bindings.evaluateAll_eq (bindings : Bindings) (lines : List (Int × Text)) :
    bindings.evaluateAll (lines.map Prod.snd) =
      (bindings.storeAll (stores (readable lines)), yields (readable lines)) := by
  induction lines generalizing bindings with
  | nil => rfl
  | cons numbered rest ih =>
      rw [List.map_cons, evaluateAll, ih, readable_cons]
      unfold evaluate queued?
      cases Stmt.infer numbered.2 with
      | error failure => rfl
      | ok stmt =>
          show _ = (bindings.storeAll (stores ((numbered.1, ⟨numbered.2, stmt⟩) :: readable rest)),
            yields ((numbered.1, ⟨numbered.2, stmt⟩) :: readable rest))
          rw [stores_cons, yields_cons]
          simp only [Stmt.exec_eq]
          cases stmt.effect <;> rfl

namespace Session

open Workspace

/-! ## Two ways to run lines -/

/-- The session and the reporter after adding lines one after the other. -/
def addAll (session : Session) (reporter : Reporter) : List (Int × Text) → Session × Reporter
  | [] => (session, reporter)
  | (number, line) :: rest =>
      let added := session.add reporter line number
      addAll added.session added.reporter rest

/-- Adds all lines and then runs once. The messages are those of the run. -/
def batched (session : Session) (reporter : Reporter) (lines : List (Int × Text)) : Step :=
  let added := session.addAll reporter lines
  added.1.run added.2

/-- Adds the lines one after the other and runs after each. The messages are those of the runs. -/
def stepwise (session : Session) (reporter : Reporter) : List (Int × Text) → Step
  | [] => ⟨[], session, reporter, .done⟩
  | (number, line) :: rest =>
      let added := session.add reporter line number
      let ran := added.session.run added.reporter
      let last := stepwise ran.session ran.reporter rest
      { last with messages := ran.messages ++ last.messages }

variable {session : Session} {reporter : Reporter}

theorem add_queue_entries (reporter : Reporter) (line : Text) {number : Int}
    (h : number ∉ session.queue.keys) :
    (session.add reporter line number).session.queue.entries
      = session.queue.entries ++ (queued? (number, line)).toList := by
  rw [add_session]
  unfold queued?
  cases Stmt.infer line with
  | ok stmt => exact Table.entries_insert_of_not_mem h _
  | error failure => exact (List.append_nil _).symm

theorem addAll_idle (lines : List (Int × Text)) (h : reporter.Idle) :
    (session.addAll reporter lines).2.Idle := by
  induction lines generalizing session reporter with
  | nil => exact h
  | cons numbered rest ih => exact ih (add_idle h _ _)

theorem addAll_frame (session : Session) (reporter : Reporter) (lines : List (Int × Text)) :
    (session.addAll reporter lines).1
      = { session with queue := (session.addAll reporter lines).1.queue } := by
  induction lines generalizing session reporter with
  | nil => rfl
  | cons numbered rest ih =>
      have hadd := add_frame session reporter numbered.2 numbered.1
      show (addAll _ _ rest).1 = { session with queue := (addAll _ _ rest).1.queue }
      rw [ih, hadd]

theorem addAll_queue_entries (reporter : Reporter) {lines : List (Int × Text)}
    (hdistinct : (lines.map Prod.fst).Nodup)
    (hnew : ∀ numbered ∈ lines, numbered.1 ∉ session.queue.keys) :
    (session.addAll reporter lines).1.queue.entries
      = session.queue.entries ++ readable lines := by
  induction lines generalizing session reporter with
  | nil => exact (List.append_nil _).symm
  | cons numbered rest ih =>
      obtain ⟨number, line⟩ := numbered
      obtain ⟨hnumber, hdistinct⟩ := List.nodup_cons.1 hdistinct
      have hadd := add_queue_entries reporter line (hnew _ (List.mem_cons_self ..))
      show (addAll _ _ rest).1.queue.entries = _
      rw [ih _ hdistinct, hadd, readable_cons, List.append_assoc]
      -- No number of the rest was queued by the line just added.
      intro other hother
      rw [Table.keys, hadd, List.map_append, List.mem_append, not_or]
      refine ⟨hnew other (List.mem_cons_of_mem _ hother), ?_⟩
      intro hmem
      obtain ⟨e, he, heq⟩ := List.mem_map.1 hmem
      rw [queued?_number (Option.mem_toList.1 he)] at heq
      exact hnumber (List.mem_map.2 ⟨other, hother, heq.symm⟩)

theorem addAll_agenda (lines : Listing) (h : session.queue = ∅) :
    (session.addAll reporter lines.entries).1.queue.agenda = readable lines.ascending := by
  have hentries : (session.addAll reporter lines.entries).1.queue.entries = _ :=
    addAll_queue_entries reporter lines.nodup (by simp [h])
  refine Queue.ascends_eq_of_perm ?_ (Queue.agenda_ascends _)
    (readable_ascends lines.ascending_ascends)
  refine (Queue.agenda_perm _).trans ?_
  rw [hentries, h]
  exact (lines.ascending_perm.filterMap queued?).symm

theorem batched_session (hidle : reporter.Idle) (h : session.queue = ∅) (lines : Listing) :
    (session.batched reporter lines.entries).session
      = session.concluded (readable lines.ascending) := by
  have hadded : (session.addAll reporter lines.entries).2.Idle := addAll_idle _ hidle
  rw [batched, run_concluded hadded.goesOn, addAll_agenda lines h, addAll_frame]
  rfl

theorem batched_messages (hidle : reporter.Idle) (h : session.queue = ∅) (lines : Listing) :
    (session.batched reporter lines.entries).messages
      = reports session.path session.bindings (readable lines.ascending) := by
  have hadded : (session.addAll reporter lines.entries).2.Idle := addAll_idle _ hidle
  rw [batched, run_messages hadded.goesOn (hadded.clearBut _), addAll_agenda lines h, addAll_frame]

/-- A run right after a line was added executes the statement on that line, if there is one. -/
theorem run_added (hidle : reporter.Idle) (h : session.queue = ∅) (number : Int) (line : Text) :
    let added := session.add reporter line number
    let ran := added.session.run added.reporter
    ran.session = session.concluded (queued? (number, line)).toList ∧
      ran.messages = reports session.path session.bindings (queued? (number, line)).toList ∧
      ran.reporter.Idle := by
  intro added ran
  have hadded : added.reporter.Idle := add_idle hidle line number
  have hagenda : added.session.queue.agenda = (queued? (number, line)).toList := by
    have hentries : added.session.queue.entries = _ :=
      add_queue_entries reporter line (by simp [h])
    rw [Queue.agenda, Table.ascending, hentries, h]
    cases queued? (number, line) with
    | none => exact List.mergeSort_nil
    | some e => exact List.mergeSort_singleton e
  have hframe : added.session = { session with queue := added.session.queue } := add_frame ..
  refine ⟨?_, ?_, executeAll_idle _ _ hadded⟩
  · rw [run_concluded hadded.goesOn, hagenda, hframe]
    rfl
  · rw [run_messages hadded.goesOn (hadded.clearBut _), hagenda, hframe]

theorem stepwise_eq (hidle : reporter.Idle) (h : session.queue = ∅) (lines : List (Int × Text)) :
    (session.stepwise reporter lines).session = session.concluded (readable lines) ∧
      (session.stepwise reporter lines).messages
        = reports session.path session.bindings (readable lines) := by
  induction lines generalizing session reporter with
  | nil => exact ⟨(concluded_nil h).symm, rfl⟩
  | cons numbered rest ih =>
      obtain ⟨number, line⟩ := numbered
      obtain ⟨hsession, hmessages, hran⟩ := run_added hidle h number line
      obtain ⟨hrestSession, hrestMessages⟩ := ih hran (congrArg Session.queue hsession)
      rw [readable_cons, stepwise]
      constructor
      · show (stepwise _ _ rest).session = _
        rw [hrestSession, hsession, concluded_concluded]
      · show _ ++ (stepwise _ _ rest).messages = _
        rw [hrestMessages, hsession, hmessages, reports_append]
        rfl

end Session

end LetCalc
