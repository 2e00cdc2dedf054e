import LetCalc.Proofs.Reports

set_option autoImplicit false

/-! # Failures leave the state as it is

Whatever the state of a session and whether errors are fatal or not: a line that cannot be read, a
result that is not there and a name that is not bound change nothing (`add_of_infer_error`,
`pop_of_nil`, `lookup_of_not_mem`), and a statement that fails in a run costs its own entry of the
queue (`drops_of_fails`), since it is taken off the queue before and all else is done after it has
succeeded. Statements are atomic: they store nothing unless they succeed, and then under their own
name only (`Stmt.exec_atomic`). -/

namespace LetCalc

/-! ## Executing a statement -/

/-- The bindings before and after are the same, in the same order, but for what is bound to the
    given name, if there is one. -/
def Bindings.SameBut (target? : Option Text) (before after : Bindings) : Prop :=
  match target? with
  | some name => after.erase name = before.erase name
  | none => after = before

theorem Bindings.SameBut.get?_eq {target? : Option Text} {before after : Bindings}
    (h : SameBut target? before after) {name : Text} (hname : target? ≠ some name) :
    after.get? name = before.get? name := by
  cases target? with
  | none => rw [show after = before from h]
  | some target =>
      have hne : name ≠ target := by
        rintro rfl
        exact hname rfl
      have herase : (after.erase target).get? name = (before.erase target).get? name :=
        congrArg (·.get? name) h
      rwa [Table.get?_erase, Table.get?_erase, if_neg hne, if_neg hne] at herase

namespace Stmt

/-- Executing the statement fails and leaves the bindings as they are, or it succeeds and changes at
    most what is bound to the statement's own name. -/
def Atomic (stmt : Stmt) (bindings : Bindings) : Prop :=
  (∃ failure, stmt.exec bindings = (.error failure, bindings)) ∨
    ∃ result after, stmt.exec bindings = (.ok result, after) ∧
      Bindings.SameBut stmt.target? bindings after

theorem exec_atomic (stmt : Stmt) (bindings : Bindings) : stmt.Atomic bindings := by
  have hexec := stmt.exec_eq bindings
  cases heffect : stmt.effect with
  | stores name n =>
      rw [heffect] at hexec
      refine Or.inr ⟨none, bindings.store name n, hexec, ?_⟩
      rw [(effect_eq_stores_iff.1 heffect).1]
      exact Table.erase_insert bindings name n
  | yields n =>
      rw [heffect] at hexec
      refine Or.inr ⟨some n, bindings, hexec, ?_⟩
      rw [(effect_eq_yields_iff.1 heffect).1]
      rfl
  | fails failure =>
      rw [heffect] at hexec
      exact Or.inl ⟨failure, hexec⟩

theorem exec_eq_error_iff {stmt : Stmt} {bindings : Bindings} {failure : Failure} :
    (stmt.exec bindings).1 = .error failure ↔ stmt.effect = .fails failure := by
  rw [exec_eq]
  cases stmt.effect <;> simp

end Stmt

namespace Session

/-! ## Commands that fail -/

variable {session : Session} {reporter : Reporter}

theorem add_of_infer_error {line : Text} {failure : Failure}
    (h : Stmt.infer line = .error failure) (number : Int) :
    (session.add reporter line number).session = session ∧
      (session.add reporter line number).answer = if reporter.fatal then .exit else .done := by
  rw [add_session, add_answer, h]
  exact ⟨rfl, rfl⟩

theorem pop_of_nil (h : session.results = []) :
    session.pop reporter = ⟨[], session, reporter, .noResult⟩ := by
  rw [pop, h]
  rfl

theorem lookup_of_not_mem {name : Text} (h : name ∉ session.bindings.keys) :
    session.lookup reporter name = ⟨[], session, reporter, .failed (.unboundName name)⟩ := by
  rw [lookup, Bindings.lookup, Table.get?_eq_none_iff.2 h]

/-! ## Statements that fail in a run -/

variable {before after : List (Int × Queued)} {e : Int × Queued}

/-- A statement stays queued until the run comes to it. -/
theorem queued_at (h : session.queue.agenda = before ++ e :: after) :
    (executeAll before session reporter).session.queue.get? e.1 = some e.2 := by
  have hnodup := session.queue.agenda_nodup
  rw [h, List.map_append, List.map_cons] at hnodup
  have hnumber : e.1 ∉ (Agenda.executed reporter.fatal before).map Prod.fst := by
    intro hmem
    have hbefore := ((Agenda.executed_sublist _ before).map Prod.fst).mem hmem
    exact (List.nodup_append.1 hnodup).2.2 _ hbefore _ (List.mem_cons_self ..) rfl
  rw [executeAll_session]
  show (session.queue.eraseAll _).get? e.1 = some e.2
  rw [Queue.get?_eraseAll, if_neg hnumber]
  exact Queue.get?_of_mem_agenda (by simp [h])

/-- Executing a statement that fails takes its entry off the queue and changes nothing else. -/
theorem execute_of_fails {number : Int} {queued : Queued} {failure : Failure}
    (h : queued.stmt.effect = .fails failure) :
    (session.execute reporter number queued).session
        = { session with queue := session.queue.erase number } ∧
      (session.execute reporter number queued).answer
        = if reporter.fatal then .exit else .done := by
  have hfails : queued.stmt.fails = true := by
    rw [Stmt.fails, h]
    rfl
  rw [execute_session, execute_answer, h]
  simp [hfails, Bindings.storeAll, Effect.stored?, Effect.yielded?]

/-- What a run that has executed `before` makes of `e`, if this fails: it drops the statement and
    leaves all else as `before` has left it; then it ends, or goes on with `after`. -/
structure Drops (session : Session) (reporter : Reporter) (before : List (Int × Queued))
    (e : Int × Queued) (after : List (Int × Queued)) : Prop where
  queued : (executeAll before session reporter).session.queue.get? e.1 = some e.2
  dropped : (session.stepAt reporter before e).session =
    let reached := (executeAll before session reporter).session
    { reached with queue := reached.queue.erase e.1 }
  /-- If errors are fatal, the program ends here. -/
  ends : reporter.fatal = true →
    (session.run reporter).session = (session.stepAt reporter before e).session ∧
      (session.run reporter).answer = .exit
  /-- Otherwise the statements after it are executed in the state that it has left. -/
  goesOn : reporter.fatal = false →
    let step := session.stepAt reporter before e
    (session.run reporter).session = (executeAll after step.session step.reporter).session ∧
      (session.run reporter).answer = .done

theorem drops_of_fails (h : session.queue.agenda = before ++ e :: after)
    (hreached : (executeAll before session reporter).answer ≠ .exit) {failure : Failure}
    (hfails : e.2.stmt.effect = .fails failure) : Drops session reporter before e after := by
  obtain ⟨hdropped, hanswer⟩ := @execute_of_fails (executeAll before session reporter).session
    (executeAll before session reporter).reporter e.1 e.2 failure hfails
  rw [executeAll_fatal] at hanswer
  have hstep : (session.stepAt reporter before e).answer = if reporter.fatal then .exit else .done :=
    hanswer
  refine ⟨queued_at h, hdropped, fun hfatal => ?_, fun hfatal => ?_⟩
  · rw [if_pos hfatal] at hstep
    rw [run_at h hreached, if_pos hstep]
    exact ⟨rfl, hstep⟩
  · rw [if_neg (by simp [hfatal])] at hstep
    have hanswer : (session.run reporter).answer = .done := executeAll_answer _ _ hfatal
    rw [run_at h hreached, if_neg (by rw [hstep]; decide)] at hanswer ⊢
    exact ⟨rfl, hanswer⟩

/-- Failures leave the state of a session as it is. -/
structure KeepsState (session : Session) (reporter : Reporter) : Prop where
  /-- A line that cannot be read changes nothing, whatever is queued under its number. -/
  unreadable : ∀ line number failure, Stmt.infer line = .error failure →
    ((∃ expected remainder, failure = .malformed expected remainder) ∨
        ∃ shown, failure = .overflow shown) ∧
      (session.add reporter line number).session = session ∧
      (session.add reporter line number).answer = if reporter.fatal then .exit else .done
  /-- A statement is dropped if a run comes to it and it fails in the state reached then. -/
  failing : ∀ before e after, session.queue.agenda = before ++ e :: after →
    let reached := executeAll before session reporter
    reached.answer ≠ .exit →
    ∀ failure, (e.2.stmt.exec reached.session.bindings).1 = .error failure →
      Drops session reporter before e after
  noResult : session.results = [] → session.pop reporter = ⟨[], session, reporter, .noResult⟩
  unbound : ∀ name, name ∉ session.bindings.keys →
    session.lookup reporter name = ⟨[], session, reporter, .failed (.unboundName name)⟩

/-- Failures leave the state as it is, whatever it is and whether errors are fatal or not, and every
    statement is atomic, whatever is bound. -/
theorem failures_leave_state (session : Session) (reporter : Reporter) :
    KeepsState session reporter ∧
      ∀ (stmt : Stmt) (bindings : Bindings), stmt.Atomic bindings := by
  refine ⟨⟨?_, ?_, pop_of_nil, fun _ => lookup_of_not_mem⟩, Stmt.exec_atomic⟩
  · intro line number failure hinfer
    exact ⟨(Stmt.reads_iff.2 hinfer).error_cases, add_of_infer_error hinfer number⟩
  · intro before e after hsplit reached hreached failure hexec
    exact drops_of_fails hsplit hreached (Stmt.exec_eq_error_iff.1 hexec)

/-- A fatal run is ended by its first statement, and a line that cannot be read does not replace the
    second. -/
theorem failures_leave_state_at_exit :
    let failing : Queued := ⟨"1 / 0".toList, .expression (.operation 1 .div 0)⟩
    let waiting : Queued := ⟨"let a = 5".toList, .binding ['a'] (.number 5)⟩
    let session : Session :=
      { fresh inputPath with queue := ((∅ : Queue).insert 2 waiting).insert 1 failing }
    let reporter := Reporter.fresh true
    (session.queue.agenda = [] ++ (1, failing) :: [(2, waiting)] ∧
        (executeAll [] session reporter).answer ≠ .exit ∧
        (failing.stmt.exec session.bindings).1 = .error (.divisionByZero "1 / 0".toList) ∧
        Drops session reporter [] (1, failing) [(2, waiting)]) ∧
      Stmt.infer "let a".toList = .error (.malformed ['='] []) ∧
      (session.add reporter "let a".toList 2).session = session ∧
      session.results = [] ∧ session.pop reporter = ⟨[], session, reporter, .noResult⟩ ∧
      ['a'] ∉ session.bindings.keys ∧
      session.lookup reporter ['a'] = ⟨[], session, reporter, .failed (.unboundName ['a'])⟩ := by
  intro failing waiting session reporter
  have hkeeps := (failures_leave_state session reporter).1
  have hagenda : session.queue.agenda = [] ++ (1, failing) :: [(2, waiting)] := by
    refine Queue.ascends_eq_of_perm ?_ (Queue.agenda_ascends _) (by decide)
    exact (Queue.agenda_perm _).trans (List.Perm.swap ..)
  refine ⟨⟨hagenda, by decide, rfl, ?_⟩, rfl, ?_, rfl, ?_, by decide, ?_⟩
  · exact hkeeps.failing [] (1, failing) [(2, waiting)] hagenda (by decide) _ rfl
  · exact (hkeeps.unreadable "let a".toList 2 _ rfl).2.1
  · exact hkeeps.noResult rfl
  · exact hkeeps.unbound ['a'] (by decide)

end Session

end LetCalc
