import LetCalc.Proofs.Run

set_option autoImplicit false

/-! # What a session prints

While no other path has a line, all messages of a session come from the lines that it works on, and
from nothing else. So what a run prints is settled by the path, the bindings and the statements that
it executes (`executeAll_messages`), and what any command shows on an idle reporter does not depend on
the reporter (`perform_shown`), which it leaves idle again (`perform_idle`). -/

namespace LetCalc

namespace Agenda

/-- The messages of the statements of a session with the given path, where names are bound as given
    and then as they store. -/
def reports (path : Text) (bindings : Bindings) : List (Int × Queued) → List Message
  | [] => []
  | e :: rest =>
      (e.2.stmt.effect.contents bindings).map
          (Message.ofContent (Reporter.placesOf path ⟨e.2.line, e.1⟩))
        ++ reports path (bindings.storeAll (stores [e])) rest

theorem reports_append (path : Text) (bindings : Bindings) (es es' : List (Int × Queued)) :
    reports path bindings (es ++ es')
      = reports path bindings es ++ reports path (bindings.storeAll (stores es)) es' := by
  induction es generalizing bindings with
  | nil => rfl
  | cons e rest ih =>
      rw [List.cons_append, reports, reports, ih, List.append_assoc,
        ← storeAll_stores_append bindings [e] rest]
      rfl

end Agenda

/-- What a step shows: its answer, what it prints and the session afterwards. -/
def Step.shown (step : Step) : Answer × Text × Session := (step.answer, step.printed, step.session)

theorem Step.shown_eq {step other : Step} (hanswer : step.answer = other.answer)
    (hmessages : step.messages = other.messages) (hsession : step.session = other.session) :
    step.shown = other.shown := by
  rw [shown, shown, printed, printed, hanswer, hmessages, hsession]

namespace Session

open Agenda

/-! ## Runs -/

theorem executeAll_messages (es : List (Int × Queued)) {session : Session} {reporter : Reporter}
    (h : reporter.ClearBut session.path) : (executeAll es session reporter).messages
      = reports session.path session.bindings (executed reporter.fatal es) := by
  induction es generalizing session reporter with
  | nil => rfl
  | cons e rest ih =>
      obtain ⟨number, queued⟩ := e
      rw [executeAll_cons, executed, reports]
      have hstep : (session.execute reporter number queued).messages = _ := execute_messages ..
      rw [Reporter.places_registerLine h] at hstep
      by_cases hexit : reporter.fatal = true ∧ queued.stmt.fails = true
      · rw [if_pos hexit, if_pos hexit, hstep, reports, List.append_nil]
      · rw [if_neg hexit, if_neg hexit]
        show _ ++ (executeAll rest _ _).messages = _
        rw [hstep, ih (execute_clearBut number queued h), execute_fatal, execute_session,
          stores_cons]
        simp only [stores, List.filterMap_nil, List.append_nil]

theorem executeAll_clearBut (es : List (Int × Queued)) {session : Session} {reporter : Reporter}
    (h : reporter.ClearBut session.path) :
    (executeAll es session reporter).reporter.ClearBut session.path := by
  induction es generalizing session reporter with
  | nil => exact h
  | cons e rest ih =>
      obtain ⟨number, queued⟩ := e
      have hstep := execute_clearBut number queued h
      rw [executeAll_cons, ← execute_path session reporter number queued]
      split
      · exact hstep
      · exact ih hstep

theorem executeAll_idle (es : List (Int × Queued)) (session : Session) {reporter : Reporter}
    (h : reporter.Idle) : (executeAll es session reporter).reporter.Idle := by
  induction es generalizing session reporter with
  | nil => exact h
  | cons e rest ih =>
      obtain ⟨number, queued⟩ := e
      rw [executeAll_cons, if_neg (by simp [h.goesOn])]
      exact ih _ (execute_idle number queued h.goesOn (h.clearBut _))

variable {session : Session} {reporter : Reporter}

theorem run_messages (hfatal : reporter.fatal = false) (h : reporter.ClearBut session.path) :
    (session.run reporter).messages
      = reports session.path session.bindings session.queue.agenda := by
  rw [run, executeAll_messages _ h, executed_of_not_fatal hfatal]

/-! ## Additions -/

section

variable (session reporter) (line : Text) (number : Int)

theorem add_session : (session.add reporter line number).session =
    match Stmt.infer line with
    | .ok stmt => { session with queue := session.queue.insert number ⟨line, stmt⟩ }
    | .error _ => session := by
  unfold add
  cases Stmt.infer line <;> rfl

/-- Adding a line changes nothing but the queue. -/
theorem add_frame : (session.add reporter line number).session
    = { session with queue := (session.add reporter line number).session.queue } := by
  rw [add_session]
  cases Stmt.infer line <;> rfl

theorem add_answer : (session.add reporter line number).answer =
    match Stmt.infer line with
    | .ok stmt => .statement stmt
    | .error _ => if reporter.fatal then .exit else .done := by
  unfold add
  cases Stmt.infer line <;> rfl

theorem add_messages : (session.add reporter line number).messages =
    match Stmt.infer line with
    | .ok _ => []
    | .error failure =>
        [⟨.error, (reporter.registerLine session.path line number).places,
          failure.diagnosticIn (Stmt.trimmed line)⟩] := by
  unfold add
  cases Stmt.infer line <;> rfl

end

theorem add_idle (h : reporter.Idle) (line : Text) (number : Int) :
    (session.add reporter line number).reporter.Idle := by
  unfold add
  cases Stmt.infer line with
  | ok stmt => exact ((h.clearBut _).register _).idle_removeLine h.goesOn
  | error failure => exact Reporter.idle_settled h.goesOn

/-! ## All commands -/

theorem perform_idle (h : reporter.Idle) (command : Command) :
    (session.perform reporter command).reporter.Idle := by
  cases command with
  | add line number => exact add_idle h line number
  | run => exact executeAll_idle _ _ h
  | pop =>
      show (session.pop reporter).reporter.Idle
      unfold pop
      cases session.results.getLast? <;> exact h
  | lookup name =>
      show (session.lookup reporter name).reporter.Idle
      unfold lookup
      cases session.bindings.lookup name <;> exact h

/-- What a command shows is the same on all idle reporters. -/
theorem perform_shown {other : Reporter} (h : reporter.Idle) (hother : other.Idle)
    (command : Command) :
    (session.perform reporter command).shown = (session.perform other command).shown := by
  have hfatal : reporter.fatal = other.fatal := h.goesOn.trans hother.goesOn.symm
  cases command with
  | add line number =>
      show (session.add reporter line number).shown = (session.add other line number).shown
      apply Step.shown_eq
      · rw [add_answer, add_answer, hfatal]
      · rw [add_messages, add_messages, Reporter.places_registerLine (h.clearBut _),
          Reporter.places_registerLine (hother.clearBut _)]
      · rw [add_session, add_session]
  | run =>
      show (session.run reporter).shown = (session.run other).shown
      apply Step.shown_eq
      · rw [run, run, executeAll_ending, executeAll_ending, hfatal]
      · rw [run_messages h.goesOn (h.clearBut _), run_messages hother.goesOn (hother.clearBut _)]
      · rw [run_session h.goesOn, run_session hother.goesOn]
  | pop =>
      show (session.pop reporter).shown = (session.pop other).shown
      unfold pop
      cases session.results.getLast? <;> rfl
  | lookup name =>
      show (session.lookup reporter name).shown = (session.lookup other name).shown
      unfold lookup
      cases session.bindings.lookup name <;> rfl

end Session

end LetCalc
