import LetCalc.Proofs.Transcript
import LetCalc.Session

set_option autoImplicit false

/-! # Sessions that share a reporter

Sessions on one reporter that is not fatal do not notice each other. Between commands the reporter is
idle (`idle_perform`), so what a command shows is what it would show on any other idle reporter, and
by induction on the history a session goes through the same states, and answers and prints the same,
as if its own commands were all there is (`perform_isolated`). It does not matter whether sessions
have the same path. -/

namespace LetCalc.Workspace

open Session (Command)

/-! ## Histories -/

section

variable {workspace : Workspace} {position : Nat} (command : Command)
  (rest : List (Nat × Command))

theorem perform_cons_of_none (h : workspace.sessions[position]? = none) :
    workspace.perform ((position, command) :: rest) = workspace.perform rest := by
  rw [perform, step?, h]
  rfl

theorem perform_cons_of_some {session : Session} (h : workspace.sessions[position]? = some session) :
    workspace.perform ((position, command) :: rest) =
      let step := session.perform workspace.reporter command
      let last := (workspace.after position step).perform rest
      ((position, step) :: last.1, last.2) := by
  rw [perform, step?, h]
  rfl

end

theorem idle_create (paths : List Text) : (create false paths).reporter.Idle := by
  have hfold : ∀ reporter : Reporter, reporter.Idle →
      (paths.foldl Reporter.registerFile reporter).Idle := by
    induction paths with
    | nil => exact fun _ h => h
    | cons path rest ih => exact fun _ h => ih _ (h.registerFile path)
  exact hfold _ ⟨rfl, fun _ => rfl⟩

theorem idle_perform (history : List (Nat × Command)) {workspace : Workspace}
    (h : workspace.reporter.Idle) : (workspace.perform history).2.reporter.Idle := by
  induction history generalizing workspace with
  | nil => exact h
  | cons entry rest ih =>
      obtain ⟨position, command⟩ := entry
      cases hsession : workspace.sessions[position]? with
      | none =>
          rw [perform_cons_of_none _ _ hsession]
          exact ih h
      | some session =>
          rw [perform_cons_of_some _ _ hsession]
          exact ih (Session.perform_idle h command)

/-! ## One session of several -/

/-- The commands of a history that are for the session at a position. -/
def commandsFor (position : Nat) (history : List (Nat × Command)) : List Command :=
  (history.filter fun entry => entry.1 = position).map Prod.snd

/-- The history of a workspace with one session only. -/
def soleHistory (commands : List Command) : List (Nat × Command) :=
  commands.map fun command => (0, command)

/-- What the steps of the session at a position show. -/
def shownBy (position : Nat) (steps : List (Nat × Step)) : List (Answer × Text × Session) :=
  (steps.filter fun entry => entry.1 = position).map fun entry => entry.2.shown

section

variable {position acting : Nat}

theorem commandsFor_cons_self (command : Command) (rest : List (Nat × Command)) :
    commandsFor position ((position, command) :: rest) = command :: commandsFor position rest := by
  simp [commandsFor]

theorem commandsFor_cons_of_ne (h : acting ≠ position) (command : Command)
    (rest : List (Nat × Command)) :
    commandsFor position ((acting, command) :: rest) = commandsFor position rest := by
  simp [commandsFor, h]

theorem shownBy_cons_self (step : Step) (rest : List (Nat × Step)) :
    shownBy position ((position, step) :: rest) = step.shown :: shownBy position rest := by
  simp [shownBy]

theorem shownBy_cons_of_ne (h : acting ≠ position) (step : Step) (rest : List (Nat × Step)) :
    shownBy position ((acting, step) :: rest) = shownBy position rest := by
  simp [shownBy, h]

end

theorem perform_soleHistory_cons (reporter : Reporter) (session : Session) (command : Command)
    (commands : List Command) : perform ⟨reporter, [session]⟩ (soleHistory (command :: commands)) =
      let step := session.perform reporter command
      let last := perform ⟨step.reporter, [step.session]⟩ (soleHistory commands)
      ((0, step) :: last.1, last.2) := rfl

/-- A session in an idle workspace goes through its commands as on an idle reporter of its own. -/
theorem perform_isolated_of_idle {workspace : Workspace} {position : Nat} {session : Session}
    {other : Reporter} (hidle : workspace.reporter.Idle) (hother : other.Idle)
    (hsession : workspace.sessions[position]? = some session) (history : List (Nat × Command)) :
    let commands := commandsFor position history
    let shared := workspace.perform history
    let alone := perform ⟨other, [session]⟩ (soleHistory commands)
    shownBy position shared.1 = shownBy 0 alone.1 ∧
      (shownBy position shared.1).length = commands.length ∧
      shared.2.sessions[position]? = alone.2.sessions[0]? := by
  induction history generalizing workspace session other with
  | nil => exact ⟨rfl, rfl, hsession⟩
  | cons entry rest ih =>
      obtain ⟨acting, command⟩ := entry
      by_cases hacting : acting = position
      · -- The session itself acts, and shows the same on both reporters.
        subst hacting
        have hshown := @Session.perform_shown session _ _ hidle hother command
        have hafter : (session.perform workspace.reporter command).session
            = (session.perform other command).session := congrArg (·.2.2) hshown
        have hset : (workspace.after acting (session.perform workspace.reporter command)).sessions[
            acting]? = some (session.perform other command).session := by
          rw [← hafter]
          exact List.getElem?_set_self (List.getElem?_eq_some_iff.1 hsession).1
        obtain ⟨hsteps, hlength, hfinal⟩ := ih (Session.perform_idle hidle command)
          (Session.perform_idle hother command) hset
        simp only [commandsFor_cons_self, perform_cons_of_some _ _ hsession,
          perform_soleHistory_cons, shownBy_cons_self, List.length_cons]
        exact ⟨by rw [hshown, hsteps], by rw [hlength], hfinal⟩
      · -- Another session acts, or none.
        simp only [commandsFor_cons_of_ne hacting]
        cases hactor : workspace.sessions[acting]? with
        | none =>
            rw [perform_cons_of_none _ _ hactor]
            exact ih hidle hother hsession
        | some actor =>
            have hset : (workspace.after acting (actor.perform workspace.reporter command)).sessions[
                position]? = some session := by
              rw [← hsession]
              exact List.getElem?_set_ne hacting
            simp only [perform_cons_of_some _ _ hactor, shownBy_cons_of_ne hacting]
            exact ih (Session.perform_idle hidle command) hother hset

end LetCalc.Workspace
