import LetCalc.Proofs.Isolation

set_option autoImplicit false

/-! # Histories

A history turns into a list of turns: for every command the session that it was for, as it was at
that moment, and the step that it took. What is said of a workspace after a history is said of its
turns, and proved for one more turn at a time: of the workspace as a whole (`perform_induction`), or
of one session with its own turns (`perform_preserves`). -/

namespace LetCalc

/-! ## What no command changes -/

namespace Session

theorem lookup_session (session : Session) (reporter : Reporter) (name : Text) :
    (session.lookup reporter name).session = session := by
  unfold lookup
  cases session.bindings.lookup name <;> rfl

theorem lookup_reporter (session : Session) (reporter : Reporter) (name : Text) :
    (session.lookup reporter name).reporter = reporter := by
  unfold lookup
  cases session.bindings.lookup name <;> rfl

theorem pop_reporter (session : Session) (reporter : Reporter) :
    (session.pop reporter).reporter = reporter := by
  unfold pop
  cases session.results.getLast? <;> rfl

/-- Taking a result changes nothing but the results. -/
theorem pop_frame (session : Session) (reporter : Reporter) : (session.pop reporter).session
    = { session with results := (session.pop reporter).session.results } := by
  unfold pop
  cases session.results.getLast? <;> rfl

theorem add_reporter (session : Session) (reporter : Reporter) (line : Text) (number : Int) :
    (session.add reporter line number).reporter =
      let working := reporter.registerLine session.path line number
      match Stmt.infer line with
      | .ok _ => working.removeLine session.path
      | .error _ => working.settled := by
  unfold add
  cases Stmt.infer line <;> rfl

theorem perform_fatal (session : Session) (reporter : Reporter) (command : Command) :
    (session.perform reporter command).reporter.fatal = reporter.fatal := by
  cases command with
  | add line number =>
      show (session.add reporter line number).reporter.fatal = _
      rw [add_reporter]
      cases Stmt.infer line with
      | ok stmt => rfl
      | error failure => exact Reporter.settled_fatal _
  | run => exact executeAll_fatal ..
  | pop => exact congrArg Reporter.fatal (session.pop_reporter reporter)
  | lookup name => exact congrArg Reporter.fatal (session.lookup_reporter reporter name)

theorem perform_path (session : Session) (reporter : Reporter) (command : Command) :
    (session.perform reporter command).session.path = session.path := by
  cases command with
  | add line number =>
      show (session.add reporter line number).session.path = _
      rw [add_frame]
  | run =>
      show (session.run reporter).session.path = _
      rw [run, executeAll_session]
  | pop =>
      show (session.pop reporter).session.path = _
      rw [pop_frame]
  | lookup name => exact congrArg Session.path (session.lookup_session reporter name)

/-- The statements that a command executes. -/
def executions (session : Session) (fatal : Bool) : Command → List (Int × Queued)
  | .run => Agenda.executed fatal session.queue.agenda
  | .add _ _ | .pop | .lookup _ => []

end Session

namespace Workspace

open Session (Command)

/-! ## Turns -/

/-- A command that was performed. -/
structure Turn where
  position : Nat
  /-- The session at the position, before the command. -/
  session : Session
  command : Command
  step : Step

/-- The turns that a history is performed in. -/
def turns (workspace : Workspace) : List (Nat × Command) → List Turn
  | [] => []
  | (position, command) :: rest =>
      match workspace.sessions[position]? with
      | none => workspace.turns rest
      | some session =>
          let step := session.perform workspace.reporter command
          ⟨position, session, command, step⟩ :: (workspace.after position step).turns rest

/-- The turns of the session at a position. -/
def turnsOf (position : Nat) (turns : List Turn) : List Turn :=
  turns.filter fun turn => turn.position = position

theorem turnsOf_append (position : Nat) (turns turns' : List Turn) :
    turnsOf position (turns ++ turns') = turnsOf position turns ++ turnsOf position turns' :=
  List.filter_append ..

section

variable (workspace : Workspace) (history : List (Nat × Command))

theorem turns_cons_of_none {position : Nat} (command : Command)
    (h : workspace.sessions[position]? = none) :
    workspace.turns ((position, command) :: history) = workspace.turns history := by
  rw [turns, h]

theorem turns_cons_of_some {position : Nat} {session : Session} (command : Command)
    (h : workspace.sessions[position]? = some session) :
    workspace.turns ((position, command) :: history) =
      let step := session.perform workspace.reporter command
      ⟨position, session, command, step⟩ :: (workspace.after position step).turns history := by
  rw [turns, h]

/-- The steps of a history are those of its turns. -/
theorem perform_steps : (workspace.perform history).1
    = (workspace.turns history).map fun turn => (turn.position, turn.step) := by
  induction history generalizing workspace with
  | nil => rfl
  | cons entry rest ih =>
      obtain ⟨position, command⟩ := entry
      cases hsession : workspace.sessions[position]? with
      | none => rw [perform_cons_of_none _ _ hsession, turns_cons_of_none _ _ _ hsession, ih]
      | some session =>
          rw [perform_cons_of_some _ _ hsession, turns_cons_of_some _ _ _ hsession]
          exact congrArg (_ :: ·) (ih _)

/-- A session takes a turn for each of its commands. -/
theorem commands_turnsOf {position : Nat} (h : position < workspace.sessions.length) :
    (turnsOf position (workspace.turns history)).map Turn.command
      = commandsFor position history := by
  induction history generalizing workspace with
  | nil => rfl
  | cons entry rest ih =>
      obtain ⟨acting, command⟩ := entry
      cases hactor : workspace.sessions[acting]? with
      | none =>
          -- The session is there, so this command was for none.
          have hacting : acting ≠ position := by
            rintro rfl
            exact absurd h (Nat.not_lt.2 (List.getElem?_eq_none_iff.1 hactor))
          rw [turns_cons_of_none _ _ _ hactor, commandsFor_cons_of_ne hacting, ih _ h]
      | some actor =>
          have hafter := ih (workspace.after acting (actor.perform workspace.reporter command))
            (by simpa [after] using h)
          rw [turns_cons_of_some _ _ _ hactor]
          by_cases hacting : acting = position
          · subst hacting
            rw [commandsFor_cons_self, ← hafter]
            simp [turnsOf]
          · rw [commandsFor_cons_of_ne hacting, ← hafter]
            simp [turnsOf, hacting]

end

/-! ## Induction on histories -/

/-- What every turn preserves holds after a history. -/
theorem perform_induction {Holds : List Turn → Workspace → Prop}
    (hturn : ∀ turns workspace position session command,
      workspace.sessions[position]? = some session → Holds turns workspace →
        let step := session.perform workspace.reporter command
        Holds (turns ++ [⟨position, session, command, step⟩]) (workspace.after position step))
    (history : List (Nat × Command)) {workspace : Workspace} {turns : List Turn}
    (h : Holds turns workspace) :
    Holds (turns ++ workspace.turns history) (workspace.perform history).2 := by
  induction history generalizing workspace turns with
  | nil => simpa [perform, Workspace.turns] using h
  | cons entry rest ih =>
      obtain ⟨position, command⟩ := entry
      cases hsession : workspace.sessions[position]? with
      | none =>
          rw [perform_cons_of_none _ _ hsession, turns_cons_of_none _ _ _ hsession]
          exact ih h
      | some session =>
          rw [perform_cons_of_some _ _ hsession, turns_cons_of_some _ _ _ hsession,
            List.append_cons]
          exact ih (hturn _ _ _ _ command hsession h)

/-- What every turn of a session preserves holds after a history, whatever the other sessions do. -/
theorem perform_preserves {fatal : Bool} {position : Nat} {Holds : List Turn → Session → Prop}
    (hturn : ∀ turns session reporter command, reporter.fatal = fatal → Holds turns session →
      let step := session.perform reporter command
      Holds (turns ++ [⟨position, session, command, step⟩]) step.session)
    (history : List (Nat × Command)) {workspace : Workspace}
    (hfatal : workspace.reporter.fatal = fatal) {session : Session}
    (hsession : workspace.sessions[position]? = some session) (h : Holds [] session) :
    ∃ session', (workspace.perform history).2.sessions[position]? = some session' ∧
      Holds (turnsOf position (workspace.turns history)) session' := by
  -- Along with the session the kind of the reporter is kept: it may decide what a turn does.
  let Kept (turns : List Turn) (workspace : Workspace) : Prop := workspace.reporter.fatal = fatal ∧
    ∃ session, workspace.sessions[position]? = some session ∧ Holds (turnsOf position turns) session
  have hkept : Kept ([] ++ workspace.turns history) (workspace.perform history).2 := by
    refine perform_induction ?_ history ⟨hfatal, session, hsession, h⟩
    rintro turns workspace acting actor command hactor ⟨hfatal, session, hsession, h⟩
    refine ⟨(actor.perform_fatal workspace.reporter command).trans hfatal, ?_⟩
    rw [turnsOf_append]
    by_cases hacting : acting = position
    · subst hacting
      obtain rfl := Option.some.inj (hsession.symm.trans hactor)
      refine ⟨_, List.getElem?_set_self (List.getElem?_eq_some_iff.1 hsession).1, ?_⟩
      simpa [turnsOf] using hturn _ session workspace.reporter command hfatal h
    · -- A turn of another session is neither among its turns nor does it touch the session.
      refine ⟨session, (List.getElem?_set_ne hacting).trans hsession, ?_⟩
      simpa [turnsOf, hacting] using h
  exact hkept.2

/-! ## The start of a history -/

theorem create_fatal (fatal : Bool) (paths : List Text) :
    (create fatal paths).reporter.fatal = fatal := by
  have hfold : ∀ reporter : Reporter,
      (paths.foldl Reporter.registerFile reporter).fatal = reporter.fatal := by
    induction paths with
    | nil => exact fun _ => rfl
    | cons path rest ih => exact fun reporter => ih (reporter.registerFile path)
  exact hfold _

theorem create_session (fatal : Bool) (paths : List Text) (position : Fin paths.length) :
    (create fatal paths).sessions[position.val]? = some (Session.fresh (paths.get position)) := by
  show (paths.map Session.fresh)[position.val]? = _
  rw [List.getElem?_map, List.getElem?_eq_getElem position.isLt]
  rfl

/-- The sessions keep the paths that they were given. -/
theorem path_of_session {fatal : Bool} {paths : List Text} {history : List (Nat × Command)}
    {position : Fin paths.length} {session : Session}
    (h : ((create fatal paths).perform history).2.sessions[position.val]? = some session) :
    session.path = paths.get position := by
  let Holds (_ : List Turn) (session : Session) : Prop := session.path = paths.get position
  have hturn : ∀ turns session reporter command, reporter.fatal = fatal → Holds turns session →
      let step := session.perform reporter command
      Holds (turns ++ [⟨position, session, command, step⟩]) step.session :=
    fun _ session reporter command _ hpath => (session.perform_path reporter command).trans hpath
  obtain ⟨session', hsession', hpath⟩ := perform_preserves hturn history
    (create_fatal fatal paths) (create_session fatal paths position) rfl
  rw [Option.some.inj (h.symm.trans hsession')]
  exact hpath

end Workspace

end LetCalc
