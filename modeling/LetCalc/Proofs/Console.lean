import LetCalc.Console
import LetCalc.Proofs.Actions
import LetCalc.Proofs.Transcript

set_option autoImplicit false

/-! # Commands on the console

On the console a command is the command of the session if all the messages that are due can be
written, and otherwise it breaks off (`Console.add_cases`, `Console.executeAll_cases`). A run breaks
off at one statement (`Console.BreaksOff`): this has been taken off the queue and done its work on the
session, only its message is missing, and the statements after it are still queued. As long as lines
are added under numbers that can be written, nothing of this happens, and what holds of the commands
of sessions holds on the console (`Console.step?_eq`). -/

namespace LetCalc

/-! ## The numbers of lines -/

theorem Message.mem_numbers_iff {message : Message} {n : Int} : n ∈ message.numbers ↔
    ∃ place ∈ message.places,
      (message.severity = .warning → message.places.head? = some place) ∧ place.number = n := by
  obtain ⟨severity, places, d⟩ := message
  cases severity with
  | warning =>
      show n ∈ (places.head?.map Place.number).toList ↔ _
      rw [Option.mem_toList, Option.map_eq_some_iff]
      constructor
      · rintro ⟨place, hplace, rfl⟩
        exact ⟨place, List.mem_of_mem_head? hplace, fun _ => hplace, rfl⟩
      · rintro ⟨place, -, hfirst, rfl⟩
        exact ⟨place, hfirst rfl, rfl⟩
  | error => simp [numbers]

theorem Message.not_writable_iff {message : Message} : ¬ message.Writable ↔
    ∃ place ∈ message.places,
      (message.severity = .warning → message.places.head? = some place) ∧
        4300 < (Decimal.ofNat place.number.natAbs).length := by
  simp only [Writable, mem_numbers_iff, Classical.not_forall, exists_prop,
    ← Decimal.not_writable_iff]
  constructor
  · rintro ⟨n, ⟨place, hplace, hfirst, rfl⟩, hlong⟩
    exact ⟨place, hplace, hfirst, hlong⟩
  · rintro ⟨place, hplace, hfirst, hlong⟩
    exact ⟨place.number, ⟨place, hplace, hfirst, rfl⟩, hlong⟩

namespace Reporter

/-- The numbers of all lines that are being worked on can be written. -/
def PlacesWritable (reporter : Reporter) : Prop :=
  ∀ place ∈ reporter.places, Decimal.Writable place.number

variable {reporter : Reporter}

theorem PlacesWritable.register (h : reporter.PlacesWritable) (path : Text)
    {origin : Option Origin} (horigin : ∀ o, origin = some o → Decimal.Writable o.number) :
    (reporter.register path origin).PlacesWritable := by
  intro place hplace
  obtain ⟨e, he, hfound⟩ := List.mem_filterMap.1 hplace
  rcases Table.mem_entries_insert.1 he with rfl | ⟨-, hold⟩
  · obtain ⟨o, ho, hsome⟩ := Option.bind_eq_some_iff.1 hfound
    split at hsome
    · cases hsome
    · cases hsome
      exact horigin o ho
  · exact h place (List.mem_filterMap.2 ⟨e, hold, hfound⟩)

theorem PlacesWritable.registerLine (h : reporter.PlacesWritable) (path line : Text) {number : Int}
    (hnumber : Decimal.Writable number) :
    (reporter.registerLine path line number).PlacesWritable :=
  h.register path fun _ ho => Option.some.inj ho ▸ hnumber

theorem PlacesWritable.removeLine (h : reporter.PlacesWritable) (path : Text) :
    (reporter.removeLine path).PlacesWritable := h.register path nofun

theorem PlacesWritable.settled (h : reporter.PlacesWritable) : reporter.settled.PlacesWritable := by
  unfold Reporter.settled
  split
  · exact h
  · intro place hplace
    obtain ⟨e, he, hfound⟩ := List.mem_filterMap.1 hplace
    obtain ⟨e', -, rfl⟩ := List.mem_map.1 he
    cases hfound

end Reporter

theorem Message.writable_of_places {places : List Place}
    (h : ∀ place ∈ places, Decimal.Writable place.number) (content : Severity × Diagnostic) :
    (ofContent places content).Writable := by
  intro n hn
  obtain ⟨place, hplace, -, rfl⟩ := mem_numbers_iff.1 hn
  exact h place hplace

/-! ## What a session reports -/

/-- All numbers that the step says, and all that the reporter would now say, can be written. -/
structure Step.NumbersWritable (step : Step) : Prop where
  messages : ∀ message ∈ step.messages, message.Writable
  places : step.reporter.PlacesWritable

namespace Session

variable {session : Session} {reporter : Reporter}

/-- All numbers in the queue can be written. -/
def QueueWritable (session : Session) : Prop :=
  ∀ number ∈ session.queue.keys, Decimal.Writable number

/-- The number of the line that a command adds can be written. -/
def Command.Writable : Command → Prop
  | .add _ number => Decimal.Writable number
  | .run | .pop | .lookup _ => True

theorem add_writable (h : reporter.PlacesWritable) (line : Text) {number : Int}
    (hnumber : Decimal.Writable number) :
    (session.add reporter line number).NumbersWritable := by
  have hworking := h.registerLine session.path line hnumber
  unfold add
  cases Stmt.infer line with
  | ok stmt => exact ⟨nofun, hworking.removeLine session.path⟩
  | error failure =>
      refine ⟨fun message hmessage => ?_, hworking.settled⟩
      obtain rfl := List.mem_singleton.1 hmessage
      exact Message.writable_of_places hworking (.error, _)

theorem execute_writable (h : reporter.PlacesWritable) {number : Int}
    (hnumber : Decimal.Writable number) (queued : Queued) :
    (session.execute reporter number queued).NumbersWritable := by
  have hworking := h.registerLine session.path queued.line hnumber
  constructor
  · rw [execute_messages]
    intro message hmessage
    obtain ⟨content, -, rfl⟩ := List.mem_map.1 hmessage
    exact Message.writable_of_places hworking content
  · rw [execute_reporter]
    split
    · exact hworking.settled
    · exact hworking.removeLine session.path

theorem executeAll_writable {es : List (Int × Queued)} (h : reporter.PlacesWritable)
    (hnumbers : ∀ e ∈ es, Decimal.Writable e.1) :
    (executeAll es session reporter).NumbersWritable := by
  induction es generalizing session reporter with
  | nil => exact ⟨nofun, h⟩
  | cons e rest ih =>
      obtain ⟨number, queued⟩ := e
      obtain ⟨hnumber, hnumbers⟩ := List.forall_mem_cons.1 hnumbers
      have hstep := @execute_writable session _ h _ hnumber queued
      have hlast := @ih (session.execute reporter number queued).session _ hstep.places hnumbers
      rw [executeAll_cons]
      split
      · exact hstep
      · exact ⟨List.forall_mem_append.2 ⟨hstep.messages, hlast.messages⟩, hlast.places⟩

theorem run_writable (h : reporter.PlacesWritable) (hqueue : session.QueueWritable) :
    (session.run reporter).NumbersWritable :=
  executeAll_writable h fun e he =>
    hqueue e.1 (List.mem_map_of_mem (session.queue.agenda_perm.mem_iff.1 he))

theorem perform_writable (h : reporter.PlacesWritable) (hqueue : session.QueueWritable)
    {command : Command} (hcommand : command.Writable) :
    (session.perform reporter command).NumbersWritable := by
  cases command with
  | add line number => exact add_writable h line hcommand
  | run => exact run_writable h hqueue
  | pop =>
      show (session.pop reporter).NumbersWritable
      unfold pop
      cases session.results.getLast? <;> exact ⟨nofun, h⟩
  | lookup name =>
      show (session.lookup reporter name).NumbersWritable
      unfold lookup
      cases session.bindings.lookup name <;> exact ⟨nofun, h⟩

theorem perform_queueWritable (hqueue : session.QueueWritable) (reporter : Reporter)
    {command : Command} (hcommand : command.Writable) :
    (session.perform reporter command).session.QueueWritable := by
  cases command with
  | add line number =>
      show (session.add reporter line number).session.QueueWritable
      rw [add_session]
      cases Stmt.infer line with
      | ok stmt =>
          intro other hother
          rw [Table.keys_insert] at hother
          split at hother
          · exact hqueue other hother
          · rcases List.mem_append.1 hother with hother | hother
            · exact hqueue other hother
            · exact List.mem_singleton.1 hother ▸ hcommand
      | error failure => exact hqueue
  | run =>
      show (session.run reporter).session.QueueWritable
      intro number hnumber
      rw [run, executeAll_session] at hnumber
      refine hqueue number ?_
      rw [← Table.contains_iff, Table.contains] at hnumber ⊢
      rw [Queue.get?_eraseAll] at hnumber
      split at hnumber
      · cases hnumber
      · exact hnumber
  | pop =>
      show (session.pop reporter).session.QueueWritable
      unfold pop
      cases session.results.getLast? <;> exact hqueue
  | lookup name =>
      show (session.lookup reporter name).session.QueueWritable
      unfold lookup
      cases session.bindings.lookup name <;> exact hqueue

end Session

/-! ## The session's step and the console's -/

namespace Console

variable {session : Session} {reporter : Reporter}

theorem write_of_writable (working : Reporter) {step : Step}
    (h : ∀ message ∈ step.messages, message.Writable) : write working step = step := if_pos h

theorem write_of_not_writable (working : Reporter) {step : Step}
    (h : ¬ ∀ message ∈ step.messages, message.Writable) : write working step =
      { step with messages := [], reporter := working, answer := .unwritable } := if_neg h

theorem execute_session (session : Session) (reporter : Reporter) (number : Int) (queued : Queued) :
    (execute session reporter number queued).session
      = (session.execute reporter number queued).session := by
  unfold execute write
  split <;> rfl

/-- Adding a line on the console is adding it, if its failure can be reported. Otherwise nothing
    happens, except that the line stays the one that is being worked on. -/
theorem add_cases (session : Session) (reporter : Reporter) (line : Text) (number : Int) :
    (∀ message ∈ (session.add reporter line number).messages, message.Writable) ∧
        add session reporter line number = session.add reporter line number ∨
      (¬ ∀ message ∈ (session.add reporter line number).messages, message.Writable) ∧
        add session reporter line number
          = ⟨[], session, reporter.registerLine session.path line number, .unwritable⟩ := by
  by_cases h : ∀ message ∈ (session.add reporter line number).messages, message.Writable
  · exact Or.inl ⟨h, write_of_writable _ h⟩
  · refine Or.inr ⟨h, ?_⟩
    rw [add, write_of_not_writable _ h]
    -- A line that is read has nothing to report.
    have hmessages := Session.add_messages session reporter line number
    have hsession := Session.add_session session reporter line number
    cases hinfer : Stmt.infer line with
    | ok stmt =>
        simp only [hinfer] at hmessages
        exact absurd (by rw [hmessages]; nofun) h
    | error failure =>
        simp only [hinfer] at hsession
        rw [hsession]

/-- The step breaks off at one of the given statements. Those before it are executed, and what they
    report is written. The statement itself is off the queue and has done its work on the session;
    its message is missing, and its line is still being worked on. -/
def BreaksOff (session : Session) (reporter : Reporter) (es : List (Int × Queued)) (step : Step) :
    Prop :=
  ∃ before number queued after, es = before ++ (number, queued) :: after ∧
    let reached := Session.executeAll before session reporter
    let due := reached.session.execute reached.reporter number queued
    reached.answer = .done ∧ (∀ message ∈ reached.messages, message.Writable) ∧
      (¬ ∀ message ∈ due.messages, message.Writable) ∧
      step = ⟨reached.messages, due.session,
        reached.reporter.registerLine session.path queued.line number, .unwritable⟩

theorem BreaksOff.cons {number : Int} {queued : Queued} {rest : List (Int × Queued)} {last : Step}
    (hdone : (session.execute reporter number queued).answer = .done)
    (hwritable : ∀ message ∈ (session.execute reporter number queued).messages, message.Writable)
    (h : BreaksOff (session.execute reporter number queued).session
      (session.execute reporter number queued).reporter rest last) :
    BreaksOff session reporter ((number, queued) :: rest)
      { last with
        messages := (session.execute reporter number queued).messages ++ last.messages } := by
  obtain ⟨before, number', queued', after, rfl, hreached, hbefore, hbroken, rfl⟩ := h
  have hexit : ¬ (reporter.fatal = true ∧ queued.stmt.fails = true) := by
    intro hexit
    rw [Session.execute_answer, if_pos hexit] at hdone
    cases hdone
  refine ⟨(number, queued) :: before, number', queued', after, rfl, ?_⟩
  rw [Session.executeAll_cons, if_neg hexit, ← Session.execute_path session reporter number queued]
  exact ⟨hreached, List.forall_mem_append.2 ⟨hwritable, hbefore⟩, hbroken, rfl⟩

/-- Executing statements on the console is executing them, if every message can be written. Otherwise
    it breaks off at one of them. -/
theorem executeAll_cases (es : List (Int × Queued)) (session : Session) (reporter : Reporter) :
    (∀ message ∈ (Session.executeAll es session reporter).messages, message.Writable) ∧
        executeAll es session reporter = Session.executeAll es session reporter ∨
      (¬ ∀ message ∈ (Session.executeAll es session reporter).messages, message.Writable) ∧
        BreaksOff session reporter es (executeAll es session reporter) := by
  induction es generalizing session reporter with
  | nil => exact Or.inl ⟨nofun, rfl⟩
  | cons e rest ih =>
      obtain ⟨number, queued⟩ := e
      have hanswer := Session.execute_answer session reporter number queued
      rw [Session.executeAll_cons]
      by_cases hwritable :
          ∀ message ∈ (session.execute reporter number queued).messages, message.Writable
      · rw [executeAll, execute, write_of_writable _ hwritable]
        by_cases hexit : reporter.fatal = true ∧ queued.stmt.fails = true
        · rw [if_pos hexit] at hanswer ⊢
          rw [if_neg (by rw [hanswer]; decide)]
          exact Or.inl ⟨hwritable, rfl⟩
        · rw [if_neg hexit] at hanswer ⊢
          rw [if_pos hanswer]
          rcases ih (session.execute reporter number queued).session
            (session.execute reporter number queued).reporter with ⟨hlast, heq⟩ | ⟨hlast, hbroken⟩
          · rw [heq]
            exact Or.inl ⟨List.forall_mem_append.2 ⟨hwritable, hlast⟩, rfl⟩
          · exact Or.inr ⟨fun hall => hlast (List.forall_mem_append.1 hall).2,
              hbroken.cons hanswer hwritable⟩
      · -- The message of the first statement is missing, and the others are not reached.
        refine Or.inr ⟨?_, [], number, queued, rest, rfl, rfl, nofun, hwritable, ?_⟩
        · split
          · exact hwritable
          · exact fun hall => hwritable (List.forall_mem_append.1 hall).1
        · rw [executeAll, execute, write_of_not_writable _ hwritable]
          rfl

theorem BreaksOff.answer {es : List (Int × Queued)} {step : Step}
    (h : BreaksOff session reporter es step) : step.answer = .unwritable := by
  obtain ⟨before, number, queued, after, -, -, -, -, rfl⟩ := h
  rfl

/-- What was written by then are the first of the messages that were due. -/
theorem BreaksOff.messages {es : List (Int × Queued)} {step : Step}
    (h : BreaksOff session reporter es step) :
    step.messages <+: (Session.executeAll es session reporter).messages ∧
      ∀ message ∈ step.messages, message.Writable := by
  obtain ⟨before, number, queued, after, rfl, hreached, hwritable, -, rfl⟩ := h
  rw [Session.executeAll_append (by rw [hreached]; decide)]
  exact ⟨List.prefix_append _ _, hwritable⟩

/-! ## Numbers that can be written -/

/-- If all numbers can be written, the console does to a session just what the session does. -/
theorem perform_eq (h : reporter.PlacesWritable) (hqueue : session.QueueWritable)
    {command : Session.Command} (hcommand : command.Writable) :
    perform session reporter command = session.perform reporter command := by
  have hmessages := (Session.perform_writable h hqueue hcommand).messages
  cases command with
  | add line number => exact write_of_writable _ hmessages
  | run =>
      rcases executeAll_cases session.queue.agenda session reporter with ⟨-, heq⟩ | ⟨hbroken, -⟩
      · exact heq
      · exact absurd hmessages hbroken
  | pop | lookup => rfl

/-- It does to a reporter just what the reporter does. -/
theorem act_eq (h : reporter.PlacesWritable) (action : Reporter.Action) :
    act reporter action = reporter.perform action := by
  refine if_pos fun message hmessage => ?_
  have hperforms := Reporter.performs reporter action
  generalize reporter.perform action = outcome at hperforms hmessage
  cases hperforms with
  | writes | refuses | runsThrough | passesExit => cases hmessage
  | warns | reports | settles | exits | suppresses | passesOn =>
      obtain rfl := List.mem_singleton.1 hmessage
      exact Message.writable_of_places h (_, _)

end Console

/-- All numbers in a workspace can be written. -/
structure Workspace.NumbersWritable (workspace : Workspace) : Prop where
  places : workspace.reporter.PlacesWritable
  queues : ∀ session ∈ workspace.sessions, session.QueueWritable

theorem Workspace.numbersWritable_create (fatal : Bool) (paths : List Text) :
    (Workspace.create fatal paths).NumbersWritable := by
  constructor
  · show (paths.foldl Reporter.registerFile (Reporter.fresh fatal)).PlacesWritable
    have hfresh : (Reporter.fresh fatal).PlacesWritable := nofun
    generalize Reporter.fresh fatal = reporter at hfresh
    induction paths generalizing reporter with
    | nil => exact hfresh
    | cons path rest ih => exact ih _ (hfresh.register path nofun)
  · intro session hsession
    obtain ⟨path, -, rfl⟩ := List.mem_map.1 hsession
    nofun

/-- In a workspace in which all numbers can be written, a step on the console is that of the
    workspace, and as long as lines are added under such numbers, it stays one. -/
theorem Console.step?_eq {workspace : Workspace} (h : workspace.NumbersWritable)
    {command : Session.Command} (hcommand : command.Writable) (position : Nat) :
    step? workspace position command = workspace.step? position command ∧
      ∀ step ∈ workspace.step? position command, (workspace.after position step).NumbersWritable := by
  unfold step? Workspace.step?
  cases hsession : workspace.sessions[position]? with
  | none => exact ⟨rfl, nofun⟩
  | some session =>
      have hqueue := h.queues session (List.mem_of_getElem? hsession)
      refine ⟨congrArg some (perform_eq h.places hqueue hcommand), ?_⟩
      rintro step ⟨⟩
      refine ⟨(Session.perform_writable h.places hqueue hcommand).places, ?_⟩
      intro other hother
      rcases List.mem_or_eq_of_mem_set hother with hother | rfl
      · exact h.queues other hother
      · exact Session.perform_queueWritable hqueue _ hcommand

end LetCalc
