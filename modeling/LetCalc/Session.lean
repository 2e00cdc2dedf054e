import LetCalc.Reporter
import LetCalc.Stmt

set_option autoImplicit false

/-! # Sessions

A session owns one set of bindings. Lines are added under a line number: each is read at once, and
its statement is queued. A run takes the queued statements in the order of their numbers, whatever
the order in which they were added, and executes them: bindings are stored, and the values of the
other statements are appended to the results. A statement leaves the queue before it is executed, so
one that fails is not tried again, and a run that was ended early goes on behind it.

A queue holds statements under their line numbers, each with the line it was read from. Its agenda is
what a run works through: all entries of the queue (`Queue.agenda_perm`), in strictly ascending order
of their numbers (`Queue.agenda_ascends`), whatever the order in which they were queued.

Errors go to a reporter, which sessions may share. Every command answers with a `Step`: its
messages, the session and the reporter afterwards, and its answer. A workspace is a reporter with the
sessions that share it. Sessions are named by their position, and different sessions may have the
same path. A history is a list of commands, each for one of the sessions. -/

namespace LetCalc

/-! ## Queues -/

/-- A queued statement with the line it was read from. -/
structure Queued where
  line : Text
  stmt : Stmt
deriving DecidableEq

/-- The statements to execute, by line number. -/
abbrev Queue := Table Int Queued

namespace Queue

/-- The entries of a queue in ascending order of their numbers. -/
def agenda (queue : Queue) : List (Int × Queued) := queue.ascending

theorem agenda_perm (queue : Queue) : queue.agenda.Perm queue.entries := queue.ascending_perm

theorem agenda_ascends (queue : Queue) : queue.agenda.Pairwise fun a b => a.1 < b.1 :=
  queue.ascending_ascends

end Queue

/-! ## Sessions and their steps -/

/-- The state of a session. -/
structure Session where
  /-- What the session's lines are said to come from. -/
  path : Text
  bindings : Bindings
  queue : Queue
  /-- The values of the executed expression statements, oldest first. -/
  results : List Int
deriving DecidableEq

/-- What a command answers. -/
inductive Answer where
  /-- Nothing. -/
  | done
  /-- The statement that was queued. -/
  | statement (stmt : Stmt)
  /-- A value. -/
  | value (n : Int)
  /-- The command failed, and the session is as it was. -/
  | failed (failure : Failure)
  /-- There is no result to take. -/
  | noResult
  /-- The program ends with exit code 1. -/
  | exit
  /-- The command broke off at a message that could not be written (`Console`). -/
  | unwritable
deriving DecidableEq

/-- The wording of the answer that there is no result to take. -/
def Answer.noResultMessage : Text := "pop from empty list".toList

/-- What a command leads to. -/
structure Step where
  messages : List Message
  session : Session
  reporter : Reporter
  answer : Answer
deriving DecidableEq

/-- What a step prints. -/
def Step.printed (step : Step) : Text := Message.transcript step.messages

namespace Session

/-- The path of lines that do not come from a file. -/
def inputPath : Text := "<in>".toList

/-- A session on which nothing has been done. -/
def fresh (path : Text) : Session := ⟨path, ∅, ∅, []⟩

/-- The step that ends with an error: it is reported, and the program ends or the command answers
    nothing. -/
def failing (session : Session) (reporter : Reporter) (d : Diagnostic) : Step :=
  ⟨[reporter.report d], session, reporter.settled, if reporter.fatal then .exit else .done⟩

/-! ## Adding lines -/

/-- Reads a line and queues its statement under the given number. -/
def add (session : Session) (reporter : Reporter) (line : Text) (number : Int) : Step :=
  let working := reporter.registerLine session.path line number
  match Stmt.infer line with
  | .error failure => session.failing working (failure.diagnosticIn (Stmt.trimmed line))
  | .ok stmt =>
      { messages := []
        session := { session with queue := session.queue.insert number ⟨line, stmt⟩ }
        reporter := working.removeLine session.path
        answer := .statement stmt }

/-! ## Running the queue -/

/-- The diagnostic of a binding that overwrites another. -/
def overwriteDiagnostic (name : Text) : Diagnostic :=
  { Diagnostic.compose (Template.around ['\x27'] "' overwrites previous binding".toList)
      (fun _ => name) name with excerpt := false }

/-- The name that a statement is about to overwrite: the one it binds, if that is bound. -/
def overwritten? (bindings : Bindings) (stmt : Stmt) : Option Text :=
  stmt.target?.filter bindings.contains

/-- The warning for a statement that binds a name which is already bound. -/
def overwriteWarnings (bindings : Bindings) (reporter : Reporter) (stmt : Stmt) : List Message :=
  ((overwritten? bindings stmt).map fun name => reporter.warning (overwriteDiagnostic name)).toList

/-- Takes the statement with the given number off the queue and executes it. -/
def execute (session : Session) (reporter : Reporter) (number : Int) (queued : Queued) : Step :=
  let taken := { session with queue := session.queue.erase number }
  let working := reporter.registerLine session.path queued.line number
  match queued.stmt.exec session.bindings with
  | (.error failure, bindings) =>
      failing { taken with bindings := bindings } working failure.diagnostic
  | (.ok result, bindings) =>
      { messages := overwriteWarnings session.bindings working queued.stmt
        session := { taken with
          bindings := bindings, results := session.results ++ result.toList }
        reporter := working.removeLine session.path
        answer := .done }

/-- Executes the given statements one after the other, until the program ends. -/
def executeAll : List (Int × Queued) → Session → Reporter → Step
  | [], session, reporter => ⟨[], session, reporter, .done⟩
  | (number, queued) :: rest, session, reporter =>
      let step := session.execute reporter number queued
      if step.answer = .exit then step
      else
        let last := executeAll rest step.session step.reporter
        { last with messages := step.messages ++ last.messages }

/-- Executes the queued statements in ascending order of their numbers. -/
def run (session : Session) (reporter : Reporter) : Step :=
  executeAll session.queue.agenda session reporter

/-! ## Results and values -/

/-- Takes the most recent result away and answers it. -/
def pop (session : Session) (reporter : Reporter) : Step :=
  match session.results.getLast? with
  | none => ⟨[], session, reporter, .noResult⟩
  | some n => ⟨[], { session with results := session.results.dropLast }, reporter, .value n⟩

/-- Answers the value of a name. -/
def lookup (session : Session) (reporter : Reporter) (name : Text) : Step :=
  match session.bindings.lookup name with
  | .ok n => ⟨[], session, reporter, .value n⟩
  | .error failure => ⟨[], session, reporter, .failed failure⟩

/-! ## Commands -/

/-- What can be asked of a session. -/
inductive Command where
  | add (line : Text) (number : Int)
  | run
  | pop
  | lookup (name : Text)
deriving DecidableEq

/-- Performs a command. -/
def perform (session : Session) (reporter : Reporter) : Command → Step
  | .add line number => session.add reporter line number
  | .run => session.run reporter
  | .pop => session.pop reporter
  | .lookup name => session.lookup reporter name

end Session

/-! ## Workspaces -/

/-- Sessions with the reporter they share. -/
structure Workspace where
  reporter : Reporter
  sessions : List Session
deriving DecidableEq

namespace Workspace

/-- A fresh session for each path, all on a fresh reporter that knows the paths. -/
def create (fatal : Bool) (paths : List Text) : Workspace where
  reporter := paths.foldl Reporter.registerFile (Reporter.fresh fatal)
  sessions := paths.map Session.fresh

/-- Performs a command on the session at a position. There is no step if there is no such
    session. -/
def step? (workspace : Workspace) (position : Nat) (command : Session.Command) : Option Step :=
  workspace.sessions[position]?.map fun session => session.perform workspace.reporter command

/-- The workspace after a step of the session at a position. -/
def after (workspace : Workspace) (position : Nat) (step : Step) : Workspace where
  reporter := step.reporter
  sessions := workspace.sessions.set position step.session

/-- Performs the commands of a history in order. The result holds the step of each command and the
    workspace at the end; commands for sessions that do not exist are passed over. -/
def perform (workspace : Workspace) : List (Nat × Session.Command) → List (Nat × Step) × Workspace
  | [] => ([], workspace)
  | (position, command) :: rest =>
      match workspace.step? position command with
      | none => workspace.perform rest
      | some step =>
          let (steps, final) := (workspace.after position step).perform rest
          ((position, step) :: steps, final)

end Workspace

end LetCalc
