import LetCalc.Session

set_option autoImplicit false

/-! # The console

Messages are data until the console writes them, and that can fail: a message says the numbers of
lines, which may be any integers, and not every integer can be written (`Message.Writable`). Whoever
reports then breaks off in the middle of its work. Nothing of the message is written, the line stays
registered as the one being worked on, and neither a block that guards the work nor a reporter that is
not fatal goes on.

A command on the console is the command of the session as long as its messages can be written. A run
breaks off at the first statement whose message cannot be, with that statement taken off the queue
and the statements after it left there. -/

namespace LetCalc.Console

/-! ## Steps of a reporter -/

/-- Performs an action. One whose message cannot be written does nothing to the reporter, and what was
    raised by the attempt to write comes out of it. -/
def act (reporter : Reporter) (action : Reporter.Action) : Reporter.Outcome :=
  let outcome := reporter.perform action
  if ∀ message ∈ outcome.messages, message.Writable then outcome
  else ⟨[], reporter, .escaped "ValueError".toList Decimal.unwritableMessage⟩

/-! ## Commands of a session -/

/-- Writes the messages of a step for which `working` was the reporter at work. If they cannot be
    written, the step breaks off. -/
def write (working : Reporter) (step : Step) : Step :=
  if ∀ message ∈ step.messages, message.Writable then step
  else { step with messages := [], reporter := working, answer := .unwritable }

/-- Reads a line and queues its statement under the given number. -/
def add (session : Session) (reporter : Reporter) (line : Text) (number : Int) : Step :=
  write (reporter.registerLine session.path line number) (session.add reporter line number)

/-- Takes the statement with the given number off the queue and executes it. -/
def execute (session : Session) (reporter : Reporter) (number : Int) (queued : Queued) : Step :=
  write (reporter.registerLine session.path queued.line number)
    (session.execute reporter number queued)

/-- Executes the given statements one after the other, until the program ends or a message cannot be
    written. -/
def executeAll : List (Int × Queued) → Session → Reporter → Step
  | [], session, reporter => ⟨[], session, reporter, .done⟩
  | (number, queued) :: rest, session, reporter =>
      let step := execute session reporter number queued
      if step.answer = .done then
        let last := executeAll rest step.session step.reporter
        { last with messages := step.messages ++ last.messages }
      else step

/-- Executes the queued statements in ascending order of their numbers. -/
def run (session : Session) (reporter : Reporter) : Step :=
  executeAll session.queue.agenda session reporter

/-- Performs a command. Only adding and running have anything to write. -/
def perform (session : Session) (reporter : Reporter) : Session.Command → Step
  | .add line number => add session reporter line number
  | .run => run session reporter
  | .pop => session.pop reporter
  | .lookup name => session.lookup reporter name

/-- Performs a command on the session at a position of a workspace. There is no step if there is no
    such session. -/
def step? (workspace : Workspace) (position : Nat) (command : Session.Command) : Option Step :=
  workspace.sessions[position]?.map fun session => perform session workspace.reporter command

end LetCalc.Console
