import LetCalc.Diagnostic
import LetCalc.Table

set_option autoImplicit false

/-! # Reporting

A message is one error report or one warning: a diagnostic together with the places it comes from. A
report starts with a header for every place, a warning with a label for the first. Then come the
severity, the diagnostic's message with its arguments in bold, and the excerpt where one is
shown.

A reporter makes messages of errors and warnings, together with the lines they come from. It keeps a
traceback: for every path that was ever registered, the line being worked on, if there is one. After
an error a fatal reporter ends the program and leaves the traceback as it is; any other takes all
lines back, keeps the paths and goes on.

Everything that can be asked of a reporter is there as data: registering paths and lines, warning,
raising or just reporting an error, and running a block of work under its guard. Whatever happens
in the block comes out in one of three ways: an error of the language is raised, an exit passes
through, and anything else is reported as internal and then passes through as well. -/

namespace LetCalc

/-! ## Messages -/

/-- A line that is being worked on, with the path it comes from and its number. -/
structure Place where
  path : Text
  line : Text
  number : Int
deriving DecidableEq

/-- How grave a message is. -/
inductive Severity where
  | warning
  | error
deriving DecidableEq

namespace Severity

/-- The colour of a severity. -/
def colour : Severity → Colour
  | .warning => .magenta
  | .error => .red

/-- The word for a severity. -/
def word : Severity → Text
  | .warning => "warning: ".toList
  | .error => "error: ".toList

end Severity

/-- A report of an error, or a warning. -/
structure Message where
  severity : Severity
  /-- The places that the message comes from, the first one first. -/
  places : List Place
  diagnostic : Diagnostic
deriving DecidableEq

namespace Place

/-- The two lines that say where an error comes from. Whether its number can be written at all is
    another matter (`Message.Writable`). -/
def header (place : Place) : Text :=
  "  File '".toList ++ place.path ++ "', line ".toList ++ Decimal.ofInt place.number
    ++ ":\n    ".toList ++ place.line ++ Text.newline

/-- The label that says where a warning comes from. -/
def label (place : Place) : Text :=
  Style.bold (place.path ++ [':'] ++ Decimal.ofInt place.number ++ [':', ' '])

end Place

namespace Message

/-- What a message starts with: where it comes from, and for an error in the calculator itself a
    mark of that. -/
def lead (message : Message) : Text :=
  match message.severity with
  | .warning => message.places.head?.elim [] Place.label
  | .error =>
      message.places.flatMap Place.header
        ++ if message.diagnostic.internal then Style.paint .red "[internal] ".toList else []

/-- The numbers that a message says: those of all places for an error, that of the first place for a
    warning. -/
def numbers (message : Message) : List Int :=
  match message.severity with
  | .warning => (message.places.head?.map Place.number).toList
  | .error => message.places.map Place.number

/-- The message can be written: every number that it says can be. -/
def Writable (message : Message) : Prop := ∀ n ∈ message.numbers, Decimal.Writable n

instance : DecidablePred Writable := fun message =>
  inferInstanceAs (Decidable (∀ n ∈ message.numbers, Decimal.Writable n))

/-- The excerpt on lines of its own, where it is shown. -/
def excerpt (message : Message) : Text :=
  if message.diagnostic.showsExcerpt then
    message.diagnostic.excerptText message.severity.colour ++ Text.newline
  else []

/-- The printed form of a message, if it can be written. -/
def toText (message : Message) : Text :=
  message.lead ++ Style.paint message.severity.colour message.severity.word
    ++ message.diagnostic.styled ++ Text.newline ++ message.excerpt

/-- The printed form of messages, one after the other. -/
def transcript (messages : List Message) : Text := messages.flatMap toText

end Message

/-! ## Reporters -/

/-- A line of a file or of the input, with its number. -/
structure Origin where
  line : Text
  number : Int
deriving DecidableEq

/-- The state of error reporting. -/
structure Reporter where
  /-- Whether an error ends the program. -/
  fatal : Bool
  /-- The registered paths with the line being worked on. -/
  traceback : Table Text (Option Origin)
deriving DecidableEq

namespace Reporter

/-- A reporter without registered paths. -/
def fresh (fatal : Bool) : Reporter := ⟨fatal, ∅⟩

/-! ## The traceback -/

/-- Writes the entry of a path: a line to work on, or none. -/
def register (reporter : Reporter) (path : Text) (origin : Option Origin) : Reporter :=
  { reporter with traceback := reporter.traceback.insert path origin }

/-- Registers a path, without a line. -/
def registerFile (reporter : Reporter) (path : Text) : Reporter := reporter.register path none

/-- Registers the line that is being worked on. -/
def registerLine (reporter : Reporter) (path line : Text) (number : Int) : Reporter :=
  reporter.register path (some ⟨line, number⟩)

/-- Takes the line of a path back. -/
def removeLine (reporter : Reporter) (path : Text) : Reporter := reporter.register path none

/-- Takes the lines of all paths back. -/
def reset (reporter : Reporter) : Reporter :=
  { reporter with traceback := reporter.traceback.mapValues fun _ => none }

/-- The place of an entry: there is one if the entry has a line that is not empty. -/
def place? (entry : Text × Option Origin) : Option Place :=
  entry.2.bind fun origin =>
    if origin.line = [] then none else some ⟨entry.1, origin.line, origin.number⟩

/-- The places that a message now comes from. -/
def places (reporter : Reporter) : List Place := reporter.traceback.entries.filterMap place?

/-! ## Errors and warnings -/

/-- The report of an error. -/
def report (reporter : Reporter) (d : Diagnostic) : Message := ⟨.error, reporter.places, d⟩

/-- A warning. -/
def warning (reporter : Reporter) (d : Diagnostic) : Message := ⟨.warning, reporter.places, d⟩

/-- The reporter after an error, if the program goes on. -/
def settled (reporter : Reporter) : Reporter :=
  if reporter.fatal then reporter else reporter.reset

end Reporter

/-! ## Steps of a reporter -/

/-- An error of the language, about to be made into a diagnostic. -/
inductive Problem where
  /-- A failure. -/
  | failure (cause : Failure)
  /-- A failure met in a source text. -/
  | failureIn (source : Text) (cause : Failure)
  /-- A notice, with what came of making its diagnostic. -/
  | notice (made : Except Notice.Fault Diagnostic)

/-- The diagnostic of a problem, unless it is a badly made notice. -/
def Problem.diagnostic : Problem → Except Notice.Fault Diagnostic
  | .failure cause => .ok cause.diagnostic
  | .failureIn source cause => .ok (cause.diagnosticIn source)
  | .notice made => made

/-- What interrupts a block of work. -/
inductive Incident where
  /-- An error of the language. -/
  | problem (problem : Problem)
  /-- The program is asked to end. -/
  | exit (code : Int)
  /-- Something that is no error of the language. -/
  | foreign (kind message : Text)

namespace Reporter

/-- What can be asked of a reporter. -/
inductive Action where
  | registerFile (path : Text)
  | registerLine (path line : Text) (number : Int)
  | removeLine (path : Text)
  /-- Warn with a notice, given what came of making its diagnostic. -/
  | warn (made : Except Notice.Fault Diagnostic)
  | raise (problem : Problem)
  | report (problem : Problem)
  /-- Run a block of work that is interrupted, or that is not. -/
  | guard (incident : Option Incident)

/-- How an action ends. -/
inductive Ending where
  /-- Without an answer. -/
  | done
  /-- The block ran through. -/
  | clean
  /-- The error in the block was reported, and the program goes on. -/
  | suppressed
  /-- The program ends with this code. -/
  | exit (code : Int)
  /-- What interrupted the block comes out of it. -/
  | escaped (kind message : Text)
  /-- The action was badly made and did nothing. -/
  | refused (fault : Notice.Fault)
deriving DecidableEq

/-- The result of an action. -/
structure Outcome where
  messages : List Message
  reporter : Reporter
  ending : Ending
deriving DecidableEq

/-- The diagnostic of something that is no error of the language. -/
def foreignDiagnostic (kind message : Text) : Diagnostic :=
  let shown := kind ++ [':', ' '] ++ message
  { Diagnostic.compose (Template.around "unknown error: '".toList ['\x27']) (fun _ => shown) shown
    with internal := true }

/-- Raises an error; `calm` is the ending if the program goes on. -/
def raise (reporter : Reporter) (calm : Ending) (d : Diagnostic) : Outcome :=
  ⟨[reporter.report d], reporter.settled, if reporter.fatal then .exit 1 else calm⟩

/-- Goes on with a diagnostic, unless it could not be made. -/
def withDiagnostic (reporter : Reporter) (made : Except Notice.Fault Diagnostic)
    (next : Diagnostic → Outcome) : Outcome :=
  match made with
  | .error fault => ⟨[], reporter, .refused fault⟩
  | .ok d => next d

/-- Performs an action. -/
def perform (reporter : Reporter) : Action → Outcome
  | .registerFile path => ⟨[], reporter.registerFile path, .done⟩
  | .registerLine path line number => ⟨[], reporter.registerLine path line number, .done⟩
  | .removeLine path => ⟨[], reporter.removeLine path, .done⟩
  | .warn made =>
      reporter.withDiagnostic made fun d => ⟨[reporter.warning d], reporter, .done⟩
  | .raise problem => reporter.withDiagnostic problem.diagnostic (reporter.raise .done)
  | .report problem =>
      reporter.withDiagnostic problem.diagnostic fun d => ⟨[reporter.report d], reporter, .done⟩
  | .guard none => ⟨[], reporter, .clean⟩
  | .guard (some (.problem problem)) =>
      reporter.withDiagnostic problem.diagnostic (reporter.raise .suppressed)
  | .guard (some (.exit code)) => ⟨[], reporter, .exit code⟩
  | .guard (some (.foreign kind message)) =>
      ⟨[reporter.report (foreignDiagnostic kind message)], reporter, .escaped kind message⟩

end Reporter

end LetCalc
