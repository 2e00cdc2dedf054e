import LetCalc.Scan
import LetCalc.Template

set_option autoImplicit false

/-! # Diagnostics

A diagnostic is what is shown of a failure: a message, plain and with its arguments in bold, and the
text that the message is about with the span at fault. The excerpt reprints that text with the span
painted, and marks the span on a line below with a caret and tildes.

A notice is a diagnostic in the form in which a caller asks for it: the message in the notation
for templates, the texts it is about, and the span at fault in the first of them. A notice can be
badly made, and then there is no diagnostic. Whether it is, and how, does not depend on what the
texts are, only on the template and on how many texts there are. -/

namespace LetCalc

/-- What is shown of a failure or a warning. -/
structure Diagnostic where
  /-- The message. -/
  message : Text
  /-- The message with its arguments in bold. -/
  styled : Text
  /-- The text that the message is about. -/
  subject : Text
  /-- Where the span at fault starts in the subject, as a signed index. -/
  start : Int
  /-- Where the span at fault stops. -/
  stop : Int
  /-- Whether an excerpt of the subject is shown. -/
  excerpt : Bool
  /-- Whether the fault lies in the calculator itself. -/
  internal : Bool
deriving DecidableEq

namespace Diagnostic

/-- A diagnostic on the whole of `subject`, with `t` filled for its message. -/
def compose {n : Nat} (t : Template n) (args : Fin n → Text) (subject : Text) : Diagnostic where
  message := t.fill args
  styled := t.fill fun i => Style.bold (args i)
  subject := subject
  start := 0
  stop := subject.length
  excerpt := true
  internal := false

/-- The diagnostic with its span shown in `source`, at the place where only `remainder` was left. -/
def located (d : Diagnostic) (source remainder : Text) : Diagnostic :=
  let start : Int := (source.length : Int) - (remainder.length : Int)
  { d with subject := source, start := start, stop := start + 1, excerpt := true }

/-! ## The excerpt -/

/-- Where the painted span stops: it has at least one column. -/
def spanStop (d : Diagnostic) : Int := max d.stop (d.start + 1)

/-- The subject with the span painted. -/
def excerptLine (colour : Colour) (d : Diagnostic) : Text :=
  d.subject.before d.start ++ Style.paint colour (d.subject.between d.start d.spanStop)
    ++ d.subject.after d.spanStop

/-- The marker under the span: a caret under its first column, tildes under the others. -/
def marker (d : Diagnostic) : Text := '^' :: Text.repeated (d.spanStop - d.start - 1) '~'

/-- The line with the marker, painted. -/
def markerLine (colour : Colour) (d : Diagnostic) : Text :=
  Text.repeated d.start ' ' ++ Style.paint colour d.marker

/-- The two lines of the excerpt. -/
def excerptText (colour : Colour) (d : Diagnostic) : Text :=
  [' ', ' '] ++ d.excerptLine colour ++ Text.newline ++ [' ', ' '] ++ d.markerLine colour

/-- Whether the excerpt is shown: the diagnostic asks for it, it is about the user's text, and there
    is such a text. -/
def showsExcerpt (d : Diagnostic) : Bool := !d.internal && d.subject ≠ [] && d.excerpt

end Diagnostic

/-! ## Diagnostics of failures -/

namespace Failure

/-- The diagnostic of a failure. Only a division by zero has a span of its own. -/
def diagnostic : Failure → Diagnostic
  | .malformed what _ =>
      { Diagnostic.compose (Template.around "expected ".toList []) (fun _ => what) what with
        stop := 0, excerpt := false }
  | .overflow shown =>
      { Diagnostic.compose (Template.around ['\x27'] "' overflows a 32-bit integer".toList)
          (fun _ => shown) shown with excerpt := false }
  | .divisionByZero [] =>
      { Diagnostic.compose (Template.ofText "division by zero".toList : Template 0) nofun [] with
        excerpt := false }
  | .divisionByZero (c :: rest) =>
      Diagnostic.compose (Template.around ['\x27'] "' divides by zero".toList)
        (fun _ => c :: rest) (c :: rest)
  | .unboundName name =>
      { Diagnostic.compose (Template.around "binding with name '".toList "' does not exist".toList)
          (fun _ => name) name with excerpt := false }

/-- The message of a failure. -/
def message (failure : Failure) : Text := failure.diagnostic.message

/-- The diagnostic of a failure met in `source`: malformed input is shown at its place there. -/
def diagnosticIn (source : Text) (failure : Failure) : Diagnostic :=
  match failure with
  | .malformed _ remainder => failure.diagnostic.located source remainder
  | _ => failure.diagnostic

end Failure

/-! ## Notices -/

/-- A request for a diagnostic. -/
structure Notice where
  /-- The message, in the notation for templates. -/
  template : Text
  /-- The texts that fill the fields; the first is the subject. -/
  expressions : List Text
  /-- Where the span at fault starts in the subject, as a signed index. -/
  start : Int
  /-- Where it stops; -1 stands for the end of the subject. -/
  stop : Int
  /-- Whether an excerpt of the subject is wanted. -/
  excerpt : Bool
  /-- Whether the fault lies in the calculator itself. -/
  internal : Bool
deriving DecidableEq

namespace Notice

/-- What is wrong with a notice. -/
inductive Fault where
  /-- The template cannot be read, or not with that many texts. -/
  | template (fault : Template.Fault)
  /-- There is no subject. -/
  | noSubject
deriving DecidableEq

/-- The wording of a fault. -/
def Fault.message : Fault → Text
  | .template fault => fault.message
  | .noSubject => "list index out of range".toList

/-- The diagnostic that a notice asks for. -/
def diagnostic (notice : Notice) : Except Fault Diagnostic :=
  match Template.read notice.expressions.length notice.template, notice.expressions.head? with
  | .error fault, _ => .error (.template fault)
  | .ok _, none => .error .noSubject
  | .ok template, some subject =>
      .ok
        { Diagnostic.compose template notice.expressions.get subject with
          start := notice.start
          stop := if notice.stop = -1 then (subject.length : Int) else notice.stop
          excerpt := notice.excerpt
          internal := notice.internal }

end Notice

end LetCalc
