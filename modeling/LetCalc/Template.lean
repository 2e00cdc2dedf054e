import LetCalc.Text.Decimal
import LetCalc.Text.Quoted

set_option autoImplicit false

/-! # Message templates

A message is written once as a template, and filled with the texts it is about. In the notation for
templates a pair of braces is a field: the field holds the number of an argument, in decimal digits
of any script, or nothing, and then the fields take the arguments in turn. The two kinds of fields
cannot be mixed. A doubled brace stands for itself. No message of the calculator has a field with a
conversion, a format, an attribute or an index; what comes of these is not described, they are set
apart as a fault of their own (`Fault.elaborateField`).

A template knows how many arguments it is for, and its fields refer to these only, so filling cannot
fail: everything that can be wrong is found when the notation is read. What fills a field is copied
as it stands, braces included (`fill_append`, `fill_slot`). -/

namespace LetCalc

/-- One piece of a template for `n` arguments. -/
inductive Segment (n : Nat) where
  /-- A character of the message. -/
  | char (c : Char)
  /-- The place of an argument. -/
  | slot (i : Fin n)
deriving DecidableEq

/-- A message with places for `n` arguments. -/
abbrev Template (n : Nat) := List (Segment n)

namespace Template

variable {n : Nat}

/-! ## Filling -/

/-- The template that is `t` without any field. -/
def ofText (t : Text) : Template n := t.map .char

/-- The template for one argument between two texts. -/
def around (before after : Text) : Template 1 := ofText before ++ .slot 0 :: ofText after

/-- What a piece becomes in a message. -/
def segmentText (args : Fin n → Text) : Segment n → Text
  | .char c => [c]
  | .slot i => args i

/-- The message with the arguments in their places. -/
def fill (t : Template n) (args : Fin n → Text) : Text := t.flatMap (segmentText args)

theorem fill_append (t u : Template n) (args : Fin n → Text) :
    fill (t ++ u) args = fill t args ++ fill u args := List.flatMap_append

theorem fill_slot (i : Fin n) (t : Template n) (args : Fin n → Text) :
    fill (.slot i :: t) args = args i ++ fill t args := rfl

@[simp] theorem fill_ofText (t : Text) (args : Fin n → Text) : fill (ofText t) args = t := by
  induction t with
  | nil => rfl
  | cons c rest ih => simpa [fill, ofText, segmentText] using ih

theorem fill_around (before after : Text) (args : Fin 1 → Text) :
    fill (around before after) args = before ++ args 0 ++ after := by
  rw [around, fill_append, fill_slot, fill_ofText, fill_ofText, List.append_assoc]

/-! ## Reading the notation -/

/-- What is wrong with a template. -/
inductive Fault where
  /-- The template ends right after an opening brace. -/
  | loneOpening
  /-- A closing brace ends no field and is not doubled. -/
  | loneClosing
  /-- A field is not closed. -/
  | unclosedField
  /-- There is an opening brace inside a field. -/
  | openingInField
  /-- A field without a number comes after one with a number. -/
  | automaticAfterManual
  /-- A field with a number comes after one without. -/
  | manualAfterAutomatic
  /-- The number of a field is out of all proportion. -/
  | numberTooLong
  /-- There is no argument with this number. -/
  | missingArgument (number : Nat)
  /-- A field holds something that is not a number. -/
  | unknownField (name : Text)
  /-- A field has a conversion, a format, an attribute or an index, which are not described. -/
  | elaborateField
deriving DecidableEq

/-- The wording of a fault. -/
def Fault.message : Fault → Text
  | .loneOpening => "Single '\x7b' encountered in format string".toList
  | .loneClosing => "Single '\x7d' encountered in format string".toList
  | .unclosedField => "expected '\x7d' before end of string".toList
  | .openingInField => "unexpected '\x7b' in field name".toList
  | .automaticAfterManual =>
      "cannot switch from manual field specification to automatic field numbering".toList
  | .manualAfterAutomatic =>
      "cannot switch from automatic field numbering to manual field specification".toList
  | .numberTooLong => "Too many decimal digits in format string".toList
  | .missingArgument number =>
      "Replacement index ".toList ++ Decimal.ofNat number
        ++ " out of range for positional args tuple".toList
  | .unknownField name => Quoted.quote name
  | .elaborateField => "elaborate field".toList

/-- How the fields met so far refer to arguments. -/
inductive Numbering where
  /-- No field has been met. -/
  | undecided
  /-- The fields have no numbers, and the next one takes this argument. -/
  | automatic (next : Nat)
  /-- The fields have numbers. -/
  | manual
deriving DecidableEq

/-- The number of the argument that a field with the given content refers to, whether or not there is
    such an argument, and the numbering after the field. The digits at the front of the content may
    not amount to 2^63 or more, whatever follows them; a content that is more than digits is no
    number. -/
def refer (numbering : Numbering) (name : Text) : Except Fault (Nat × Numbering) :=
  let digits := DecimalDigit.leading name
  let number := DecimalDigit.number digits
  if name = [] then
    match numbering with
    | .undecided => .ok (0, .automatic 1)
    | .automatic next => .ok (next, .automatic (next + 1))
    | .manual => .error .automaticAfterManual
  else if Nat.pow 2 63 ≤ number then .error .numberTooLong
  else if digits.length = name.length then
    match numbering with
    | .automatic _ => .error .manualAfterAutomatic
    | _ => .ok (number, .manual)
  else .error (.unknownField name)

/-- The opening brace `U+007B`. -/
def openingBrace : Char := '\x7b'

/-- The closing brace `U+007D`. -/
def closingBrace : Char := '\x7d'

/-- Where the reader of a template stands. -/
inductive Place where
  /-- In the text of the message. -/
  | message
  /-- Right after an opening brace. -/
  | opened
  /-- Right after a closing brace. -/
  | closed
  /-- Inside a field with the given content so far. -/
  | field (name : Text)

/-- The characters that start a conversion, a format, an attribute and an index in a field. -/
def elaborations : List Char := ['!', ':', '.', '[']

variable {α : Type}

/-- Goes through the rest of a template from the given place, and puts together what `char` makes of
    each character of the message and `slot` of each field, given the number of the argument that the
    field refers to. -/
def scanFrom (char : Char → List α) (slot : Nat → Except Fault (List α)) :
    Place → Numbering → Text → Except Fault (List α)
  | .message, _, [] => .ok []
  | .opened, _, [] => .error .loneOpening
  | .closed, _, [] => .error .loneClosing
  | .field _, _, [] => .error .unclosedField
  | .message, numbering, c :: rest =>
      if c = openingBrace then scanFrom char slot .opened numbering rest
      else if c = closingBrace then scanFrom char slot .closed numbering rest
      else do return char c ++ (← scanFrom char slot .message numbering rest)
  | .opened, numbering, c :: rest =>
      if c = openingBrace then do return char c ++ (← scanFrom char slot .message numbering rest)
      else if c = closingBrace then do
        let (number, numbering) ← refer numbering []
        return (← slot number) ++ (← scanFrom char slot .message numbering rest)
      else if c ∈ elaborations then .error .elaborateField
      else scanFrom char slot (.field [c]) numbering rest
  | .closed, numbering, c :: rest =>
      if c = closingBrace then do return char c ++ (← scanFrom char slot .message numbering rest)
      else .error .loneClosing
  | .field name, numbering, c :: rest =>
      if c = openingBrace then .error .openingInField
      else if c = closingBrace then do
        let (number, numbering) ← refer numbering name
        return (← slot number) ++ (← scanFrom char slot .message numbering rest)
      else if c ∈ elaborations then .error .elaborateField
      else scanFrom char slot (.field (name ++ [c])) numbering rest

/-- The place of the argument with the given number, if there is one. -/
def place (n number : Nat) : Except Fault (Fin n) :=
  if h : number < n then .ok ⟨number, h⟩ else .error (.missingArgument number)

/-- The template for `n` arguments that a text denotes. -/
def read (n : Nat) (s : Text) : Except Fault (Template n) :=
  scanFrom (fun c => [.char c]) (fun number => (place n number).map fun i => [.slot i])
    .message .undecided s

end Template

end LetCalc
