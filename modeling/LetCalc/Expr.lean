import LetCalc.Scan
import LetCalc.Text.Decimal
import LetCalc.Text.Quoted

set_option autoImplicit false

/-! # Expressions

An expression is a number, or one operation on two numbers: operands are never expressions
themselves. Expressions print in one way, with single spaces around the operator, and evaluate to a
32-bit integer or fail.

Integers are computed exactly and then checked against the range of signed 32-bit integers: a result
outside it is a failure, it never wraps. Division rounds toward zero, and dividing by zero is a
failure of its own. Both failures carry the text of the expression at fault. Where an operator is
applied without such a text, an overflow shows the number itself; that takes a number which can be
written.

```
expression ::= number " "* operator " "* number | number
number     ::= digit+
operator   ::= "+" | "-" | "*" | "/"
```

An operation is tried first. Where the input is malformed as one, the number at its front is the
expression, and the rest of the input begins right after its digits. A number beyond 32 bits is no
malformed input: it fails for good. -/

namespace LetCalc

/-! ## Checked arithmetic -/

/-- What can be raised instead of a number. -/
inductive Raised where
  /-- A failure of the language. -/
  | failure (cause : Failure)
  /-- The number is to be shown, and cannot be written. -/
  | unwritable
deriving DecidableEq

namespace Arithmetic

/-- The least 32-bit integer, -2^31. -/
def least : Int := -2147483648

/-- The greatest 32-bit integer, 2^31 - 1. -/
def greatest : Int := 2147483647

/-- The integer is one of 32 bits. -/
def Fits (n : Int) : Prop := least ≤ n ∧ n ≤ greatest

instance : DecidablePred Fits := fun _ => inferInstanceAs (Decidable (_ ∧ _))

/-- `n` if it is a 32-bit integer. Otherwise it overflows, shown as `expression`. -/
def checkedAs (n : Int) (expression : Text) : Except Failure Int :=
  if Fits n then .ok n else .error (.overflow expression)

/-- `n` if it is a 32-bit integer. Otherwise it overflows, shown as `expression`, or as its own
    digits if that is empty; there it matters that the number can be written. -/
def checked (n : Int) (expression : Text) : Except Raised Int :=
  if Fits n then .ok n
  else if expression = [] ∧ ¬ Decimal.Writable n then .error .unwritable
  else .error (.failure (.overflow (if expression = [] then Decimal.ofInt n else expression)))

theorem checked_of_ne_nil {expression : Text} (h : expression ≠ []) (n : Int) :
    checked n expression = (checkedAs n expression).mapError .failure := by
  simp only [checked, checkedAs, h, false_and, if_false]
  split <;> rfl

/-- The quotient of `lhs` and `rhs`, rounded toward zero and not checked. -/
def quotient (lhs rhs : Int) (expression : Text) : Except Failure Int :=
  if rhs = 0 then .error (.divisionByZero expression) else .ok (lhs.tdiv rhs)

end Arithmetic

/-! ## Operators -/

/-- The binary operators. -/
inductive Op where
  | add
  | sub
  | mul
  | div
deriving DecidableEq

namespace Op

/-- The character that stands for the operator. -/
def symbol : Op → Char
  | .add => '+'
  | .sub => '-'
  | .mul => '*'
  | .div => '/'

/-- The operator that a character stands for. -/
def ofSymbol? (c : Char) : Option Op :=
  if c = '+' then some .add
  else if c = '-' then some .sub
  else if c = '*' then some .mul
  else if c = '/' then some .div
  else none

theorem ofSymbol?_eq_some_iff {c : Char} {op : Op} : ofSymbol? c = some op ↔ c = op.symbol := by
  constructor
  · intro h
    simp only [ofSymbol?] at h
    grind [Op.symbol]
  · rintro rfl
    cases op <;> rfl

/-- The operator that a text stands for: only a text of one character can. -/
def ofText? : Text → Option Op
  | [c] => ofSymbol? c
  | _ => none

/-- The message for a text that stands for no operator. -/
def unknownMessage (symbol : Text) : Text := Quoted.quote symbol ++ " is not a valid Op".toList

/-- The operator's exact result. Division rounds toward zero. -/
def exact (op : Op) (lhs rhs : Int) (expression : Text) : Except Failure Int :=
  match op with
  | .add => .ok (lhs + rhs)
  | .sub => .ok (lhs - rhs)
  | .mul => .ok (lhs * rhs)
  | .div => Arithmetic.quotient lhs rhs expression

/-- The operator's result in an expression, which has to be a 32-bit integer. A failure carries the
    text of the expression. -/
def evaluate (op : Op) (lhs rhs : Int) (expression : Text) : Except Failure Int := do
  Arithmetic.checkedAs (← op.exact lhs rhs expression) expression

/-- The operator's result, which has to be a 32-bit integer. A failure carries `expression`, or if
    that is empty what can be said without it. -/
def apply (op : Op) (lhs rhs : Int) (expression : Text) : Except Raised Int := do
  Arithmetic.checked (← (op.exact lhs rhs expression).mapError .failure) expression

/-- Applying an operator in an expression is evaluating it. -/
theorem apply_of_ne_nil {expression : Text} (h : expression ≠ []) (op : Op) (lhs rhs : Int) :
    op.apply lhs rhs expression = (op.evaluate lhs rhs expression).mapError .failure := by
  unfold apply evaluate
  cases op.exact lhs rhs expression with
  | error failure => rfl
  | ok n => exact Arithmetic.checked_of_ne_nil h n

end Op

/-! ## Expressions -/

/-- A number, or an operation on two numbers. -/
inductive Expr where
  | number (n : Int)
  | operation (lhs : Int) (op : Op) (rhs : Int)
deriving DecidableEq

namespace Expr

/-- The text of an expression. -/
def toText : Expr → Text
  | .number n => Decimal.ofInt n
  | .operation lhs op rhs => Decimal.ofInt lhs ++ [' ', op.symbol, ' '] ++ Decimal.ofInt rhs

/-- The value of an expression. An operation that fails quotes its own text. -/
def eval : Expr → Except Failure Int
  | .number n => .ok n
  | .operation lhs op rhs => op.evaluate lhs rhs (toText (.operation lhs op rhs))

end Expr

/-! ## Reading numbers -/

namespace Literal

/-- The number of digits of the greatest 32-bit integer. -/
def maxDigits : Nat := (Decimal.ofInt Arithmetic.greatest).length

/-- The text that stands for a literal too long to be converted: the literal itself up to 20
    characters, otherwise its first ten and last five. -/
def abridged (digits : Text) : Text :=
  if digits.length ≤ 20 then digits
  else digits.take 10 ++ "...".toList ++ digits.drop (digits.length - 5)

variable {m : Type → Type} [Monad m]

/-- The number that a run of digits denotes, where `convert` is asked for the value of digits. A run
    with more significant digits than any 32-bit integer is refused before it is converted; a shorter
    one is converted and then checked. -/
def ofDigitsBy (convert : Text → m Nat) (digits : Text) : m (Except Failure Int) :=
  let significant := Decimal.significant digits
  if maxDigits < significant.length then return .error (.overflow (abridged digits))
  else return Arithmetic.checkedAs (← convert significant) digits

/-- Reads a number, where `convert` is asked for the value of its digits. -/
def parseBy (convert : Text → m Nat) (s : Text) : m (Except Failure (Int × Text)) :=
  match Parser.digits s with
  | .error failure => return .error failure
  | .ok (digits, rest) => return (← ofDigitsBy convert digits).map (·, rest)

/-- The number that a run of digits denotes. -/
def ofDigits (digits : Text) : Except Failure Int :=
  Id.run (ofDigitsBy (fun run => return Decimal.value run) digits)

/-- Reads a number. -/
def parse : Parser Int := fun s => Id.run (parseBy (fun run => return Decimal.value run) s)

theorem ofDigits_eq_ite (digits : Text) : ofDigits digits =
    if maxDigits < (Decimal.significant digits).length then .error (.overflow (abridged digits))
    else Arithmetic.checkedAs (Decimal.value (Decimal.significant digits)) digits := by
  unfold ofDigits ofDigitsBy
  dsimp only
  split <;> rfl

/-- A number is read by taking digits and then finding what they denote. -/
theorem parse_eq_bind : parse = (Parser.digits >>= fun digits => (ofDigits digits : Parser Int)) := by
  funext s
  show Id.run (parseBy _ s) = (Parser.digits s >>= fun taken => (ofDigits taken.1).map (·, taken.2))
  unfold parseBy
  cases Parser.digits s <;> rfl

end Literal

/-! ## Reading operators and expressions -/

/-- Reads an operator. -/
def Op.parse : Parser Op := fun s =>
  match s with
  | [] => Parser.expected "operator".toList s
  | c :: rest =>
      match Op.ofSymbol? c with
      | some op => .ok (op, rest)
      | none => Parser.expected "operator".toList s

namespace Expr

/-- Reads an operation, with any number of spaces around the operator. -/
def parseOperation : Parser Expr := do
  let lhs ← Literal.parse
  let _ ← Parser.spaces
  let op ← Op.parse
  let _ ← Parser.spaces
  let rhs ← Literal.parse
  return .operation lhs op rhs

/-- Reads a number as an expression. -/
def parseNumber : Parser Expr := do
  let n ← Literal.parse
  return .number n

/-- Reads an expression: an operation if there is one, otherwise a number. -/
def parse : Parser Expr := parseOperation.orElse parseNumber

end Expr

end LetCalc
