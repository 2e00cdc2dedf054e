import LetCalc.Expr
import LetCalc.Table

set_option autoImplicit false

/-! # Statements

A statement binds a name to the value of an expression, or is an expression whose value is wanted.
Executing a statement changes at most the binding of its own name, and nothing at all if it
fails. Storing under a name that is already bound overwrites its value and keeps its place: there is
neither shadowing nor scope.

```
statement ::= "let" " "+ name " "* "=" " "* expression | expression
name      ::= ASCII-letter (letter | digit)*
```

A line is a statement when all of it, spaces and line breaks at its end apart, is read as one.
The form of a line is settled by its front: what starts with the keyword is a binding, and if it
fails as one nothing else is tried. -/

namespace LetCalc

/-! ## Bindings -/

/-- The bound names with their values, in the order of their first binding. -/
abbrev Bindings := Table Text Int

namespace Bindings

/-- Binds `name` to `n`. -/
def store (bindings : Bindings) (name : Text) (n : Int) : Bindings := bindings.insert name n

/-- The value of `name`. -/
def lookup (bindings : Bindings) (name : Text) : Except Failure Int :=
  match bindings.get? name with
  | some n => .ok n
  | none => .error (.unboundName name)

theorem lookup_eq_ok_iff {bindings : Bindings} {name : Text} {n : Int} :
    bindings.lookup name = .ok n ↔ bindings.get? name = some n := by
  unfold lookup
  cases bindings.get? name <;> simp

theorem lookup_eq_error_iff {bindings : Bindings} {name : Text} {failure : Failure} :
    bindings.lookup name = .error failure ↔
      failure = .unboundName name ∧ bindings.get? name = none := by
  unfold lookup
  cases bindings.get? name <;> simp [eq_comm]

/-- Whether a value is a set of bindings that agrees with these. `none` stands for a value that is no
    set of bindings. -/
def equals (bindings : Bindings) (other : Option Bindings) : Bool := other.any bindings.agrees

/-- One binding as a written entry. -/
def entryText (entry : Text × Int) : Text :=
  Quoted.quote entry.1 ++ ": NumericValue(number=".toList ++ Decimal.ofInt entry.2 ++ [')']

/-- All bindings as written entries, between braces and inside `Env(…)`. -/
def toText (bindings : Bindings) : Text :=
  "Env(\x7b".toList ++ List.intercalate [',', ' '] (bindings.entries.map entryText)
    ++ "\x7d)".toList

end Bindings

/-! ## Statements and their execution -/

/-- A single-line statement. -/
inductive Stmt where
  | binding (name : Text) (value : Expr)
  | expression (value : Expr)
deriving DecidableEq

namespace Stmt

/-- The word that a binding starts with. -/
def keyword : Text := ['l', 'e', 't']

/-- The text of a statement. -/
def toText : Stmt → Text
  | .binding name value => keyword ++ [' '] ++ name ++ [' ', '=', ' '] ++ value.toText
  | .expression value => value.toText

/-- The name that a statement binds. -/
def target? : Stmt → Option Text
  | .binding name _ => some name
  | .expression _ => none

/-- The expression that a statement evaluates. -/
def body : Stmt → Expr
  | .binding _ value => value
  | .expression value => value

/-- Executes a statement: what it yields, and the bindings after it. A binding stores its value and
    yields none. A failure leaves the bindings as they were. -/
def exec (stmt : Stmt) (bindings : Bindings) : Except Failure (Option Int) × Bindings :=
  match stmt.body.eval, stmt.target? with
  | .error failure, _ => (.error failure, bindings)
  | .ok n, some name => (.ok none, bindings.store name n)
  | .ok n, none => (.ok (some n), bindings)

/-! ## The forms of statements -/

/-- The forms that a statement can have. -/
inductive Form where
  | binding
  | expression
deriving DecidableEq

/-- Reads a binding. -/
def parseBinding : Parser Stmt := do
  Parser.tag keyword
  let _ ← Parser.spaces1
  let name ← Parser.identifier
  let _ ← Parser.spaces
  Parser.tag ['=']
  let _ ← Parser.spaces
  let value ← Expr.parse
  return .binding name value

/-- Reads an expression as a statement. -/
def parseExpression : Parser Stmt := do
  let value ← Expr.parse
  return .expression value

namespace Form

/-- Whether a line is meant to have this form. -/
def claims : Form → Text → Bool
  | .binding, line => keyword.isPrefixOf line
  | .expression, _ => true

/-- Reads a statement of this form. -/
def parse : Form → Parser Stmt
  | .binding => parseBinding
  | .expression => parseExpression

/-- All forms, in the order in which they are offered a line. -/
def all : List Form := [.binding, .expression]

end Form

/-! ## Whole lines -/

/-- The line without spaces and line breaks at its end. Tabs stay. -/
def trimmed (line : Text) : Text :=
  Text.trimEnd (fun c => c = ' ' || c = '\r' || c = '\n') line

/-- Accepts what `p` reads if it reads all of the text. -/
def complete (p : Parser Stmt) (s : Text) : Except Failure Stmt :=
  match p s with
  | .error failure => .error failure
  | .ok (stmt, []) => .ok stmt
  | .ok (_, rest) => .error (.malformed "end of input".toList rest)

/-- The statement on a line, of the first of the given forms that claims the line. -/
def inferAmong (forms : List Form) (line : Text) : Except Failure Stmt :=
  match forms.find? (·.claims (trimmed line)) with
  | some form => complete form.parse (trimmed line)
  | none => .error (.malformed "statement".toList (trimmed line))

/-- The statement on a line. -/
def infer (line : Text) : Except Failure Stmt := inferAmong Form.all line

end Stmt

end LetCalc
