import LetCalc.Text.Alphanumeric

set_option autoImplicit false

/-! # Scanning

What can go wrong with a line of the calculator, from scanning to evaluation, is a failure. How a
failure is shown is the business of diagnostics; a failure carries only what they need.

A parser takes the input not yet read and gives a result with the rest of the input, or fails. The
scanners here are the parsers that everything else is made of: each splits its input after the
longest run of a class of characters, or removes a fixed text from its front. Nothing is lost
(`takeWhile_append_dropWhile`), and a scanner that fails names what it expected and leaves the whole
input as the remainder. -/

namespace LetCalc

/-! ## Failures of the language -/

/-- What went wrong with a line. -/
inductive Failure where
  /-- The input does not go on with what was expected; `remainder` is the input not yet read. -/
  | malformed (expected remainder : Text)
  /-- A number leaves the range of 32-bit integers; `shown` stands for it in messages. -/
  | overflow (shown : Text)
  /-- The expression divides by zero; an empty text stands for an unknown expression. -/
  | divisionByZero (expression : Text)
  /-- No binding has this name. -/
  | unboundName (name : Text)
deriving DecidableEq

/-! ## Parsers and scanners -/

/-- A computation that reads from the front of a text, or fails. -/
abbrev Parser (α : Type) := StateT Text (Except Failure) α

namespace Parser

variable {α : Type}

/-- Fails at the present place because `what` is missing. -/
def expected (what : Text) : Parser α := fun s => .error (.malformed what s)

/-- Tries `p`, and if it finds its input malformed, `q` from the same place. Any other failure of
    `p` stands. -/
def orElse (p q : Parser α) : Parser α := fun s =>
  match p s with
  | .error (.malformed _ _) => q s
  | outcome => outcome

/-- Takes the longest run of characters that satisfy `accept`. -/
def takeWhile (accept : Char → Bool) : Parser Text := fun s =>
  .ok (s.takeWhile accept, s.dropWhile accept)

/-- Takes the longest run of characters that satisfy `accept`, which must not be empty. -/
def takeWhile1 (accept : Char → Bool) (what : Text) : Parser Text := fun s =>
  if s.takeWhile accept = [] then expected what s else takeWhile accept s

/-- Takes a run of one or more decimal digits. -/
def digits : Parser Text := takeWhile1 Char.isDigit "digits".toList

/-- Takes a name: an ASCII letter, then letters and digits of any script. -/
def identifier : Parser Text := fun s =>
  if s.head?.any Char.isAlpha then takeWhile isAlphanumeric s
  else expected "identifier".toList s

/-- Takes a run of spaces. Tabs and line breaks are no spaces. -/
def spaces : Parser Text := takeWhile (· = ' ')

/-- Takes a run of one or more spaces. -/
def spaces1 : Parser Text := takeWhile1 (· = ' ') "whitespace".toList

/-- Removes the text `t` from the front of the input. -/
def tag (t : Text) : Parser Unit := fun s =>
  if t.isPrefixOf s then .ok ((), s.drop t.length) else expected t s

end Parser

end LetCalc
