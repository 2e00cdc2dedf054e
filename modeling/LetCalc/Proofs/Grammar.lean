import LetCalc.Proofs.Literal
import LetCalc.Stmt

set_option autoImplicit false

/-! # The grammar of statements

```
statement  ::= ("let" " "+ name " "* "=" " "*)? expression
expression ::= digit+ (" "* operator " "* digit+)?
name       ::= ASCII-letter (letter | digit)*
```

A derivation is kept as data: the digits as they are written and the width of every gap. From it one
can read off the text that it derives, the statement that it denotes, and whether its numbers are
32-bit integers. Digits in a name are part of the name and denote no number. The grammar is
unambiguous (`Derivation.text_inj`): maximal runs can be cancelled from the front of a text, so a
derivation can be recovered from its text piece by piece. -/

namespace LetCalc.Grammar

open Text

/-! ## Derivations -/

/-- A run of one or more decimal digits. -/
@[ext]
structure Numeral where
  digits : Text
  ne_nil : digits ≠ []
  isDigit : ∀ c ∈ digits, c.isDigit = true

/-- An operator with a second operand, and the spaces before and after the operator. -/
@[ext]
structure Tail where
  before : Nat
  op : Op
  after : Nat
  rhs : Numeral

/-- A derivation of an expression. -/
@[ext]
structure Phrase where
  lhs : Numeral
  tail : Option Tail

/-- What stands in front of the expression of a binding: the keyword with `margin + 1` spaces, the
    name, and the equals sign with the spaces before and after it. -/
@[ext]
structure Header where
  margin : Nat
  name : Text
  isName : name.IsName
  before : Nat
  after : Nat

/-- A derivation of a statement. -/
@[ext]
structure Derivation where
  header : Option Header
  phrase : Phrase

/-! ## What a derivation derives and denotes -/

namespace Numeral

/-- The number that the digits denote. -/
def value (n : Numeral) : Int := Decimal.value n.digits

/-- The number is a 32-bit integer. -/
def InRange (n : Numeral) : Prop := n.value ≤ Arithmetic.greatest

instance : DecidablePred InRange := fun n => inferInstanceAs (Decidable (n.value ≤ _))

theorem value_nonneg (n : Numeral) : 0 ≤ n.value := Int.natCast_nonneg _

/-- The digits that a number is printed with. -/
def ofNat (k : Nat) : Numeral where
  digits := Decimal.ofNat k
  ne_nil := Nat.toDigits_ne_nil
  isDigit := fun _ => Nat.isDigit_of_mem_toDigits (by decide) (by decide)

@[simp] theorem value_ofNat (k : Nat) : (ofNat k).value = k :=
  congrArg Int.ofNat (Decimal.value_ofNat k)

end Numeral

/-- The text of an operator with its operand. -/
def Tail.text (t : Tail) : Text := gap t.before ++ t.op.symbol :: (gap t.after ++ t.rhs.digits)

namespace Phrase

/-- The text that is derived. -/
def text (p : Phrase) : Text := p.lhs.digits ++ p.tail.elim [] Tail.text

/-- The expression that is denoted. -/
def expr (p : Phrase) : Expr :=
  p.tail.elim (.number p.lhs.value) fun t => .operation p.lhs.value t.op t.rhs.value

/-- All numbers are 32-bit integers. -/
def InRange (p : Phrase) : Prop := p.lhs.InRange ∧ ∀ t ∈ p.tail, t.rhs.InRange

end Phrase

/-- The text in front of the expression of a binding. -/
def Header.text (h : Header) : Text :=
  Stmt.keyword ++ (gap (h.margin + 1) ++ (h.name ++ (gap h.before ++ '=' :: gap h.after)))

/-- The text of a header that may be missing. -/
def headerText (header : Option Header) : Text := header.elim [] Header.text

/-- The statement that `e` makes behind a header that may be missing. -/
def headed (header : Option Header) (e : Expr) : Stmt :=
  header.elim (.expression e) fun h => .binding h.name e

namespace Derivation

/-- The text that is derived. -/
def text (d : Derivation) : Text := headerText d.header ++ d.phrase.text

/-- The statement that is denoted. -/
def stmt (d : Derivation) : Stmt := headed d.header d.phrase.expr

/-- All numbers are 32-bit integers. -/
def InRange (d : Derivation) : Prop := d.phrase.InRange

end Derivation

/-! ## Cancelling pieces from the front of a text -/

/-- No space and no digit stands for an operator. -/
theorem symbol_outside (op : Op) : decide (op.symbol = ' ') = false ∧ op.symbol.isDigit = false := by
  cases op <;> decide

theorem symbol_inj {op op' : Op} (h : op.symbol = op'.symbol) : op = op' := by
  have hop := Op.ofSymbol?_eq_some_iff.2 h
  rw [Op.ofSymbol?_eq_some_iff.2 rfl] at hop
  exact Option.some.inj hop

namespace Numeral

/-- A class without digits is stopped by a numeral. -/
theorem stops {accept : Char → Bool} (hdigit : ∀ c, c.isDigit = true → accept c = false)
    (n : Numeral) (rest : Text) : Stops accept (n.digits ++ rest) := by
  cases hn : n.digits with
  | nil => exact absurd hn n.ne_nil
  | cons c tail =>
      have hc : c ∈ n.digits := by
        rw [hn]
        exact List.mem_cons_self ..
      exact stops_cons.2 (hdigit c (n.isDigit c hc))

theorem stops_space (n : Numeral) (rest : Text) : Stops (· = ' ') (n.digits ++ rest) := by
  refine n.stops (fun c hc => decide_eq_false ?_) rest
  rintro rfl
  exact absurd hc (by decide)

theorem append_inj {n m : Numeral} {rest rest' : Text} (hrest : Stops Char.isDigit rest)
    (hrest' : Stops Char.isDigit rest') (h : n.digits ++ rest = m.digits ++ rest') :
    n = m ∧ rest = rest' := by
  obtain ⟨hdigits, hr⟩ := append_inj_of_stops n.isDigit hrest m.isDigit hrest' h
  exact ⟨Numeral.ext hdigits, hr⟩

/-- A text without a digit in front is no numeral with something after it. -/
theorem not_stops (n : Numeral) (rest : Text) : ¬ Stops Char.isDigit (n.digits ++ rest) := by
  intro h
  have htake := takeWhile_eq_nil_of_stops h
  rw [List.takeWhile_append_of_pos n.isDigit] at htake
  exact n.ne_nil (List.append_eq_nil_iff.1 htake).1

theorem exists_of_not_stops {s : Text} (h : ¬ Stops Char.isDigit s) :
    ∃ (n : Numeral) (rest : Text), s = n.digits ++ rest ∧ Stops Char.isDigit rest := by
  obtain ⟨run, rest, rfl, hrun, hrest⟩ := exists_run Char.isDigit s
  have hne : run ≠ [] := by
    rintro rfl
    exact h hrest
  exact ⟨⟨run, hne, hrun⟩, rest, rfl, hrest⟩

end Numeral

namespace Tail

theorem text_append (t : Tail) (rest : Text) : t.text ++ rest
    = gap t.before ++ t.op.symbol :: (gap t.after ++ (t.rhs.digits ++ rest)) := by
  simp only [text, List.append_assoc, List.cons_append]

theorem stops_isDigit (t : Tail) (rest : Text) : Stops Char.isDigit (t.text ++ rest) := by
  rw [text_append]
  exact stops_gap_append (by decide) (stops_cons.2 (symbol_outside t.op).2)

/-- Tails at the front of one text differ at most in where their operands end. -/
theorem append_inj_operand {t u : Tail} {rest rest' : Text}
    (h : t.text ++ rest = u.text ++ rest') : t.before = u.before ∧ t.op = u.op ∧
      t.after = u.after ∧ t.rhs.digits ++ rest = u.rhs.digits ++ rest' := by
  rw [text_append, text_append] at h
  obtain ⟨hbefore, h⟩ := gap_append_inj (stops_cons.2 (symbol_outside t.op).1)
    (stops_cons.2 (symbol_outside u.op).1) h
  obtain ⟨hop, h⟩ := List.cons.inj h
  obtain ⟨hafter, h⟩ := gap_append_inj (t.rhs.stops_space rest) (u.rhs.stops_space rest') h
  exact ⟨hbefore, symbol_inj hop, hafter, h⟩

theorem append_inj {t u : Tail} {rest rest' : Text} (hrest : Stops Char.isDigit rest)
    (hrest' : Stops Char.isDigit rest') (h : t.text ++ rest = u.text ++ rest') :
    t = u ∧ rest = rest' := by
  obtain ⟨hbefore, hop, hafter, h⟩ := append_inj_operand h
  obtain ⟨hrhs, hr⟩ := Numeral.append_inj hrest hrest' h
  exact ⟨Tail.ext hbefore hop hafter hrhs, hr⟩

end Tail

namespace Phrase

theorem stops_isDigit_tail (p : Phrase) : Stops Char.isDigit (p.tail.elim [] Tail.text) := by
  cases p.tail with
  | none => exact stops_nil
  | some t => simpa using t.stops_isDigit []

theorem text_ne_nil (p : Phrase) : p.text ≠ [] := by simp [text, p.lhs.ne_nil]

theorem stops_space (p : Phrase) : Stops (· = ' ') p.text := p.lhs.stops_space _

theorem text_inj {p q : Phrase} (h : p.text = q.text) : p = q := by
  obtain ⟨hlhs, h⟩ := Numeral.append_inj p.stops_isDigit_tail q.stops_isDigit_tail h
  refine Phrase.ext hlhs ?_
  -- A tail is never empty, so it is there in both or in neither.
  cases hp : p.tail with
  | none =>
      cases hq : q.tail with
      | none => rfl
      | some u =>
          rw [hp, hq] at h
          simp [Tail.text] at h
  | some t =>
      cases hq : q.tail with
      | none =>
          rw [hp, hq] at h
          simp [Tail.text] at h
      | some u =>
          rw [hp, hq] at h
          have htail : t.text ++ [] = u.text ++ [] := by simpa using h
          rw [(Tail.append_inj stops_nil stops_nil htail).1]

end Phrase

namespace Header

theorem text_append (h : Header) (rest : Text) : h.text ++ rest = Stmt.keyword
    ++ (gap (h.margin + 1) ++ (h.name ++ (gap h.before ++ '=' :: (gap h.after ++ rest)))) := by
  simp only [text, List.append_assoc, List.cons_append]

/-- A name is stopped by spaces and by the equals sign. -/
theorem stops_isAlphanumeric (n : Nat) (rest : Text) :
    Stops isAlphanumeric (gap n ++ '=' :: rest) :=
  stops_gap_append (by decide) (stops_cons.2 (by decide))

theorem append_inj {h k : Header} {rest rest' : Text} (hrest : Stops (· = ' ') rest)
    (hrest' : Stops (· = ' ') rest') (heq : h.text ++ rest = k.text ++ rest') :
    h = k ∧ rest = rest' := by
  rw [text_append, text_append] at heq
  have heq := List.append_cancel_left heq
  obtain ⟨hmargin, heq⟩ := gap_append_inj (h.isName.stops_space _) (k.isName.stops_space _) heq
  obtain ⟨hname, heq⟩ := append_inj_of_stops h.isName.isAlphanumeric
    (stops_isAlphanumeric h.before _) k.isName.isAlphanumeric (stops_isAlphanumeric k.before _) heq
  obtain ⟨hbefore, heq⟩ := gap_append_inj (stops_cons.2 (by decide)) (stops_cons.2 (by decide)) heq
  obtain ⟨hafter, hr⟩ := gap_append_inj hrest hrest' (List.cons.inj heq).2
  exact ⟨Header.ext (Nat.succ.inj hmargin) hname hbefore hafter, hr⟩

/-- What starts with a header does not start with a digit. -/
theorem stops_isDigit (h : Header) (rest : Text) : Stops Char.isDigit (h.text ++ rest) := by
  rw [text_append]
  exact stops_cons.2 (by decide)

end Header

/-- Two derivations of one text are the same: the grammar is unambiguous. -/
theorem Derivation.text_inj {d e : Derivation} (h : d.text = e.text) : d = e := by
  obtain ⟨header, phrase⟩ := d
  obtain ⟨header', phrase'⟩ := e
  cases header with
  | none =>
      cases header' with
      | none => rw [show phrase = phrase' from Phrase.text_inj h]
      | some k =>
          have hstop := k.stops_isDigit phrase'.text
          rw [← show phrase.text = k.text ++ phrase'.text from h] at hstop
          exact absurd hstop (phrase.lhs.not_stops _)
  | some k =>
      cases header' with
      | none =>
          have hstop := k.stops_isDigit phrase.text
          rw [show k.text ++ phrase.text = phrase'.text from h] at hstop
          exact absurd hstop (phrase'.lhs.not_stops _)
      | some k' =>
          obtain ⟨hheader, hphrase⟩ := Header.append_inj phrase.stops_space phrase'.stops_space h
          rw [hheader, Phrase.text_inj hphrase]

end LetCalc.Grammar
