import LetCalc.Proofs.Recognition

set_option autoImplicit false

/-! # Printing and reading

Statements print in one way, with single spaces and without leading zeros. What is printed reads
back as the statement exactly if the statement is well-formed, which means that it could have been
read in the first place: its numbers are 32-bit integers and not negative, and the name that it binds
is one. For a well-formed statement the printed text has a derivation, and nothing but well-formed
statements is ever read, so it does not matter what an odd name or a negative number prints as. -/

namespace LetCalc

open Text Grammar

/-! ## Well-formed statements -/

/-- A number that a literal can denote. -/
def Literal.Denotes (n : Int) : Prop := 0 ≤ n ∧ n ≤ Arithmetic.greatest

/-- All numbers can be written as literals. -/
def Expr.WellFormed : Expr → Prop
  | .number n => Literal.Denotes n
  | .operation lhs _ rhs => Literal.Denotes lhs ∧ Literal.Denotes rhs

/-- All numbers can be written as literals, and a name that is bound is one. -/
def Stmt.WellFormed : Stmt → Prop
  | .binding name value => IsName name ∧ value.WellFormed
  | .expression value => value.WellFormed

theorem Grammar.Numeral.denotes {n : Numeral} (hn : n.InRange) : Literal.Denotes n.value :=
  ⟨n.value_nonneg, hn⟩

theorem Grammar.Phrase.wellFormed {p : Phrase} (hp : p.InRange) : p.expr.WellFormed := by
  obtain ⟨n, tail⟩ := p
  cases tail with
  | none => exact Numeral.denotes hp.1
  | some t => exact ⟨Numeral.denotes hp.1, Numeral.denotes (hp.2 t rfl)⟩

theorem Grammar.Derivation.wellFormed {d : Derivation} (hd : d.InRange) : d.stmt.WellFormed := by
  obtain ⟨header, p⟩ := d
  cases header with
  | none => exact Phrase.wellFormed hd
  | some h => exact ⟨h.isName, Phrase.wellFormed hd⟩

/-! ## Derivations of printed statements -/

theorem Literal.Denotes.exists_numeral {n : Int} (hn : Literal.Denotes n) :
    ∃ numeral : Numeral, numeral.digits = Decimal.ofInt n ∧ numeral.InRange ∧
      numeral.value = n := by
  obtain ⟨k, rfl⟩ := Int.eq_ofNat_of_zero_le hn.1
  refine ⟨Numeral.ofNat k, ?_, ?_, Numeral.value_ofNat k⟩
  · rw [Decimal.ofInt, if_neg (Int.not_lt.2 hn.1)]
    rfl
  · rw [Numeral.InRange, Numeral.value_ofNat]
    exact hn.2

theorem Expr.WellFormed.exists_phrase {e : Expr} (he : e.WellFormed) :
    ∃ p : Phrase, p.text = e.toText ∧ p.InRange ∧ p.expr = e := by
  cases e with
  | number n =>
      obtain ⟨numeral, hdigits, hrange, rfl⟩ := Literal.Denotes.exists_numeral he
      refine ⟨⟨numeral, none⟩, ?_, ⟨hrange, by simp⟩, rfl⟩
      simp only [Phrase.text, Option.elim_none, List.append_nil, Expr.toText, hdigits]
  | operation lhs op rhs =>
      obtain ⟨n, hn, hnrange, rfl⟩ := Literal.Denotes.exists_numeral he.1
      obtain ⟨m, hm, hmrange, rfl⟩ := Literal.Denotes.exists_numeral he.2
      refine ⟨⟨n, some ⟨1, op, 1, m⟩⟩, ?_, ⟨hnrange, ?_⟩, rfl⟩
      · simp [Phrase.text, Tail.text, Expr.toText, gap_succ, hn, hm]
      · intro t ht
        obtain rfl := Option.some.inj ht
        exact hmrange

theorem Stmt.WellFormed.exists_derivation {stmt : Stmt} (h : stmt.WellFormed) :
    ∃ d : Derivation, d.text = stmt.toText ∧ d.InRange ∧ d.stmt = stmt := by
  cases stmt with
  | binding name value =>
      obtain ⟨p, htext, hrange, rfl⟩ := Expr.WellFormed.exists_phrase h.2
      refine ⟨⟨some ⟨0, name, h.1, 1, 1⟩, p⟩, ?_, hrange, rfl⟩
      simp [Derivation.text, headerText, Header.text, Stmt.toText, gap_succ, htext]
  | expression value =>
      obtain ⟨p, htext, hrange, rfl⟩ := Expr.WellFormed.exists_phrase h
      exact ⟨⟨none, p⟩, htext, hrange, rfl⟩

/-! ## Reading what was printed -/

namespace Stmt

theorem wellFormed_of_infer {line : Text} {stmt : Stmt} (h : infer line = .ok stmt) :
    stmt.WellFormed := by
  obtain ⟨d, -, hrange, rfl⟩ := infer_eq_ok_iff.1 h
  exact d.wellFormed hrange

theorem infer_toText_of_wellFormed {stmt : Stmt} (h : stmt.WellFormed) :
    infer stmt.toText = .ok stmt := by
  obtain ⟨d, htext, hrange, hstmt⟩ := h.exists_derivation
  rw [← htext, infer_derivation hrange, hstmt]

/-- Printing and reading are inverse on the well-formed statements, and on no others; those are the
    statements that lines can be read as. -/
theorem infer_toText_iff_wellFormed :
    (∀ stmt : Stmt, infer stmt.toText = .ok stmt ↔ stmt.WellFormed) ∧
    (∀ stmt : Stmt, (∃ line, infer line = .ok stmt) ↔ stmt.WellFormed) ∧
    (∀ line stmt, infer line = .ok stmt → infer stmt.toText = .ok stmt) ∧
    ∀ a b stmt stmt', infer a = .ok stmt → infer b = .ok stmt' →
      (stmt = stmt' ↔ stmt.toText = stmt'.toText) := by
  refine ⟨fun stmt => ⟨wellFormed_of_infer, infer_toText_of_wellFormed⟩, fun stmt => ⟨?_, ?_⟩,
    fun line stmt h => infer_toText_of_wellFormed (wellFormed_of_infer h), ?_⟩
  · rintro ⟨line, h⟩
    exact wellFormed_of_infer h
  · intro h
    exact ⟨stmt.toText, infer_toText_of_wellFormed h⟩
  · intro a b stmt stmt' ha hb
    refine ⟨congrArg toText, ?_⟩
    intro htext
    -- Both statements are what one text reads as.
    have hstmt := infer_toText_of_wellFormed (wellFormed_of_infer ha)
    rw [htext, infer_toText_of_wellFormed (wellFormed_of_infer hb)] at hstmt
    exact (Except.ok.inj hstmt).symm

theorem infer_toText_of_padded_binding :
    infer "let x = 7 / 0".toList = .ok (.binding ['x'] (.operation 7 .div 0)) :=
  infer_toText_iff_wellFormed.2.2.1 "let  x=007/00 ".toList _ rfl

end Stmt

end LetCalc
