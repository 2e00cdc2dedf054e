import LetCalc.Proofs.StmtReading

set_option autoImplicit false

/-! # Which lines are statements

A line is read as a statement exactly if it has, apart from blanks at its end, a derivation with
32-bit integers, and then it is read as the statement that the derivation denotes. What overflows is
settled by the front of a line as well: it is enough that a number too large is reached. All other
lines are malformed. -/

namespace LetCalc.Stmt

open Text Grammar

/-! ## Accepted lines -/

/-- Behind the header of a derivation there is nothing that a header could still take up. -/
theorem fits_phrase (header : Option Header) (p : Phrase) (rest : Text) :
    Fits header (p.text ++ rest) := by
  have hdigits : p.text ++ rest = p.lhs.digits ++ (p.tail.elim [] Tail.text ++ rest) :=
    List.append_assoc ..
  cases header with
  | some h =>
      show Stops (· = ' ') (p.text ++ rest)
      rw [hdigits]
      exact p.lhs.stops_space _
  | none =>
      -- The keyword starts with a letter, and a phrase with a digit.
      rintro ⟨tail, htail⟩
      rw [hdigits] at htail
      refine p.lhs.not_stops (p.tail.elim [] Tail.text ++ rest) ?_
      rw [← htail]
      exact stops_cons.2 (by decide)

theorem reads_derivation {d : Derivation} (hd : d.InRange) : Reads d.text (.ok d.stmt) := by
  have hfits := fits_phrase d.header d.phrase []
  rw [List.append_nil] at hfits
  exact .whole hfits (Expr.reads_phrase hd)

theorem Reads.exists_derivation {s : Text} {stmt : Stmt} (h : Reads s (.ok stmt)) :
    ∃ d : Derivation, d.text = s ∧ d.InRange ∧ d.stmt = stmt := by
  cases h with
  | @whole header s e hfits h =>
      obtain ⟨p, hp, hrange, rfl, -⟩ := h.exists_phrase
      rw [List.append_nil] at hp
      exact ⟨⟨header, p⟩, by rw [hp]; rfl, hrange, rfl⟩

theorem infer_eq_ok_iff {line : Text} {stmt : Stmt} : infer line = .ok stmt ↔
    ∃ d : Derivation, d.text = trimmed line ∧ d.InRange ∧ d.stmt = stmt := by
  rw [← reads_iff]
  constructor
  · exact Reads.exists_derivation
  · rintro ⟨d, htext, hrange, rfl⟩
    rw [← htext]
    exact reads_derivation hrange

theorem endsInDigit_derivation (d : Derivation) : EndsInDigit d.text :=
  (endsInDigit_phrase d.phrase).append

/-- The text of a derivation has no blanks at its end, so it is read as it stands. -/
theorem infer_derivation {d : Derivation} (hd : d.InRange) : infer d.text = .ok d.stmt :=
  infer_eq_ok_iff.2 ⟨d, (endsInDigit_derivation d).trimmed_eq.symm, hd, rfl⟩

/-! ## Lines that overflow -/

/-- Behind a header that may be missing there is a number too large, or a number, an operator and a
    second number too large. What follows that number is of no account. -/
inductive Overflows : Text → Prop where
  | first {header : Option Header} {n : Numeral} {rest : Text} (hrest : Stops Char.isDigit rest)
      (hn : ¬ n.InRange) : Overflows (headerText header ++ (n.digits ++ rest))
  | second {header : Option Header} {n : Numeral} {t : Tail} {rest : Text}
      (hrest : Stops Char.isDigit rest) (hn : n.InRange) (ht : ¬ t.rhs.InRange) :
      Overflows (headerText header ++ (n.digits ++ (t.text ++ rest)))

theorem Overflows.exists_reads {s : Text} (h : Overflows s) :
    ∃ shown, Reads s (.error (.overflow shown)) := by
  cases h with
  | @first header n rest hrest hn =>
      have hfits := fits_phrase header ⟨n, none⟩ rest
      exact ⟨_, .failed (by simpa [Phrase.text] using hfits) (.overflow hrest hn)⟩
  | @second header n t rest hrest hn ht =>
      have hfits := fits_phrase header ⟨n, some t⟩ rest
      exact ⟨_, .failed (by simpa [Phrase.text] using hfits) (.tailOverflow hrest hn ht)⟩

theorem Reads.overflows {s shown : Text} (h : Reads s (.error (.overflow shown))) :
    Overflows s := by
  cases h with
  | failed hfits h =>
      cases h with
      | overflow hrest hn => exact .first hrest hn
      | tailOverflow hrest hn ht => exact .second hrest hn ht

theorem infer_overflow_iff {line : Text} :
    (∃ shown, infer line = .error (.overflow shown)) ↔ Overflows (trimmed line) := by
  constructor
  · rintro ⟨shown, h⟩
    exact (reads_iff.2 h).overflows
  · intro h
    obtain ⟨shown, h⟩ := h.exists_reads
    exact ⟨shown, reads_iff.1 h⟩

/-! ## All other lines -/

theorem Reads.error_cases {s : Text} {failure : Failure} (h : Reads s (.error failure)) :
    (∃ expected remainder, failure = .malformed expected remainder) ∨
      ∃ shown, failure = .overflow shown := by
  cases h with
  | broken => exact Or.inl ⟨_, _, rfl⟩
  | leftover => exact Or.inl ⟨_, _, rfl⟩
  | failed hfits h =>
      cases h with
      | missing => exact Or.inl ⟨_, _, rfl⟩
      | overflow => exact Or.inr ⟨_, rfl⟩
      | tailOverflow => exact Or.inr ⟨_, rfl⟩

theorem infer_malformed_iff {line : Text} :
    (∃ expected remainder, infer line = .error (.malformed expected remainder)) ↔
      (∀ stmt, infer line ≠ .ok stmt) ∧ ∀ shown, infer line ≠ .error (.overflow shown) := by
  constructor
  · rintro ⟨expected, remainder, h⟩
    rw [h]
    exact ⟨by simp, by simp⟩
  · rintro ⟨hok, hoverflow⟩
    cases h : infer line with
    | ok stmt => exact absurd h (hok stmt)
    | error failure =>
        rcases (reads_iff.2 h).error_cases with ⟨expected, remainder, rfl⟩ | ⟨shown, rfl⟩
        · exact ⟨expected, remainder, rfl⟩
        · exact absurd h (hoverflow shown)

/-- The reader accepts the language of the grammar and builds what a derivation denotes; what it
    does not accept overflows or is malformed, depending on what the front of the line is. -/
theorem infer_recognises_grammar (line : Text) :
    ((∃ blanks, line = trimmed line ++ blanks ∧ ∀ c ∈ blanks, isBlank c = true) ∧
      ∀ c ∈ (trimmed line).getLast?, isBlank c = false) ∧
    (∀ stmt, infer line = .ok stmt ↔
      ∃ d : Derivation, d.text = trimmed line ∧ d.InRange ∧ d.stmt = stmt) ∧
    (∀ d e : Derivation, d.text = trimmed line → e.text = trimmed line → d = e) ∧
    ((∃ shown, infer line = .error (.overflow shown)) ↔ Overflows (trimmed line)) ∧
    ((∃ expected remainder, infer line = .error (.malformed expected remainder)) ↔
      (¬ ∃ d : Derivation, d.text = trimmed line ∧ d.InRange) ∧ ¬ Overflows (trimmed line)) := by
  refine ⟨⟨exists_blanks line, not_isBlank_getLast line⟩, fun _ => infer_eq_ok_iff,
    fun d e hd he => Derivation.text_inj (hd.trans he.symm), infer_overflow_iff, ?_⟩
  rw [infer_malformed_iff, ← infer_overflow_iff]
  refine and_congr ⟨?_, ?_⟩ (by simp)
  · rintro h ⟨d, htext, hrange⟩
    exact h d.stmt (infer_eq_ok_iff.2 ⟨d, htext, hrange, rfl⟩)
  · intro h stmt hstmt
    obtain ⟨d, htext, hrange, -⟩ := infer_eq_ok_iff.1 hstmt
    exact h ⟨d, htext, hrange⟩

theorem infer_recognises_padded_binding :
    ∃ d : Derivation, d.text = "let ab  =12 *3".toList ∧ d.InRange ∧
      d.stmt = .binding "ab".toList (.operation 12 .mul 3) :=
  ((infer_recognises_grammar "let ab  =12 *3 \r\n".toList).2.1 _).1 rfl

end LetCalc.Stmt
