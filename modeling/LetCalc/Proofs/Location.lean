import LetCalc.Diagnostic
import LetCalc.Proofs.Recognition

set_option autoImplicit false

/-! # Where a malformed line goes wrong

A malformed line is reported at the end of the part of it that was read. That part can be completed
to a statement. If it is a statement already, then something stands behind it, and no longer part of
the line is a statement up to blanks; otherwise no part from the start of the line is a statement.
The comparison with other prefixes rests on cancellation: a derivation at the front of a line has
the header that was read, and its expression ends no later than the one that was read. -/

namespace LetCalc.Stmt

open Text Grammar

/-! ## Derivations at the front of a line -/

theorem Fits.append_inj {header header' : Option Header} {s s' : Text} (hs : Fits header s)
    (hs' : Fits header' s') (h : headerText header ++ s = headerText header' ++ s') :
    header = header' ∧ s = s' := by
  cases header with
  | none =>
      cases header' with
      | none => exact ⟨rfl, h⟩
      | some k =>
          have heq : s = k.text ++ s' := h
          exact absurd (heq ▸ keyword_prefix_header k s') hs
  | some k =>
      cases header' with
      | none =>
          have heq : k.text ++ s = s' := h
          exact absurd (heq ▸ keyword_prefix_header k s) hs'
      | some k' =>
          obtain ⟨rfl, rfl⟩ := Header.append_inj hs hs' h
          exact ⟨rfl, rfl⟩

theorem Fits.of_derivation {header : Option Header} {s rest : Text} {d : Derivation}
    (hs : Fits header s) (h : headerText header ++ s = d.text ++ rest) :
    header = d.header ∧ s = d.phrase.text ++ rest := by
  rw [Derivation.text, List.append_assoc] at h
  exact Fits.append_inj hs (fits_phrase d.header d.phrase rest) h

/-- An expression at the front of a text ends no later than the one that is read there. -/
theorem length_le_of_reads {p : Phrase} {e : Expr} {rest rest' : Text}
    (h : Expr.Reads (p.text ++ rest') (.ok (e, rest))) : rest.length ≤ rest'.length := by
  obtain ⟨⟨n, tail⟩, heq, -, -, hrest, hmax⟩ := h.exists_phrase
  obtain ⟨m, tail'⟩ := p
  simp only [Phrase.text, List.append_assoc] at heq
  have hstop : Stops Char.isDigit (tail.elim [] Tail.text ++ rest) := by
    cases tail with
    | none => exact hrest
    | some t => exact t.stops_isDigit rest
  -- The first numeral is the same in both, unless `p` ends within it.
  cases tail' with
  | none =>
      have hle := length_le_of_stops n.isDigit hstop m.isDigit heq.symm
      have hlength := congrArg List.length heq
      simp only [Option.elim_none, List.nil_append, List.length_append] at hlength
      omega
  | some u =>
      obtain ⟨-, htail⟩ := Numeral.append_inj (u.stops_isDigit rest') hstop heq
      cases tail with
      | none => exact absurd htail.symm (hmax rfl u rest')
      | some t =>
          obtain ⟨-, -, -, hrhs⟩ := Tail.append_inj_operand htail
          have hle := length_le_of_stops t.rhs.isDigit hrest u.rhs.isDigit hrhs.symm
          have hlength := congrArg List.length hrhs
          simp only [List.length_append] at hlength
          omega

/-! ## Broken headers -/

theorem Broken.expected_cases {front expected rest : Text} (h : Broken front expected rest) :
    expected = "whitespace".toList ∨ expected = "identifier".toList ∨ expected = ['='] := by
  cases h with
  | whitespace => exact Or.inl rfl
  | name => exact Or.inr (Or.inl rfl)
  | equals => exact Or.inr (Or.inr rfl)

/-- Where a header breaks off there is no header: behind a header the reader misses nothing but
    digits. -/
theorem Broken.not_header {front expected rest : Text} (h : Broken front expected rest)
    (header : Header) {s : Text} (hs : Stops (· = ' ') s) : front ++ rest ≠ header.text ++ s := by
  intro heq
  have hbroken := h.parseBinding_eq
  rw [heq, parseBinding_header header hs] at hbroken
  have hreads := Expr.reads_parse s
  cases hparse : Expr.parse s with
  | ok result =>
      obtain ⟨e, rest'⟩ := result
      rw [Parser.bind_of_ok hparse] at hbroken
      cases hbroken
  | error failure =>
      rw [Parser.bind_of_error hparse] at hbroken
      obtain rfl := Except.error.inj hbroken
      rw [hparse] at hreads
      cases hreads with
      | missing => rcases h.expected_cases with h | h | h <;> exact absurd h (by decide)

theorem Broken.not_derivation {front expected rest : Text} (h : Broken front expected rest)
    (d : Derivation) (rest' : Text) : front ++ rest ≠ d.text ++ rest' := by
  intro heq
  obtain ⟨header, p⟩ := d
  have hfits := fits_phrase header p rest'
  rw [Derivation.text, List.append_assoc] at heq
  cases header with
  | none =>
      refine hfits ?_
      rw [← show front ++ rest = p.text ++ rest' from heq]
      exact h.keyword_prefix_front.trans (List.prefix_append _ _)
  | some k => exact h.not_header k hfits heq

/-- The expression `0`. -/
def zeroPhrase : Phrase := ⟨Numeral.ofNat 0, none⟩

theorem zeroPhrase_inRange : zeroPhrase.InRange := ⟨by decide, by simp [zeroPhrase]⟩

theorem Broken.exists_completion {front expected rest : Text} (h : Broken front expected rest) :
    ∃ (completion : Text) (d : Derivation), front ++ completion = d.text ∧ d.InRange := by
  have hname : IsName ['a'] := ⟨by decide, List.forall_mem_nil _⟩
  cases h with
  | whitespace =>
      exact ⟨" a=0".toList, ⟨some ⟨0, ['a'], hname, 0, 0⟩, zeroPhrase⟩, rfl, zeroPhrase_inRange⟩
  | @name n =>
      refine ⟨"a=0".toList, ⟨some ⟨n, ['a'], hname, 0, 0⟩, zeroPhrase⟩, ?_, zeroPhrase_inRange⟩
      simp only [Derivation.text, headerText, Option.elim_some, Header.text, List.append_assoc]
      rfl
  | @equals n m name _ hname =>
      refine ⟨"=0".toList, ⟨some ⟨n, name, hname, m, 0⟩, zeroPhrase⟩, ?_, zeroPhrase_inRange⟩
      simp only [Derivation.text, headerText, Option.elim_some, Header.text, List.append_assoc]
      rfl

/-! ## The three ways to be malformed -/

/-- The text is read as a statement. -/
def Accepted (s : Text) : Prop := ∃ stmt, infer s = .ok stmt

theorem accepted_derivation {d : Derivation} (hd : d.InRange) : Accepted d.text :=
  ⟨d.stmt, infer_derivation hd⟩

/-- Up to blanks at its end, an accepted prefix is the text of a derivation. -/
theorem Accepted.exists_derivation {s line : Text} (h : Accepted s) (hs : s <+: line) :
    ∃ (d : Derivation) (rest : Text), trimmed s = d.text ∧ line = d.text ++ rest := by
  obtain ⟨stmt, hstmt⟩ := h
  obtain ⟨d, htext, -, -⟩ := infer_eq_ok_iff.1 hstmt
  obtain ⟨rest, rfl⟩ := (trimmed_prefix_self s).trans hs
  exact ⟨d, rest, htext.symm, by rw [htext]⟩

/-- `front` is the longest prefix of `line` that is accepted and ends in a digit. -/
structure LongestAccepted (front line : Text) : Prop where
  atFront : front <+: line
  endsInDigit : EndsInDigit front
  accepted : Accepted front
  longest : ∀ s, s <+: line → EndsInDigit s → Accepted s → s.length ≤ front.length

/-- No prefix of `line` is accepted. -/
def NoneAccepted (line : Text) : Prop := ∀ s, s <+: line → ¬ Accepted s

/-- What is known about the part of a malformed line that was read. -/
structure Located (line front expected rest : Text) : Prop where
  split : line = front ++ rest
  viable : ∃ completion, Accepted (front ++ completion)
  leftover : expected = "end of input".toList → rest ≠ [] ∧ LongestAccepted front line
  broken : expected ≠ "end of input".toList → NoneAccepted line

theorem Broken.located {front expected rest : Text} (h : Broken front expected rest) :
    Located (front ++ rest) front expected rest where
  split := rfl
  viable := by
    obtain ⟨completion, d, hd, hrange⟩ := h.exists_completion
    exact ⟨completion, hd ▸ accepted_derivation hrange⟩
  leftover := by
    rintro rfl
    rcases h.expected_cases with h | h | h <;> exact absurd h (by decide)
  broken := by
    intro _ s hs haccepted
    obtain ⟨d, rest', -, hline⟩ := haccepted.exists_derivation hs
    exact h.not_derivation d rest' hline

theorem located_missing {header : Option Header} {s : Text} (hfits : Fits header s)
    (hs : Stops Char.isDigit s) :
    Located (headerText header ++ s) (headerText header) "digits".toList s where
  split := rfl
  viable := ⟨zeroPhrase.text, accepted_derivation (d := ⟨header, zeroPhrase⟩) zeroPhrase_inRange⟩
  leftover := fun h => absurd h (by decide)
  broken := by
    intro _ t ht haccepted
    obtain ⟨d, rest, -, hline⟩ := haccepted.exists_derivation ht
    obtain ⟨-, rfl⟩ := hfits.of_derivation hline
    rw [Phrase.text, List.append_assoc] at hs
    exact d.phrase.lhs.not_stops _ hs

theorem located_leftover {header : Option Header} {s rest : Text} {e : Expr} {c : Char}
    (hfits : Fits header s) (h : Expr.Reads s (.ok (e, c :: rest))) :
    ∃ front, Located (headerText header ++ s) front "end of input".toList (c :: rest) := by
  obtain ⟨p, rfl, hrange, -⟩ := h.exists_phrase
  let d : Derivation := ⟨header, p⟩
  have hsplit : headerText header ++ (p.text ++ c :: rest) = d.text ++ c :: rest :=
    (List.append_assoc ..).symm
  have haccepted : Accepted d.text := accepted_derivation hrange
  refine ⟨d.text, hsplit, ⟨[], by rwa [List.append_nil]⟩, fun _ => ⟨by simp, ?_⟩,
    fun hne => absurd rfl hne⟩
  refine ⟨⟨c :: rest, hsplit.symm⟩, endsInDigit_derivation d, haccepted, ?_⟩
  intro t ht hdigit hok
  obtain ⟨d', rest', htext, hline⟩ := hok.exists_derivation ht
  -- An accepted prefix that ends in a digit has no blanks to trim.
  rw [hdigit.trimmed_eq] at htext
  obtain ⟨-, hphrase⟩ := hfits.of_derivation hline
  rw [hphrase] at h
  have hle := length_le_of_reads h
  have hlength := congrArg List.length (hsplit.symm.trans hline)
  simp only [List.length_append] at hlength
  rw [htext]
  omega

theorem exists_located {line expected remainder : Text}
    (h : infer line = .error (.malformed expected remainder)) :
    ∃ front, Located (trimmed line) front expected remainder := by
  have hreads := reads_iff.2 h
  generalize trimmed line = s at hreads
  cases hreads with
  | broken hbroken => exact ⟨_, hbroken.located⟩
  | leftover hfits hexpr => exact located_leftover hfits hexpr
  | failed hfits hexpr =>
      cases hexpr with
      | missing hs => exact ⟨_, located_missing hfits hs⟩

/-! ## Where the diagnostic points -/

/-- A diagnostic that was located points at the first character that was not read. -/
theorem located_points (d : Diagnostic) {line front rest : Text} (h : line = front ++ rest) :
    (d.located line rest).subject = line ∧ (d.located line rest).start = front.length ∧
      (d.located line rest).stop = (d.located line rest).start + 1 ∧
      line.after (d.located line rest).start = rest := by
  subst h
  have hstart : (d.located (front ++ rest) rest).start = front.length := by
    simp only [Diagnostic.located, List.length_append]
    omega
  refine ⟨rfl, hstart, rfl, ?_⟩
  rw [hstart, after, offset_of_nonneg (Int.natCast_nonneg _)]
  have hoffset : min (front.length : Int).toNat (front ++ rest).length = front.length := by
    rw [List.length_append]
    omega
  rw [hoffset, List.drop_left]

/-- A malformed line is reported behind the part that was read, at a column of the line. The part
    can be completed, and it is the longest accepted one if any part is accepted. -/
theorem malformed_located {line expected remainder : Text}
    (h : infer line = .error (.malformed expected remainder)) :
    ∃ front, Located (trimmed line) front expected remainder ∧
      let d := (Failure.malformed expected remainder).diagnosticIn (trimmed line)
      d.subject = trimmed line ∧ 0 ≤ d.start ∧ d.start = front.length ∧
        d.start ≤ (trimmed line).length ∧ d.stop = d.start + 1 ∧
        (trimmed line).after d.start = remainder := by
  obtain ⟨front, hlocated⟩ := exists_located h
  obtain ⟨hsubject, hstart, hstop, hafter⟩ :=
    located_points (Failure.malformed expected remainder).diagnostic hlocated.split
  have hlength := congrArg List.length hlocated.split
  rw [List.length_append] at hlength
  refine ⟨front, hlocated, hsubject, ?_, hstart, ?_, hstop, hafter⟩
  · show 0 ≤ (Diagnostic.located _ _ _).start
    omega
  · show (Diagnostic.located _ _ _).start ≤ _
    omega

theorem malformed_located_second_operand :
    ∃ front, Located "let a = 1 + x".toList front "end of input".toList " + x".toList ∧
      let d := (Failure.malformed "end of input".toList " + x".toList).diagnosticIn
        "let a = 1 + x".toList
      d.subject = "let a = 1 + x".toList ∧ 0 ≤ d.start ∧ d.start = front.length ∧
        d.start ≤ "let a = 1 + x".toList.length ∧ d.stop = d.start + 1 ∧
        Text.after "let a = 1 + x".toList d.start = " + x".toList :=
  @malformed_located "let a = 1 + x ".toList _ _ rfl

end LetCalc.Stmt
