import LetCalc.Diagnostic
import LetCalc.Proofs.ExprReading

set_option autoImplicit false

/-! # How literals that are too large are quoted

A literal can be found too large in two ways: it has more significant digits than any 32-bit
integer, or it was converted and its value was checked. A literal of the first kind is abridged in
the message: of more than 20 digits the first ten and the last five are shown. A literal of the
second kind has at most ten significant digits, but there may be any number of zeros in front, and it
is quoted as a whole. So what is quoted follows the rule, and has no more than 20 characters, unless
the literal is `Padded` with zeros to more than 20 digits (`overflow_quoted`), and of padded literals
what is quoted is longer than any bound (`exists_quoted_longer`). -/

namespace LetCalc.Literal

open Text Grammar

/-! ## The rule for abridging -/

/-- What the rule lets stand for a run of digits: the run itself up to 20 characters, otherwise its
    first ten and its last five. -/
inductive Abridges : Text → Text → Prop where
  | whole {digits : Text} (hshort : digits.length ≤ 20) : Abridges digits digits
  | ends {first middle last : Text} (hfirst : first.length = 10) (hmiddle : 5 < middle.length)
      (hlast : last.length = 5) :
      Abridges (first ++ (middle ++ last)) (first ++ "...".toList ++ last)

theorem abridges_abridged (digits : Text) : Abridges digits (abridged digits) := by
  unfold abridged
  by_cases hshort : digits.length ≤ 20
  · rw [if_pos hshort]
    exact .whole hshort
  · rw [if_neg hshort]
    have hsplit : digits = digits.take 10
        ++ ((digits.drop 10).take (digits.length - 15) ++ digits.drop (digits.length - 5)) := by
      have hdrop : digits.drop (digits.length - 5)
          = (digits.drop 10).drop (digits.length - 15) := by
        rw [List.drop_drop]
        congr 1
        omega
      rw [hdrop, List.take_append_drop, List.take_append_drop]
    have hfirst : (digits.take 10).length = 10 := by
      rw [List.length_take]
      omega
    have hmiddle : 5 < ((digits.drop 10).take (digits.length - 15)).length := by
      rw [List.length_take, List.length_drop]
      omega
    have hlast : (digits.drop (digits.length - 5)).length = 5 := by
      rw [List.length_drop]
      omega
    have habridges := Abridges.ends hfirst hmiddle hlast
    rwa [← hsplit] at habridges

/-- The rule leaves no choice. -/
theorem Abridges.eq_abridged {digits shown : Text} (h : Abridges digits shown) :
    shown = abridged digits := by
  unfold abridged
  cases h with
  | whole hshort => rw [if_pos hshort]
  | @ends first middle last hfirst hmiddle hlast =>
      have hlong : ¬ (first ++ (middle ++ last)).length ≤ 20 := by
        simp only [List.length_append]
        omega
      have htake : (first ++ (middle ++ last)).take 10 = first := List.take_left' hfirst
      have hdrop : (first ++ (middle ++ last)).drop ((first ++ (middle ++ last)).length - 5)
          = last := by
        rw [← List.append_assoc]
        refine List.drop_left' ?_
        simp only [List.length_append]
        omega
      rw [if_neg hlong, htake, hdrop]

theorem Abridges.length_le {digits shown : Text} (h : Abridges digits shown) :
    shown.length ≤ 20 := by
  cases h with
  | whole hshort => exact hshort
  | ends hfirst _ hlast => simp [hfirst, hlast]

/-! ## Literals that are quoted as a whole -/

/-- More than 20 digits, of which no more than ten are significant. -/
def Padded (digits : Text) : Prop :=
  20 < digits.length ∧ (Decimal.significant digits).length ≤ 10

theorem overflowText_of_padded {digits : Text} (h : Padded digits) :
    overflowText digits = digits := by
  unfold overflowText
  rw [maxDigits_eq, if_neg (Nat.not_lt.2 h.2)]

theorem overflowText_of_not_padded {digits : Text} (h : ¬ Padded digits) :
    overflowText digits = abridged digits := by
  unfold overflowText
  by_cases hlong : maxDigits < (Decimal.significant digits).length
  · rw [if_pos hlong]
  · rw [maxDigits_eq, Nat.not_lt] at hlong
    have hshort : digits.length ≤ 20 := Nat.not_lt.1 fun hgt => h ⟨hgt, hlong⟩
    rw [maxDigits_eq, if_neg (Nat.not_lt.2 hlong), abridged, if_pos hshort]

theorem overflowText_eq_iff {digits shown : Text} : overflowText digits = shown ↔
    (Padded digits → shown = digits ∧ 20 < shown.length) ∧
      (¬ Padded digits → Abridges digits shown ∧ shown.length ≤ 20) := by
  by_cases hpadded : Padded digits
  · rw [overflowText_of_padded hpadded]
    constructor
    · rintro rfl
      exact ⟨fun _ => ⟨rfl, hpadded.1⟩, fun hnot => absurd hpadded hnot⟩
    · intro h
      exact (h.1 hpadded).1.symm
  · rw [overflowText_of_not_padded hpadded]
    constructor
    · rintro rfl
      have habridges := abridges_abridged digits
      exact ⟨fun h => absurd h hpadded, fun _ => ⟨habridges, habridges.length_le⟩⟩
    · intro h
      exact (h.2 hpadded).1.eq_abridged.symm

theorem parse_overflow_iff {s shown : Text} : parse s = .error (.overflow shown) ↔
    ∃ (n : Numeral) (rest : Text), s = n.digits ++ rest ∧ Stops Char.isDigit rest ∧
      ¬ n.InRange ∧ overflowText n.digits = shown := by
  constructor
  · intro h
    cases reads_iff.2 h with
    | @overflow n rest hrest hn => exact ⟨n, rest, rfl, hrest, hn, rfl⟩
  · rintro ⟨n, rest, rfl, hrest, hn, rfl⟩
    exact parse_of_not_inRange hn hrest

/-! ## Zeros in front -/

/-- The least number that is too large, behind any number of zeros. -/
def leastTooLarge (zeros : Nat) : Numeral where
  digits := List.replicate zeros '0' ++ "2147483648".toList
  ne_nil := by simp
  isDigit := by
    intro c hc
    have hall : "2147483648".toList.all Char.isDigit = true := rfl
    rcases List.mem_append.1 hc with hc | hc
    · rw [List.eq_of_mem_replicate hc]
      decide
    · exact List.all_eq_true.1 hall c hc

theorem significant_leastTooLarge (zeros : Nat) :
    Decimal.significant (leastTooLarge zeros).digits = "2147483648".toList := by
  have hzeros : ∀ c ∈ List.replicate zeros '0', decide (c = '0') = true :=
    fun c hc => decide_eq_true (List.eq_of_mem_replicate hc)
  have hdrop : (leastTooLarge zeros).digits.dropWhile (· = '0') = "2147483648".toList :=
    List.dropWhile_append_of_pos hzeros
  rw [Decimal.significant, hdrop]
  rfl

theorem not_inRange_leastTooLarge (zeros : Nat) : ¬ (leastTooLarge zeros).InRange := by
  have hvalue : (leastTooLarge zeros).value = 2147483648 := by
    rw [Numeral.value, ← Decimal.value_significant, significant_leastTooLarge]
    rfl
  rw [Numeral.InRange, hvalue]
  decide

theorem padded_leastTooLarge {zeros : Nat} (h : 10 < zeros) :
    Padded (leastTooLarge zeros).digits := by
  refine ⟨?_, ?_⟩
  · simp only [leastTooLarge, List.length_append, List.length_replicate]
    show 20 < zeros + 10
    omega
  · rw [significant_leastTooLarge]
    decide

/-! ## What is quoted -/

/-- With enough zeros in front, the quoted text is longer than any bound. -/
theorem exists_quoted_longer (bound : Nat) :
    ∃ s shown, parse s = .error (.overflow shown) ∧ bound < shown.length := by
  let n := leastTooLarge (bound + 11)
  have hshown : overflowText n.digits = n.digits :=
    overflowText_of_padded (padded_leastTooLarge (by omega))
  have hlength : bound < n.digits.length := by
    simp only [n, leastTooLarge, List.length_append, List.length_replicate]
    omega
  refine ⟨n.digits, n.digits, parse_overflow_iff.2 ⟨n, [], ?_⟩, hlength⟩
  exact ⟨by simp, stops_nil, not_inRange_leastTooLarge _, hshown⟩

/-- A text overflows as a literal if the longest run of digits at its front is too large. The message
    quotes what the rule lets stand for the run, so 20 characters at most, unless the run is padded
    with zeros; then it quotes the whole run, which is longer. -/
theorem overflow_quoted (s shown : Text) :
    (parse s = .error (.overflow shown) ↔
      ∃ (n : Numeral) (rest : Text), s = n.digits ++ rest ∧ Stops Char.isDigit rest ∧
        Arithmetic.greatest < n.value ∧
        (Padded n.digits → shown = n.digits ∧ 20 < shown.length) ∧
        (¬ Padded n.digits → Abridges n.digits shown ∧ shown.length ≤ 20)) ∧
    (Failure.overflow shown).message
      = ['\x27'] ++ shown ++ "' overflows a 32-bit integer".toList := by
  refine ⟨?_, Template.fill_around ..⟩
  simp only [parse_overflow_iff, overflowText_eq_iff, Numeral.InRange, Int.not_le]

/-- Eleven zeros in front, and all 21 digits are quoted. -/
theorem padded_literal_quoted_whole :
    let digits := "000000000002147483648".toList
    parse digits = .error (.overflow digits) ∧ ¬ Abridges digits digits :=
  ⟨rfl, fun h => absurd h.length_le (by decide)⟩

end LetCalc.Literal
