import LetCalc.Proofs.ExprReading

set_option autoImplicit false

/-! # Which digits are converted

A literal is settled by the value of the longest run of digits at the front of the text
(`Literal.parse_settled_by_value`), however long this run is and however many zeros it starts with.
Not all of the run is converted: zeros in front are left out, one zero standing for a run of nothing
else, and a run that has more significant digits than any 32-bit integer is refused as it stands. So
a conversion is needed for runs of one to ten digits only, and one that refuses any other run would
do as well (`Literal.parseBy_eq`). -/

namespace LetCalc

open Text Grammar

/-! ## Conversions -/

namespace Decimal

/-- The conversion answers the value of every run of digits that has at least one digit and no more
    than `limit`. Of any other text it may answer something else, or nothing. -/
def ConvertsUpTo (limit : Nat) (convert : Text → Option Nat) : Prop :=
  ∀ digits : Text, 1 ≤ digits.length → digits.length ≤ limit →
    (∀ c ∈ digits, c.isDigit = true) → convert digits = some (value digits)

theorem isDigit_of_mem_significant {digits : Text} (hdigits : ∀ c ∈ digits, c.isDigit = true) :
    ∀ c ∈ significant digits, c.isDigit = true := by
  intro c hc
  unfold significant at hc
  split at hc
  · rw [List.mem_singleton] at hc
    simp [hc]
  · rename_i d rest hdrop
    have hsub : c ∈ digits.dropWhile (· = '0') := by rw [hdrop]; exact hc
    exact hdigits c ((List.dropWhile_sublist _).mem hsub)

end Decimal

/-! ## Reading with a given conversion -/

namespace Literal

/-- What is converted has between one and ten digits. -/
theorem ofDigitsBy_eq {convert : Text → Option Nat} (hconvert : Decimal.ConvertsUpTo 10 convert)
    {digits : Text} (hdigits : ∀ c ∈ digits, c.isDigit = true) :
    ofDigitsBy convert digits = some (ofDigits digits) := by
  rw [ofDigits_eq_ite]
  unfold ofDigitsBy
  by_cases hlong : maxDigits < (Decimal.significant digits).length
  · simp only [if_pos hlong]
    rfl
  · have hne : 1 ≤ (Decimal.significant digits).length :=
      List.length_pos_iff.2 (Decimal.significant_ne_nil digits)
    have hle : (Decimal.significant digits).length ≤ 10 := by
      rw [maxDigits_eq] at hlong
      omega
    have hvalue := hconvert _ hne hle (Decimal.isDigit_of_mem_significant hdigits)
    simp only [if_neg hlong, hvalue]
    rfl

theorem parseBy_eq {convert : Text → Option Nat} (hconvert : Decimal.ConvertsUpTo 10 convert)
    (s : Text) : parseBy convert s = some (parse s) := by
  unfold parse parseBy
  by_cases hs : Stops Char.isDigit s
  · rw [Parser.digits, Parser.takeWhile1_of_stops hs]
    rfl
  · obtain ⟨n, rest, rfl, hrest⟩ := Numeral.exists_of_not_stops hs
    rw [digits_numeral n hrest]
    show (ofDigitsBy convert n.digits >>= fun number => some (number.map (·, rest)))
      = some ((ofDigits n.digits).map (·, rest))
    rw [ofDigitsBy_eq hconvert n.isDigit]
    rfl

/-! ## Literals and their values -/

/-- A text without a digit at its front has no literal. Otherwise the literal is the longest run of
    digits there, and it is accepted if its value is a 32-bit integer and overflows if it is not. All
    this takes no conversion of more than ten digits, and none of an empty text. -/
theorem parse_settled_by_value (s : Text) :
    (parse s = .error (.malformed "digits".toList s) ↔ Stops Char.isDigit s) ∧
    (¬ Stops Char.isDigit s → ∃ (n : Numeral) (rest : Text),
      s = n.digits ++ rest ∧ Stops Char.isDigit rest ∧
        (parse s = .ok (n.value, rest) ↔ n.value ≤ Arithmetic.greatest) ∧
        ((∃ shown, parse s = .error (.overflow shown)) ↔ Arithmetic.greatest < n.value)) ∧
    ∀ convert, Decimal.ConvertsUpTo 10 convert → parseBy convert s = some (parse s) := by
  refine ⟨⟨?_, parse_of_stops⟩, ?_, fun convert hconvert => parseBy_eq hconvert s⟩
  · intro hmalformed
    refine Classical.byContradiction fun hs => ?_
    obtain ⟨n, rest, rfl, hrest⟩ := Numeral.exists_of_not_stops hs
    by_cases hn : n.InRange
    · simp [parse_of_inRange hn hrest] at hmalformed
    · simp [parse_of_not_inRange hn hrest] at hmalformed
  · intro hs
    obtain ⟨n, rest, rfl, hrest⟩ := Numeral.exists_of_not_stops hs
    refine ⟨n, rest, rfl, hrest, ?_⟩
    by_cases hn : n.InRange
    · have hle : n.value ≤ Arithmetic.greatest := hn
      simp [parse_of_inRange hn hrest, hle]
    · have hlt : Arithmetic.greatest < n.value := Int.not_le.1 hn
      simp [parse_of_not_inRange hn hrest, hlt]

/-- Of zeros alone, and be they more than ten, a single one is converted. -/
example : parse "000000000000;".toList = .ok (0, [';']) := rfl

end Literal

end LetCalc
