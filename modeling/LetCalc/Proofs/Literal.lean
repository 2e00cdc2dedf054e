import LetCalc.Expr
import LetCalc.Proofs.Scan
import Mathlib.Algebra.Group.Nat.Defs

set_option autoImplicit false

/-! # Number literals

A run of digits is accepted exactly when the number it denotes is a 32-bit integer
(`ofDigits_eq`), however long the run is and however many zeros it starts with: refusing runs with
too many significant digits before they are converted refuses nothing that fits, because a run
without a zero in front denotes at least a power of ten that grows with its length
(`pow_le_value`). -/

namespace LetCalc

namespace Decimal

/-- A run of digits that does not start with a zero denotes at least the power of ten that has as
    many digits. -/
theorem pow_le_value {d : Char} {rest : Text} (hd : d.isDigit = true) (hne : d ≠ '0') :
    10 ^ rest.length ≤ value (d :: rest) := by
  have hpos : 1 ≤ d.toNat - '0'.toNat := by
    simp only [Char.isDigit, Bool.and_eq_true, decide_eq_true_eq, ge_iff_le,
      UInt32.le_iff_toNat_le] at hd
    have hlow : '0'.toNat ≤ d.toNat := hd.1
    have hdiff : d.toNat ≠ '0'.toNat := fun h => hne (Char.toNat_inj.1 h)
    omega
  have hvalue : value (d :: rest)
      = 10 ^ rest.length * (d.toNat - '0'.toNat) + Nat.ofDigitChars 10 rest 0 := by
    rw [value, Nat.ofDigitChars_cons, Nat.ofDigitChars_eq_ofDigitChars_zero, Nat.mul_zero,
      Nat.zero_add]
  have hmul : 10 ^ rest.length * 1 ≤ 10 ^ rest.length * (d.toNat - '0'.toNat) :=
    Nat.mul_le_mul_left _ hpos
  omega

/-- A run with more than one significant digit denotes at least the power of ten that has as many
    digits as are significant. -/
theorem pow_le_value_of_significant {digits : Text} (hdigits : ∀ c ∈ digits, c.isDigit = true)
    {n : Nat} (hn : n + 1 < (significant digits).length) : 10 ^ (n + 1) ≤ value digits := by
  rw [← value_significant]
  have hstop := Text.stops_dropWhile (· = '0') digits
  have hsub : ∀ c ∈ digits.dropWhile (· = '0'), c.isDigit = true :=
    fun c hc => hdigits c ((List.dropWhile_sublist _).mem hc)
  unfold significant at hn ⊢
  cases hdrop : digits.dropWhile (· = '0') with
  | nil =>
      rw [hdrop] at hn
      simp at hn
  | cons d rest =>
      rw [hdrop] at hn hstop hsub
      have hne : d ≠ '0' := of_decide_eq_false (Text.stops_cons.1 hstop)
      have hlen : n + 1 ≤ rest.length := by
        simp only [List.length_cons] at hn
        omega
      calc 10 ^ (n + 1) ≤ 10 ^ rest.length := Nat.pow_le_pow_right (by decide) hlen
        _ ≤ value (d :: rest) := pow_le_value (hsub d (List.mem_cons_self ..)) hne

end Decimal

namespace Literal

/-- The text that is quoted when a run of digits overflows. -/
def overflowText (digits : Text) : Text :=
  if maxDigits < (Decimal.significant digits).length then abridged digits else digits

/-- The number that a run of digits denotes, decided by its value alone. -/
def denoted (digits : Text) : Except Failure Int :=
  if (Decimal.value digits : Int) ≤ Arithmetic.greatest then .ok (Decimal.value digits)
  else .error (.overflow (overflowText digits))

theorem maxDigits_eq : maxDigits = 10 := by decide +kernel

/-- Too many significant digits are too large a number. -/
theorem greatest_lt_value {digits : Text} (hdigits : ∀ c ∈ digits, c.isDigit = true)
    (hlong : maxDigits < (Decimal.significant digits).length) :
    Arithmetic.greatest < (Decimal.value digits : Int) := by
  rw [maxDigits_eq] at hlong
  have hpow : 10 ^ (9 + 1) ≤ Decimal.value digits :=
    Decimal.pow_le_value_of_significant hdigits hlong
  unfold Arithmetic.greatest
  omega

theorem ofDigits_eq {digits : Text} (hdigits : ∀ c ∈ digits, c.isDigit = true) :
    ofDigits digits = denoted digits := by
  have hleast : Arithmetic.least ≤ (Decimal.value digits : Int) := by
    unfold Arithmetic.least
    omega
  rw [ofDigits_eq_ite]
  unfold denoted overflowText
  by_cases hlong : maxDigits < (Decimal.significant digits).length
  · have hlt := greatest_lt_value hdigits hlong
    rw [if_pos hlong, if_pos hlong, if_neg (Int.not_le.2 hlt)]
  · simp only [if_neg hlong, Decimal.value_significant, Arithmetic.checkedAs, Arithmetic.Fits, hleast,
      true_and]

end Literal

end LetCalc
