import LetCalc.Text.Basic

set_option autoImplicit false

/-! # Decimal numbers as text

Integers are printed in decimal, with a minus sign where they are negative, and digit runs are read
by Horner's rule. Reading what was printed gives the number back (`value_ofNat`), and leading zeros
do not count (`value_significant`). Not every integer can be printed: the conversion to text refuses
numbers of more than 4300 digits (`Decimal.Writable`, `Decimal.writable_iff`).

Every script that has decimal digits has them in a row, from zero to nine (general category Nd in
Unicode 14.0), so a table of the zeros tells which characters are digits and what they are worth.
The ASCII digits have the values that they are usually given (`value?_of_isDigit`). Digits of
different scripts may stand side by side in one number. -/

namespace LetCalc

namespace Decimal

/-- The decimal digits of `n`, without leading zeros. -/
def ofNat (n : Nat) : Text := Nat.toDigits 10 n

/-- The decimal digits of `n`, after a minus sign if `n` is negative. -/
def ofInt (n : Int) : Text := if n < 0 then '-' :: ofNat n.natAbs else ofNat n.natAbs

/-- The number that a run of decimal digits denotes. -/
def value (digits : Text) : Nat := Nat.ofDigitChars 10 digits 0

/-- The digits without leading zeros; one zero if nothing else is left. -/
def significant (digits : Text) : Text :=
  match digits.dropWhile (· = '0') with
  | [] => ['0']
  | d :: rest => d :: rest

theorem value_ofNat (n : Nat) : value (ofNat n) = n := Nat.ofDigitChars_ten_toDigits

theorem significant_ne_nil (digits : Text) : significant digits ≠ [] := by
  unfold significant
  split <;> simp

theorem value_significant (digits : Text) : value (significant digits) = value digits := by
  induction digits with
  | nil => rfl
  | cons c rest ih =>
      by_cases h : c = '0'
      · subst h
        simpa [significant, value, Nat.ofDigitChars_cons] using ih
      · simp [significant, h]

/-! ## Numbers that can be written -/

/-- The greatest number of digits with which an integer is converted to text. -/
def maxWritten : Nat := 4300

/-- The integer can be converted to text. `ofInt` has digits for every integer, but whoever is to
    print one that cannot be converted fails. -/
def Writable (n : Int) : Prop := (ofNat n.natAbs).length ≤ maxWritten

instance : DecidablePred Writable := fun _ => inferInstanceAs (Decidable (_ ≤ _))

/-- What is said of a number that cannot be converted to text. -/
def unwritableMessage : Text :=
  ("Exceeds the limit (4300 digits) for integer string conversion; "
    ++ "use sys.set_int_max_str_digits() to increase the limit").toList

theorem not_writable_iff {n : Int} : ¬ Writable n ↔ 4300 < (ofNat n.natAbs).length := Nat.not_le

/-- The least number with too many digits: a one and 4300 zeros. -/
def leastUnwritable : Nat := Nat.pow 10 maxWritten

theorem length_ofNat_le_iff {n digits : Nat} (hpos : 0 < digits) :
    (ofNat n).length ≤ digits ↔ n < Nat.pow 10 digits := by
  rw [ofNat, Nat.length_toDigits_le_iff (by decide) hpos, Nat.pow_eq]

theorem writable_iff {n : Int} : Writable n ↔ n.natAbs < leastUnwritable := by
  unfold Writable leastUnwritable
  exact length_ofNat_le_iff (by decide)

theorem writable_of_lt {n : Int} {digits : Nat} (hle : digits ≤ maxWritten)
    (h : n.natAbs < Nat.pow 10 digits) : Writable n := by
  rw [writable_iff]
  unfold leastUnwritable
  generalize maxWritten = limit at hle ⊢
  exact Nat.lt_of_lt_of_le h (Nat.pow_le_pow_right (by decide) hle)

theorem not_writable_leastUnwritable : ¬ Writable leastUnwritable := by
  rw [writable_iff, Int.natAbs_natCast]
  exact Nat.lt_irrefl leastUnwritable

end Decimal

/-! ## Digits of any script -/

namespace DecimalDigit

/-- The code points of the zeros, ascending. -/
def zeros : List Nat :=
  [ 0x30, 0x660, 0x6F0, 0x7C0, 0x966, 0x9E6, 0xA66, 0xAE6, 0xB66, 0xBE6, 0xC66, 0xCE6, 0xD66,
    0xDE6, 0xE50, 0xED0, 0xF20, 0x1040, 0x1090, 0x17E0, 0x1810, 0x1946, 0x19D0, 0x1A80, 0x1A90,
    0x1B50, 0x1BB0, 0x1C40, 0x1C50, 0xA620, 0xA8D0, 0xA900, 0xA9D0, 0xA9F0, 0xAA50, 0xABF0,
    0xFF10, 0x104A0, 0x10D30, 0x11066, 0x110F0, 0x11136, 0x111D0, 0x112F0, 0x11450, 0x114D0,
    0x11650, 0x116C0, 0x11730, 0x118E0, 0x11950, 0x11C50, 0x11D50, 0x11DA0, 0x16A60, 0x16AC0,
    0x16B50, 0x1D7CE, 0x1D7D8, 0x1D7E2, 0x1D7EC, 0x1D7F6, 0x1E140, 0x1E2F0, 0x1E950, 0x1FBF0]

/-- The value of a decimal digit of any script. -/
def value? (c : Char) : Option Nat :=
  (zeros.find? fun start => start ≤ c.toNat && c.toNat < start + 10).map fun start =>
    c.toNat - start

/-- The values of the longest run of digits at the front of `s`. -/
def leading : Text → List Nat
  | [] => []
  | c :: rest =>
      match value? c with
      | some d => d :: leading rest
      | none => []

/-- The number that is written with the given digits. -/
def number (digits : List Nat) : Nat := digits.foldl (fun n d => 10 * n + d) 0

theorem value?_of_isDigit {c : Char} (h : c.isDigit = true) :
    value? c = some (c.toNat - '0'.toNat) := by
  simp only [Char.isDigit, Bool.and_eq_true, decide_eq_true_eq, ge_iff_le,
    UInt32.le_iff_toNat_le] at h
  have hlow : 0x30 ≤ c.toNat := h.1
  have hhigh : c.toNat < 0x30 + 10 := Nat.lt_succ_of_le h.2
  rw [value?, zeros, List.find?_cons_of_pos (by simp [hlow, hhigh])]
  rfl

end DecimalDigit

end LetCalc
