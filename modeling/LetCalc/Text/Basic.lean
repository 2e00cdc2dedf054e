set_option autoImplicit false

/-! # Text

Everything the calculator reads or prints is a sequence of Unicode scalar values. Lengths, columns
and slices count these values, so text is a list of characters, and the list lemmas apply to it as
they stand.

An index into a text may be negative, and then counts from its end; an index beyond either end
stands for that end. A slice whose start is not before its stop is empty. Slices with indices that
are not negative are what `take` and `drop` give (`before_natCast`, `between_natCast`,
`after_natCast`).

Emphasis is written with the terminal's control sequences: a code switches a style on, one code
switches all styles off. The codes are written around an empty text as well. -/

namespace LetCalc

/-- A sequence of Unicode scalar values. -/
abbrev Text := List Char

namespace Text

/-- The line break. -/
def newline : Text := ['\n']

/-- `n` copies of `c`; a negative count gives none. -/
def repeated (n : Int) (c : Char) : Text := List.replicate n.toNat c

/-- `s` without the longest run of characters at its end that satisfy `p`. -/
def trimEnd (p : Char → Bool) (s : Text) : Text := (s.reverse.dropWhile p).reverse

/-! ## Slices with signed indices -/

/-- The offset that the index `i` denotes in a text of `length` characters. -/
def offset (length : Nat) (i : Int) : Nat :=
  if i < 0 then (length + i).toNat else min i.toNat length

/-- The part of `s` before the index `i`. -/
def before (s : Text) (i : Int) : Text := s.take (offset s.length i)

/-- The part of `s` from the index `i` on. -/
def after (s : Text) (i : Int) : Text := s.drop (offset s.length i)

/-- The part of `s` from the index `i` on and before the index `j`. -/
def between (s : Text) (i j : Int) : Text :=
  (s.take (offset s.length j)).drop (offset s.length i)

theorem offset_of_nonneg {i : Int} (h : 0 ≤ i) (length : Nat) :
    offset length i = min i.toNat length := if_neg (by omega)

theorem before_natCast (s : Text) (i : Nat) : before s i = s.take i := by
  rw [before, offset_of_nonneg (Int.natCast_nonneg i), Int.toNat_natCast, ← List.take_take,
    List.take_length]

theorem after_natCast (s : Text) (i : Nat) : after s i = s.drop i := by
  rw [after, offset_of_nonneg (Int.natCast_nonneg i), Int.toNat_natCast]
  by_cases h : i ≤ s.length
  · rw [Nat.min_eq_left h]
  · rw [Nat.min_eq_right (by omega), List.drop_length, List.drop_eq_nil_of_le (by omega)]

theorem between_natCast (s : Text) (i j : Nat) : between s i j = (s.take j).drop i := by
  have htake : s.take (offset s.length j) = s.take j := before_natCast s j
  rw [between, htake, offset_of_nonneg (Int.natCast_nonneg i), Int.toNat_natCast]
  by_cases h : i ≤ s.length
  · rw [Nat.min_eq_left h]
  · have hshort : (s.take j).length ≤ s.length := List.length_take_le' ..
    rw [Nat.min_eq_right (by omega), List.drop_eq_nil_of_le hshort,
      List.drop_eq_nil_of_le (by omega)]

end Text

/-! ## Terminal styles -/

/-- The colours that reports are painted in. -/
inductive Colour where
  | red
  | magenta
deriving DecidableEq

namespace Style

/-- The control sequence for the display style with the given number. -/
def code (number : Nat) : Text := '\x1b' :: '[' :: (Nat.toDigits 10 number ++ ['m'])

/-- Switches bold on. -/
def boldOn : Text := code 1

/-- Switches a colour on. -/
def colourOn : Colour → Text
  | .red => code 31
  | .magenta => code 35

/-- Switches all styles off. -/
def off : Text := code 0

/-- `t` in bold. -/
def bold (t : Text) : Text := boldOn ++ t ++ off

/-- `t` in bold and in colour. -/
def paint (colour : Colour) (t : Text) : Text := boldOn ++ colourOn colour ++ t ++ off

theorem bold_eq (t : Text) : bold t = "\x1b[1m".toList ++ t ++ "\x1b[0m".toList := rfl

theorem paint_red (t : Text) :
    paint .red t = "\x1b[1m\x1b[31m".toList ++ t ++ "\x1b[0m".toList := rfl

theorem paint_magenta (t : Text) :
    paint .magenta t = "\x1b[1m\x1b[35m".toList ++ t ++ "\x1b[0m".toList := rfl

end Style

end LetCalc
