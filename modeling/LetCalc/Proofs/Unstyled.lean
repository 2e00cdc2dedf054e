import LetCalc.Text.Basic

set_option autoImplicit false

/-! # Text without its styles

Where a text is shown without styles, the codes are deleted from it, and everything else stays in its
place (`Style.without`). Codes start with the escape character, so text without that character is
copied as it is (`Style.without_append`), and deleting the codes that switch a style on and off again
leaves the text between them (`Style.without_bold`, `Style.without_paint`). -/

namespace LetCalc.Style

/-- The character that every code starts with. -/
def escape : Char := '\x1b'

/-- The text contains no code, nor the start of one. -/
def Bare (t : Text) : Prop := ∀ c ∈ t, c ≠ escape

instance (t : Text) : Decidable (Bare t) := List.decidableBAll ..

/-! ## Deleting codes -/

/-- Deletes codes from the front of a text to its end; the first `skipped` characters belong to a
    code that was found before. -/
def withoutFrom (codes : List Text) : Nat → Text → Text
  | _, [] => []
  | skipped + 1, _ :: rest => withoutFrom codes skipped rest
  | 0, c :: rest =>
      match codes.find? fun code => code.isPrefixOf (c :: rest) with
      | some code => withoutFrom codes (code.length - 1) rest
      | none => c :: withoutFrom codes 0 rest

/-- The text without the given codes. -/
def without (codes : List Text) (t : Text) : Text := withoutFrom codes 0 t

variable {codes : List Text}

theorem withoutFrom_append (skipped rest : Text) :
    withoutFrom codes skipped.length (skipped ++ rest) = without codes rest := by
  induction skipped with
  | nil => rfl
  | cons c tail ih => exact ih

/-- A code that is found at the front is deleted. -/
theorem without_code {code rest : Text} (hne : code ≠ [])
    (hfind : (codes.find? fun other => other.isPrefixOf (code ++ rest)) = some code) :
    without codes (code ++ rest) = without codes rest := by
  obtain ⟨c, tail, rfl⟩ := List.exists_cons_of_ne_nil hne
  rw [List.cons_append] at hfind ⊢
  rw [without, withoutFrom, hfind]
  exact withoutFrom_append tail rest

/-- What contains no code is copied. -/
theorem without_append (hcodes : ∀ code ∈ codes, code.head? = some escape) {t : Text}
    (ht : Bare t) (rest : Text) : without codes (t ++ rest) = t ++ without codes rest := by
  induction t with
  | nil => rfl
  | cons c tail ih =>
      obtain ⟨hc, htail⟩ := List.forall_mem_cons.1 ht
      have hfind : (codes.find? fun code => code.isPrefixOf (c :: (tail ++ rest))) = none := by
        rw [List.find?_eq_none]
        intro code hcode hmatch
        obtain ⟨behind, hbehind⟩ := List.isPrefixOf_iff_prefix.1 hmatch
        obtain ⟨more, rfl⟩ := List.head?_eq_some_iff.1 (hcodes code hcode)
        exact hc (List.cons.inj hbehind).1.symm
      rw [List.cons_append, without, withoutFrom, hfind]
      exact congrArg (c :: ·) (ih htail)

/-! ## The codes of a style -/

/-- The codes around a bold text. -/
def boldCodes : List Text := ["\x1b[1m".toList, "\x1b[0m".toList]

/-- The codes around a painted text. -/
def paintCodes : Colour → List Text
  | .red => ["\x1b[1m".toList, "\x1b[31m".toList, "\x1b[0m".toList]
  | .magenta => ["\x1b[1m".toList, "\x1b[35m".toList, "\x1b[0m".toList]

theorem paintCodes_eq (colour : Colour) : paintCodes colour = [boldOn, colourOn colour, off] := by
  cases colour <;> rfl

theorem head?_boldCodes : ∀ code ∈ boldCodes, code.head? = some escape := by decide

theorem head?_paintCodes (colour : Colour) :
    ∀ code ∈ paintCodes colour, code.head? = some escape := by
  cases colour <;> decide

theorem without_bold {t : Text} (ht : Bare t) (rest : Text) :
    without boldCodes (bold t ++ rest) = t ++ without boldCodes rest := by
  have hon := @without_code boldCodes boldOn (t ++ (off ++ rest)) (by simp [boldOn, code]) rfl
  have hoff := @without_code boldCodes off rest (by simp [off, code]) rfl
  rw [bold, List.append_assoc, List.append_assoc, hon, without_append head?_boldCodes ht, hoff]

theorem without_paint (colour : Colour) {t : Text} (ht : Bare t) (rest : Text) :
    without (paintCodes colour) (paint colour t ++ rest)
      = t ++ without (paintCodes colour) rest := by
  let behind := t ++ (off ++ rest)
  have hon := @without_code (paintCodes colour) boldOn (colourOn colour ++ behind)
    (by simp [boldOn, code]) (by rw [paintCodes_eq]; rfl)
  have hcolour : without (paintCodes colour) (colourOn colour ++ behind)
      = without (paintCodes colour) behind := by
    cases colour with
    | red => exact without_code (by simp [colourOn, code]) rfl
    | magenta => exact without_code (by simp [colourOn, code]) rfl
  have hoff : without (paintCodes colour) (off ++ rest) = without (paintCodes colour) rest := by
    cases colour <;> exact without_code (by simp [off, code]) rfl
  rw [paint, List.append_assoc, List.append_assoc, List.append_assoc, hon, hcolour,
    without_append (head?_paintCodes colour) ht, hoff]

end LetCalc.Style
