set_option autoImplicit false

/-! # Sets of code points as ranges

A character property is given as an ascending list of disjoint ranges. A look-up walks the list and
stops at the first range that lies beyond the code point. On an ascending list it answers membership
in one of the ranges (`contains_iff`). -/

namespace LetCalc

/-- Ranges of code points, both ends included. -/
abbrev CodeRanges := List (Nat × Nat)

namespace CodeRanges

/-- Whether `n` lies in one of the ranges, which have to ascend. -/
def contains : CodeRanges → Nat → Bool
  | [], _ => false
  | (low, high) :: rest, n =>
      if n < low then false else if n ≤ high then true else contains rest n

/-- Whether every range is non-empty, starts at `floor` or above, and lies wholly below the ranges
    after it. -/
def ascends : Nat → CodeRanges → Bool
  | _, [] => true
  | floor, (low, high) :: rest => floor ≤ low && low ≤ high && ascends (high + 1) rest

theorem le_of_ascends {ranges : CodeRanges} {floor : Nat} (h : ranges.ascends floor = true) :
    ∀ r ∈ ranges, floor ≤ r.1 := by
  induction ranges generalizing floor with
  | nil => simp
  | cons r rest ih =>
      obtain ⟨low, high⟩ := r
      simp only [ascends, Bool.and_eq_true, decide_eq_true_eq] at h
      intro s hs
      rcases List.mem_cons.1 hs with rfl | hs
      · exact h.1.1
      · have := ih h.2 s hs
        omega

theorem contains_iff {ranges : CodeRanges} {floor : Nat} (h : ranges.ascends floor = true)
    (n : Nat) : ranges.contains n = true ↔ ∃ r ∈ ranges, r.1 ≤ n ∧ n ≤ r.2 := by
  induction ranges generalizing floor with
  | nil => simp [contains]
  | cons r rest ih =>
      obtain ⟨low, high⟩ := r
      simp only [ascends, Bool.and_eq_true, decide_eq_true_eq] at h
      have hsep := le_of_ascends h.2
      simp only [contains, List.mem_cons, exists_eq_or_imp]
      split
      · next hlt =>
          refine ⟨fun hf => by simp at hf, fun hin => ?_⟩
          rcases hin with hin | ⟨s, hs, hin⟩
          · omega
          · have := hsep s hs
            omega
      · next hge =>
          split
          · next hle => exact ⟨fun _ => Or.inl ⟨by omega, hle⟩, fun _ => rfl⟩
          · next hgt =>
              rw [ih h.2]
              exact ⟨Or.inr, fun hin => hin.resolve_left fun h => hgt h.2⟩

end CodeRanges

end LetCalc
