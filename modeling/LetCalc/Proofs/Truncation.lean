import LetCalc.Expr

set_option autoImplicit false

/-! # Exact results and 32-bit integers

An operator computes its exact result on integers of any size, and only then it is checked. What the
exact result is, is said for sums, differences and products by the operations of the integers, and
for a quotient by what it leaves over (`Arithmetic.Truncates`): a remainder that is smaller than the
divisor and has no other sign than the dividend. There is just one such quotient for a divisor that
is not zero, the quotient of the absolute values with a sign in front
(`Arithmetic.signedQuotient_eq_tdiv`). Of two 32-bit integers it is one again, but for the least
one divided by -1 (`Arithmetic.not_fits_tdiv_iff`).

What is not a 32-bit integer overflows (`Op.apply_settled_by_exact`). An overflow without an
expression shows the number, and a number of more than 4300 digits cannot be written: then what is
raised is not an overflow (`Op.apply_nines_unwritable`). -/

namespace LetCalc

namespace Arithmetic

/-! ## Quotients -/

/-- Dividing `lhs` by `rhs` gives `q` and leaves a remainder that is smaller than `rhs`, and zero or
    of the sign of `lhs`. -/
def Truncates (lhs rhs q : Int) : Prop :=
  ∃ m, lhs = q * rhs + m ∧ m.natAbs < rhs.natAbs ∧ (m = 0 ∨ m.sign = lhs.sign)

/-- The quotient of the absolute values, negated if just one of `lhs` and `rhs` is negative. -/
def signedQuotient (lhs rhs : Int) : Int :=
  if lhs < 0 ↔ rhs < 0 then (lhs.natAbs / rhs.natAbs : Nat) else -(lhs.natAbs / rhs.natAbs : Nat)

theorem signedQuotient_eq_tdiv (lhs rhs : Int) : signedQuotient lhs rhs = lhs.tdiv rhs := by
  unfold signedQuotient
  -- The cases of the two signs; zero counts as positive.
  rcases lhs with a | a <;> rcases rhs with b | b
  · have hneither : ¬ (a : Int) < 0 ∧ ¬ (b : Int) < 0 := by omega
    exact if_pos (iff_of_false hneither.1 hneither.2)
  · exact if_neg (by simp)
  · exact if_neg (by simp)
  · exact if_pos (by simp)

theorem truncates_tdiv (lhs : Int) {rhs : Int} (hrhs : rhs ≠ 0) :
    Truncates lhs rhs (lhs.tdiv rhs) := by
  refine ⟨lhs.tmod rhs, (Int.tdiv_mul_add_tmod lhs rhs).symm, ?_, ?_⟩
  · rw [Int.natAbs_tmod]
    exact Nat.mod_lt _ (Int.natAbs_pos.2 hrhs)
  · have hsign := Int.sign_tmod lhs rhs
    split at hsign
    · exact Or.inl (Int.sign_eq_zero_iff_zero.1 hsign)
    · exact Or.inr hsign

/-- Remainders of one dividend do not lie on different sides of zero. -/
theorem natAbs_sub_lt {lhs m m' : Int} {bound : Nat} (hm : m.natAbs < bound)
    (hm' : m'.natAbs < bound) (hsign : m = 0 ∨ m.sign = lhs.sign)
    (hsign' : m' = 0 ∨ m'.sign = lhs.sign) : (m' - m).natAbs < bound := by
  rcases hsign with rfl | hsign
  · omega
  rcases hsign' with rfl | hsign'
  · omega
  have hsame : m'.sign = m.sign := hsign'.trans hsign.symm
  rcases Int.lt_trichotomy m 0 with hneg | rfl | hpos
  · rw [Int.sign_eq_neg_one_of_neg hneg, Int.sign_eq_neg_one_iff_neg] at hsame
    omega
  · omega
  · rw [Int.sign_eq_one_of_pos hpos, Int.sign_eq_one_iff_pos] at hsame
    omega

theorem Truncates.unique {lhs rhs q q' : Int} (h : Truncates lhs rhs q)
    (h' : Truncates lhs rhs q') : q = q' := by
  obtain ⟨m, hlhs, hm, hsign⟩ := h
  obtain ⟨m', hlhs', hm', hsign'⟩ := h'
  have hdiff : (q - q') * rhs = m' - m := by
    rw [Int.sub_mul]
    omega
  have hrhs : rhs ≠ 0 := by
    rintro rfl
    simp at hm
  -- The remainders differ by a multiple of the divisor, and by less than the divisor.
  have hzero : m' - m = 0 := Int.eq_zero_of_dvd_of_natAbs_lt_natAbs
    ⟨q - q', by rw [← hdiff, Int.mul_comm]⟩ (natAbs_sub_lt hm hm' hsign hsign')
  rw [hzero] at hdiff
  rcases Int.mul_eq_zero.1 hdiff with hq | hrhs'
  · omega
  · exact absurd hrhs' hrhs

theorem truncates_iff {lhs rhs q : Int} (hrhs : rhs ≠ 0) :
    Truncates lhs rhs q ↔ q = lhs.tdiv rhs := by
  constructor
  · exact fun h => h.unique (truncates_tdiv lhs hrhs)
  · rintro rfl
    exact truncates_tdiv lhs hrhs

/-! ## 32-bit integers -/

theorem checked_eq (n : Int) (expression : Text) : checked n expression =
    if Fits n then .ok n
    else if expression = [] ∧ 4300 < (Decimal.ofNat n.natAbs).length then .error .unwritable
    else .error (.failure (.overflow (if expression = [] then Decimal.ofInt n else expression))) := by
  simp only [checked, Decimal.not_writable_iff]

/-- Only the least integer has a quotient that is too large, and only for the divisor -1. -/
theorem not_fits_tdiv_iff {lhs rhs : Int} (hlhs : Fits lhs) (hrhs : rhs ≠ 0) :
    ¬ Fits (lhs.tdiv rhs) ↔ lhs = least ∧ rhs = -1 := by
  constructor
  · intro hlarge
    by_cases hone : rhs.natAbs = 1
    · rcases (show rhs = 1 ∨ rhs = -1 by omega) with rfl | rfl
      · rw [Int.tdiv_one] at hlarge
        exact absurd hlhs hlarge
      · rw [Int.tdiv_neg, Int.tdiv_one] at hlarge
        unfold Fits least greatest at *
        omega
    · -- A greater divisor halves the dividend at least.
      have habs : (lhs.tdiv rhs).natAbs = lhs.natAbs / rhs.natAbs := Int.natAbs_tdiv lhs rhs
      have hhalf : lhs.natAbs / rhs.natAbs ≤ lhs.natAbs / 2 :=
        Nat.div_le_div_left (by omega) (by decide)
      refine absurd ?_ hlarge
      unfold Fits least greatest at *
      omega
  · rintro ⟨rfl, rfl⟩
    decide

end Arithmetic

namespace Op

open Arithmetic (Fits Truncates signedQuotient)

/-! ## Exact results -/

/-- `x` is the result of the operation on integers of any size. -/
inductive Yields : Op → Int → Int → Int → Prop where
  | add {lhs rhs : Int} : Yields .add lhs rhs (lhs + rhs)
  | sub {lhs rhs : Int} : Yields .sub lhs rhs (lhs - rhs)
  | mul {lhs rhs : Int} : Yields .mul lhs rhs (lhs * rhs)
  | div {lhs rhs q : Int} (h : Truncates lhs rhs q) : Yields .div lhs rhs q

variable {op : Op} {lhs rhs x : Int}

theorem exact_eq_ok_iff (hdefined : ¬ (op = .div ∧ rhs = 0)) (expression : Text) :
    op.exact lhs rhs expression = .ok x ↔ op.Yields lhs rhs x := by
  constructor
  · intro h
    cases op with
    | add =>
        obtain rfl := Except.ok.inj h
        exact .add
    | sub =>
        obtain rfl := Except.ok.inj h
        exact .sub
    | mul =>
        obtain rfl := Except.ok.inj h
        exact .mul
    | div =>
        have hrhs : rhs ≠ 0 := fun hzero => hdefined ⟨rfl, hzero⟩
        rw [exact, Arithmetic.quotient, if_neg hrhs] at h
        exact .div ((Arithmetic.truncates_iff hrhs).2 (Except.ok.inj h).symm)
  · intro h
    cases h with
    | add | sub | mul => rfl
    | div hq =>
        have hrhs : rhs ≠ 0 := fun hzero => hdefined ⟨rfl, hzero⟩
        rw [exact, Arithmetic.quotient, if_neg hrhs, (Arithmetic.truncates_iff hrhs).1 hq]

theorem exists_exact (hdefined : ¬ (op = .div ∧ rhs = 0)) (lhs : Int) (expression : Text) :
    ∃ x, op.exact lhs rhs expression = .ok x := by
  cases op with
  | add | sub | mul => exact ⟨_, rfl⟩
  | div =>
      have hrhs : rhs ≠ 0 := fun hzero => hdefined ⟨rfl, hzero⟩
      exact ⟨_, if_neg hrhs⟩

theorem apply_of_exact {expression : Text} (h : op.exact lhs rhs expression = .ok x) :
    op.apply lhs rhs expression = Arithmetic.checked x expression := by
  rw [apply, h]
  rfl

theorem apply_div_zero (lhs : Int) (expression : Text) :
    Op.div.apply lhs 0 expression = .error (.failure (.divisionByZero expression)) := rfl

/-! ## Results of 32-bit integers -/

theorem natAbs_le_of_fits {n : Int} (h : Fits n) : n.natAbs ≤ 2147483648 := by
  unfold Fits Arithmetic.least Arithmetic.greatest at h
  omega

/-- The exact result has at most 19 digits. -/
theorem Yields.natAbs_lt (hlhs : Fits lhs) (hrhs : Fits rhs) (h : op.Yields lhs rhs x) :
    x.natAbs < Nat.pow 10 19 := by
  have hl := natAbs_le_of_fits hlhs
  have hr := natAbs_le_of_fits hrhs
  have hbound : (2147483648 * 2147483648 : Nat) < Nat.pow 10 19 := by decide
  cases h with
  | add | sub => omega
  | mul =>
      rw [Int.natAbs_mul]
      exact Nat.lt_of_le_of_lt (Nat.mul_le_mul hl hr) hbound
  | div hq =>
      have hzero : rhs ≠ 0 := by
        rintro rfl
        obtain ⟨m, -, hm, -⟩ := hq
        exact absurd hm (Nat.not_lt_zero _)
      rw [(Arithmetic.truncates_iff hzero).1 hq]
      have hle := Int.natAbs_tdiv_le_natAbs lhs rhs
      omega

/-- There is always something to show of an operation on 32-bit integers. -/
theorem apply_ne_unwritable (hlhs : Fits lhs) (hrhs : Fits rhs) (expression : Text) :
    op.apply lhs rhs expression ≠ .error .unwritable := by
  by_cases hzero : op = .div ∧ rhs = 0
  · obtain ⟨rfl, rfl⟩ := hzero
    simp [apply_div_zero]
  · obtain ⟨x, hexact⟩ := exists_exact hzero lhs expression
    have hsmall := ((exact_eq_ok_iff hzero expression).1 hexact).natAbs_lt hlhs hrhs
    have hwritable : Decimal.Writable x := Decimal.writable_of_lt (by decide) hsmall
    rw [apply_of_exact hexact, Arithmetic.checked]
    split <;> simp [hwritable]

/-- A quotient of 32-bit integers overflows in one case only. -/
theorem apply_div_overflow_iff (hlhs : Fits lhs) (hrhs : Fits rhs) (expression : Text) :
    (∃ shown, Op.div.apply lhs rhs expression = .error (.failure (.overflow shown))) ↔
      lhs = Arithmetic.least ∧ rhs = -1 := by
  have hshown := @apply_ne_unwritable .div lhs rhs hlhs hrhs expression
  by_cases hzero : rhs = 0
  · subst hzero
    simp [apply_div_zero]
  · have hexact : Op.div.exact lhs rhs expression = .ok (lhs.tdiv rhs) := if_neg hzero
    rw [apply_of_exact hexact, Arithmetic.checked] at hshown ⊢
    rw [← Arithmetic.not_fits_tdiv_iff hlhs hzero]
    by_cases hfits : Fits (lhs.tdiv rhs)
    · simp [hfits]
    · rw [if_neg hfits] at hshown ⊢
      split at hshown
      · exact absurd rfl hshown
      · next hwritable =>
          rw [if_neg hwritable]
          exact ⟨fun _ => hfits, fun _ => ⟨_, rfl⟩⟩

/-! ## Results of integers of any size -/

/-- An operator applied to integers of any size: dividing by zero fails, and otherwise there is just
    one exact result, which is answered if it is a 32-bit integer and overflows if it is not. Only if
    there is no expression to show, and the result has more than 4300 digits, what is raised is no
    overflow: the attempt to write the result fails. That is never so between 32-bit integers, those
    from -2^31 to 2^31 - 1, and there a division overflows only for the least one divided by -1. -/
theorem apply_settled_by_exact (op : Op) (lhs rhs : Int) (expression : Text) :
    (op = .div ∧ rhs = 0 →
      op.apply lhs rhs expression = .error (.failure (.divisionByZero expression))) ∧
    (¬ (op = .div ∧ rhs = 0) → ∃ x, (∀ y, op.Yields lhs rhs y ↔ y = x) ∧
      (op = .div → x = signedQuotient lhs rhs) ∧
      op.apply lhs rhs expression =
        if Fits x then .ok x
        else if expression = [] ∧ 4300 < (Decimal.ofNat x.natAbs).length then .error .unwritable
        else .error (.failure
          (.overflow (if expression = [] then Decimal.ofInt x else expression)))) ∧
    (Fits lhs → Fits rhs → op.apply lhs rhs expression ≠ .error .unwritable ∧
      ((∃ shown, Op.div.apply lhs rhs expression = .error (.failure (.overflow shown))) ↔
        lhs = -2147483648 ∧ rhs = -1)) ∧
    ∀ n, Fits n ↔ -2147483648 ≤ n ∧ n ≤ 2147483647 := by
  refine ⟨?_, ?_, fun hlhs hrhs => ⟨apply_ne_unwritable hlhs hrhs expression,
    apply_div_overflow_iff hlhs hrhs expression⟩, fun n => Iff.rfl⟩
  · rintro ⟨rfl, rfl⟩
    exact apply_div_zero lhs expression
  · intro hdefined
    obtain ⟨x, hexact⟩ := exists_exact hdefined lhs expression
    refine ⟨x, ?_, ?_, ?_⟩
    · intro y
      rw [← exact_eq_ok_iff hdefined expression, hexact]
      exact ⟨fun h => (Except.ok.inj h).symm, fun h => h ▸ rfl⟩
    · rintro rfl
      have hrhs : rhs ≠ 0 := fun hzero => hdefined ⟨rfl, hzero⟩
      have htdiv : Op.div.exact lhs rhs expression = .ok (lhs.tdiv rhs) := if_neg hrhs
      rw [Arithmetic.signedQuotient_eq_tdiv]
      exact Except.ok.inj (hexact.symm.trans htdiv)
    · rw [apply_of_exact hexact, Arithmetic.checked_eq]

theorem apply_settled_at_least_overflow :
    Fits Arithmetic.least ∧ Fits (-1) ∧
      ∃ shown, Op.div.apply Arithmetic.least (-1) [] = .error (.failure (.overflow shown)) := by
  refine ⟨by decide, by decide, ?_⟩
  obtain ⟨-, -, hdiv, -⟩ := apply_settled_by_exact .div Arithmetic.least (-1) []
  exact (hdiv (by decide) (by decide)).2.2 ⟨rfl, rfl⟩

/-- One more than the number of 4300 nines is no 32-bit integer, and yet it does not overflow. -/
theorem apply_nines_unwritable :
    let nines : Int := Decimal.leastUnwritable - 1
    Op.add.Yields nines 1 (nines + 1) ∧ ¬ Fits (nines + 1) ∧
      Op.add.apply nines 1 [] = .error .unwritable := by
  intro nines
  have hsum : nines + 1 = Decimal.leastUnwritable := Int.sub_add_cancel ..
  have hwritable : ¬ Decimal.Writable (nines + 1) := hsum ▸ Decimal.not_writable_leastUnwritable
  have hlarge : ¬ Fits (nines + 1) := by
    intro hfits
    have hsmall := Nat.lt_of_le_of_lt (natAbs_le_of_fits hfits)
      (show 2147483648 < Nat.pow 10 10 by decide)
    exact hwritable (Decimal.writable_of_lt (by decide) hsmall)
  refine ⟨.add, hlarge, ?_⟩
  rw [apply_of_exact rfl, Arithmetic.checked, if_neg hlarge, if_pos ⟨rfl, hwritable⟩]

/-- Rounding is toward zero, also where the quotient is negative. -/
example : Op.div.apply (-7) 2 [] = .ok (-3) := rfl

end Op

end LetCalc
