import LetCalc.Diagnostic
import LetCalc.Proofs.RoundTrip

set_option autoImplicit false

/-! # Values of expressions

The operands of an expression that was read are literals: none of them is negative, and none is too
large. So evaluating it is exact integer arithmetic with one check (`Op.evaluate_of_denotes`). A sum or
a product may be too large; a difference is no less than minus its second literal, and a quotient no
more than its first, so neither of them ever overflows and the least 32-bit integer is never a value
(`Expr.WellFormed.attainable`). Between literals, rounding a quotient toward zero is the same as
rounding it down. -/

namespace LetCalc

open Arithmetic (greatest)

/-- A value that the expression on a line can have. -/
def Arithmetic.Attainable (n : Int) : Prop := -greatest ≤ n ∧ n ≤ greatest

open Arithmetic (Attainable)

/-! ## Operations on literals -/

namespace Op

/-- The result of an operation on integers of any size. A quotient is rounded down. -/
def result : Op → Int → Int → Int
  | .add, lhs, rhs => lhs + rhs
  | .sub, lhs, rhs => lhs - rhs
  | .mul, lhs, rhs => lhs * rhs
  | .div, lhs, rhs => lhs.fdiv rhs

/-- The operation is a sum or a product that is too large. -/
def TooLarge (op : Op) (lhs rhs : Int) : Prop :=
  (op = .add ∧ greatest < lhs + rhs) ∨ (op = .mul ∧ greatest < lhs * rhs)

instance (op : Op) (lhs rhs : Int) : Decidable (op.TooLarge lhs rhs) :=
  inferInstanceAs (Decidable (_ ∨ _))

variable {lhs rhs : Int}

theorem exact_of_denotes (op : Op) (hlhs : Literal.Denotes lhs) (hrhs : Literal.Denotes rhs)
    (expression : Text) : op.exact lhs rhs expression =
      if op = .div ∧ rhs = 0 then .error (.divisionByZero expression)
      else .ok (op.result lhs rhs) := by
  cases op with
  | add | sub | mul => rfl
  | div =>
      have hquotient : lhs.tdiv rhs = lhs.fdiv rhs := by
        rw [Int.tdiv_eq_ediv_of_nonneg hlhs.1, Int.fdiv_eq_ediv_of_nonneg _ hrhs.1]
      simp only [exact, Arithmetic.quotient, hquotient, true_and, result]

/-- The result is far from the least 32-bit integer: only a difference can be negative, and it is no
    less than minus its second literal. -/
theorem neg_greatest_le_result (op : Op) (hlhs : Literal.Denotes lhs) (hrhs : Literal.Denotes rhs) :
    -greatest ≤ op.result lhs rhs := by
  obtain ⟨hlhs, -⟩ := hlhs
  obtain ⟨hrhs, hrhsMax⟩ := hrhs
  have hgreatest : (0 : Int) ≤ greatest := by decide
  cases op with
  | add | sub =>
      simp only [result]
      omega
  | mul =>
      have hproduct := Int.mul_nonneg hlhs hrhs
      simp only [result]
      omega
  | div =>
      have hquotient : 0 ≤ lhs.fdiv rhs := by
        rw [Int.fdiv_eq_ediv_of_nonneg _ hrhs]
        exact Int.ediv_nonneg hlhs hrhs
      simp only [result]
      omega

theorem greatest_lt_result_iff (op : Op) (hlhs : Literal.Denotes lhs) (hrhs : Literal.Denotes rhs) :
    greatest < op.result lhs rhs ↔ op.TooLarge lhs rhs := by
  obtain ⟨hlhs, hlhsMax⟩ := hlhs
  obtain ⟨hrhs, -⟩ := hrhs
  cases op with
  | add | mul => simp [TooLarge, result]
  | sub =>
      simp only [TooLarge, result, reduceCtorEq, false_and, or_false, iff_false]
      omega
  | div =>
      have hquotient : lhs.fdiv rhs ≤ lhs := by
        rw [Int.fdiv_eq_ediv_of_nonneg _ hrhs]
        exact Int.ediv_le_self _ hlhs
      simp only [TooLarge, result, reduceCtorEq, false_and, or_false, iff_false]
      omega

theorem evaluate_of_denotes (op : Op) (hlhs : Literal.Denotes lhs) (hrhs : Literal.Denotes rhs)
    (expression : Text) : op.evaluate lhs rhs expression =
      if op = .div ∧ rhs = 0 then .error (.divisionByZero expression)
      else if op.TooLarge lhs rhs then .error (.overflow expression)
      else .ok (op.result lhs rhs) := by
  have hlow := op.neg_greatest_le_result hlhs hrhs
  have hleast : Arithmetic.least ≤ op.result lhs rhs := Int.le_trans (by decide) hlow
  rw [evaluate, op.exact_of_denotes hlhs hrhs]
  by_cases hzero : op = .div ∧ rhs = 0
  · rw [if_pos hzero, if_pos hzero]
    rfl
  · rw [if_neg hzero, if_neg hzero]
    show Arithmetic.checkedAs (op.result lhs rhs) expression = _
    rw [Arithmetic.checkedAs]
    by_cases hlarge : op.TooLarge lhs rhs
    · have hgreater := (op.greatest_lt_result_iff hlhs hrhs).2 hlarge
      rw [if_neg fun hfits => Int.not_lt.2 hfits.2 hgreater, if_pos hlarge]
    · have hle := Int.not_lt.1 (mt (op.greatest_lt_result_iff hlhs hrhs).1 hlarge)
      rw [if_pos ⟨hleast, hle⟩, if_neg hlarge]

end Op

/-! ## Expressions -/

/-- Where the expression is known, a division by zero is shown with all of it. -/
theorem Failure.diagnostic_divisionByZero {expression : Text} (hne : expression ≠ []) :
    (Failure.divisionByZero expression).diagnostic
      = Diagnostic.compose (Template.around ['\x27'] "' divides by zero".toList)
          (fun _ => expression) expression := by
  cases expression with
  | nil => exact absurd rfl hne
  | cons c rest => rfl

namespace Expr

theorem toText_operation_ne_nil (lhs : Int) (op : Op) (rhs : Int) :
    toText (.operation lhs op rhs) ≠ [] := by simp [toText]

theorem eval_operation {lhs rhs : Int} {op : Op}
    (h : WellFormed (.operation lhs op rhs)) : eval (.operation lhs op rhs) =
      if op = .div ∧ rhs = 0 then .error (.divisionByZero (toText (.operation lhs op rhs)))
      else if op.TooLarge lhs rhs then .error (.overflow (toText (.operation lhs op rhs)))
      else .ok (op.result lhs rhs) :=
  op.evaluate_of_denotes h.1 h.2 _

theorem WellFormed.attainable {e : Expr} (he : e.WellFormed) {n : Int} (h : e.eval = .ok n) :
    Attainable n := by
  cases e with
  | number m =>
      obtain rfl := Except.ok.inj h
      have hgreatest : (0 : Int) ≤ greatest := by decide
      exact ⟨Int.le_trans (by omega) he.1, he.2⟩
  | operation lhs op rhs =>
      rw [eval_operation he] at h
      split at h
      · simp at h
      · split at h
        · simp at h
        · rename_i hlarge
          obtain rfl := Except.ok.inj h
          refine ⟨op.neg_greatest_le_result he.1 he.2, Int.not_lt.1 ?_⟩
          rw [op.greatest_lt_result_iff he.1 he.2]
          exact hlarge

theorem wellFormed_of_parse {s rest : Text} {e : Expr} (h : parse s = .ok (e, rest)) :
    e.WellFormed := by
  obtain ⟨p, -, hrange, rfl, -⟩ := (reads_iff.2 h).exists_phrase
  exact p.wellFormed hrange

/-- A number that was read is its own value. An operation that was read divides by zero exactly if it
    says so, it overflows exactly if it is a sum or a product that is too large, and otherwise its
    value is the exact result, which is never the least 32-bit integer. Whoever divides by zero is
    told the expression, all of it. -/
theorem eval_of_parse {s rest : Text} {e : Expr} (h : parse s = .ok (e, rest)) :
    (∀ n, e = .number n → e.eval = .ok n) ∧
    ∀ lhs op rhs, e = .operation lhs op rhs →
      ((∃ text, e.eval = .error (.divisionByZero text)) ↔ op = .div ∧ rhs = 0) ∧
      ((∃ shown, e.eval = .error (.overflow shown)) ↔ op.TooLarge lhs rhs) ∧
      (¬ (op = .div ∧ rhs = 0) → ¬ op.TooLarge lhs rhs →
        e.eval = .ok (op.result lhs rhs) ∧ Attainable (op.result lhs rhs)) ∧
      ∀ text, e.eval = .error (.divisionByZero text) → text = e.toText ∧ text ≠ [] ∧
        let d := (Failure.divisionByZero text).diagnostic
        d.subject = e.toText ∧ d.start = 0 ∧ d.stop = e.toText.length := by
  have hwell := wellFormed_of_parse h
  refine ⟨?_, ?_⟩
  · rintro n rfl
    rfl
  · rintro lhs op rhs rfl
    have heval := eval_operation hwell
    by_cases hzero : op = .div ∧ rhs = 0
    · obtain ⟨rfl, rfl⟩ := hzero
      have hlarge : ¬ Op.div.TooLarge lhs 0 := by simp [Op.TooLarge]
      have hne := toText_operation_ne_nil lhs .div 0
      rw [if_pos ⟨rfl, rfl⟩] at heval
      refine ⟨by simp [heval], by simp [heval, hlarge], by simp, ?_⟩
      intro text htext
      obtain rfl : toText (.operation lhs .div 0) = text := by simpa [heval] using htext
      rw [Failure.diagnostic_divisionByZero hne]
      exact ⟨rfl, hne, rfl, rfl, rfl⟩
    · rw [if_neg hzero] at heval
      by_cases hlarge : op.TooLarge lhs rhs
      · rw [if_pos hlarge] at heval
        simp [heval, hzero, hlarge]
      · rw [if_neg hlarge] at heval
        simp [heval, hzero, hlarge, hwell.attainable heval]

theorem eval_of_parse_least_overflow :
    parse "65536 *32768;".toList = .ok (.operation 65536 .mul 32768, [';']) ∧
      ∃ shown, eval (.operation 65536 .mul 32768) = .error (.overflow shown) :=
  ⟨rfl, ((@eval_of_parse "65536 *32768;".toList [';'] _ rfl).2 65536 .mul 32768 rfl).2.1.2
    (Or.inr ⟨rfl, by decide⟩)⟩

end Expr

end LetCalc
