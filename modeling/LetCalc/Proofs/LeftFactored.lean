import LetCalc.Proofs.ExprReading

set_option autoImplicit false

/-! # Reading expressions in one pass

The grammar of expressions can be factored to the left: a number, and behind it an operator with a
second number, if that is there. `Expr.parseFactored` reads by the factored grammar. It takes the
first number once and for all, looks ahead for an operand behind it, and decides by the value of a
run of digits whether the number is too large. The reader that tries an operation and goes back to
the start of the text for a number agrees with it on every text, in results, rests and failures
(`Expr.parse_eq_parseFactored`). So of all that can be wrong with an operation only one thing ever
shows: that there are no digits at the front. -/

namespace LetCalc

open Text Grammar

/-! ## The factored reader -/

namespace Expr

/-- The operator at the front of a text, behind spaces, with the longest run of digits behind it and
    more spaces, and what follows that run. There is none if one of the two is missing. -/
def operand? (s : Text) : Option (Op × Text × Text) :=
  match s.dropWhile (· = ' ') with
  | [] => none
  | c :: behind =>
      let operand := behind.dropWhile (· = ' ')
      match Op.ofSymbol? c, operand.takeWhile Char.isDigit with
      | none, _ => none
      | some _, [] => none
      | some op, d :: digits => some (op, d :: digits, operand.dropWhile Char.isDigit)

/-- Reads an expression in one pass. -/
def parseFactored : Parser Expr := fun s =>
  let digits := s.takeWhile Char.isDigit
  let rest := s.dropWhile Char.isDigit
  if digits = [] then .error (.malformed "digits".toList s)
  else do
    let lhs ← Literal.denoted digits
    match operand? rest with
    | none => return (.number lhs, rest)
    | some (op, digits, rest) => return (.operation lhs op (← Literal.denoted digits), rest)

/-! ## Operands -/

theorem operand?_tail (t : Tail) {rest : Text} (hrest : Stops Char.isDigit rest) :
    operand? (t.text ++ rest) = some (t.op, t.rhs.digits, rest) := by
  have hgap : ∀ n, ∀ c ∈ gap n, decide (c = ' ') = true := fun _ _ => eq_space_of_mem_gap
  have hsymbol : Stops (· = ' ') (t.op.symbol :: (gap t.after ++ (t.rhs.digits ++ rest))) :=
    stops_cons.2 (symbol_outside t.op).1
  unfold operand?
  rw [t.text_append, dropWhile_append_of_stops (hgap _) hsymbol]
  simp only [dropWhile_append_of_stops (hgap _) (t.rhs.stops_space rest),
    takeWhile_append_of_stops t.rhs.isDigit hrest, dropWhile_append_of_stops t.rhs.isDigit hrest,
    Op.ofSymbol?_eq_some_iff.2 rfl]
  obtain ⟨digits, hne, hdigits⟩ := t.rhs
  cases digits with
  | nil => exact absurd rfl hne
  | cons d digits => rfl

theorem exists_tail_of_operand? {s digits rest : Text} {op : Op}
    (h : operand? s = some (op, digits, rest)) :
    ∃ t : Tail, s = t.text ++ rest ∧ t.op = op ∧ t.rhs.digits = digits ∧
      Stops Char.isDigit rest := by
  obtain ⟨before, s, rfl, hbefore⟩ := exists_gap s
  unfold operand? at h
  rw [dropWhile_append_of_stops (fun _ => eq_space_of_mem_gap) hbefore] at h
  cases s with
  | nil => simp at h
  | cons c s =>
      obtain ⟨after, s, rfl, hafter⟩ := exists_gap s
      obtain ⟨run, s, rfl, hrun, hstop⟩ := exists_run Char.isDigit s
      simp only [dropWhile_append_of_stops (fun _ => eq_space_of_mem_gap) hafter,
        takeWhile_append_of_stops hrun hstop, dropWhile_append_of_stops hrun hstop] at h
      split at h
      · simp at h
      · simp at h
      · rename_i op' d tail hsymbol
        simp only [Option.some.injEq, Prod.mk.injEq] at h
        obtain ⟨rfl, rfl, rfl⟩ := h
        obtain rfl := Op.ofSymbol?_eq_some_iff.1 hsymbol
        refine ⟨⟨before, op', after, ⟨d :: tail, by simp, hrun⟩⟩, ?_, rfl, rfl, hstop⟩
        rw [Tail.text_append]

/-! ## Both readers agree -/

theorem parseFactored_append (n : Numeral) {rest : Text} (hrest : Stops Char.isDigit rest) :
    parseFactored (n.digits ++ rest) = (do
      let lhs ← Literal.denoted n.digits
      match operand? rest with
      | none => return (.number lhs, rest)
      | some (op, digits, rest) => return (.operation lhs op (← Literal.denoted digits), rest)) := by
  unfold parseFactored
  simp only [takeWhile_append_of_stops n.isDigit hrest, dropWhile_append_of_stops n.isDigit hrest,
    if_neg n.ne_nil]

theorem parseFactored_of_reads {s : Text} {outcome : Except Failure (Expr × Text)}
    (h : Reads s outcome) : parseFactored s = outcome := by
  cases h with
  | missing hs =>
      unfold parseFactored
      rw [if_pos (takeWhile_eq_nil_of_stops hs)]
  | overflow hrest hn =>
      rw [parseFactored_append _ hrest, Literal.denoted_of_not_inRange hn]
      rfl
  | @tailOverflow n t rest hrest hn ht =>
      rw [parseFactored_append n (t.stops_isDigit rest), Literal.denoted_of_inRange hn,
        operand?_tail t hrest]
      show (Literal.denoted t.rhs.digits >>= _) = _
      rw [Literal.denoted_of_not_inRange ht]
      rfl
  | @operation n t rest hrest hn ht =>
      rw [parseFactored_append n (t.stops_isDigit rest), Literal.denoted_of_inRange hn,
        operand?_tail t hrest]
      show (Literal.denoted t.rhs.digits >>= _) = _
      rw [Literal.denoted_of_inRange ht]
      rfl
  | @number n rest hrest hn hnone =>
      have hoperand : operand? rest = none := by
        cases hfound : operand? rest with
        | none => rfl
        | some found =>
            obtain ⟨t, ht, -⟩ := exists_tail_of_operand? hfound
            exact absurd ht (hnone t _)
      rw [parseFactored_append n hrest, Literal.denoted_of_inRange hn, hoperand]
      rfl

/-- Both readers come to the same on every text, whether it is read or not. The one that reads ahead
    finds an operand exactly where spaces, an operator, more spaces and a longest run of digits come
    next. The only way in which a text is malformed is that there are no digits at its front, and
    then nothing of it has been read. -/
theorem parse_eq_parseFactored (s : Text) :
    parse s = parseFactored s ∧
    (∀ ahead op digits rest, operand? ahead = some (op, digits, rest) ↔
      ∃ t : Tail, ahead = t.text ++ rest ∧ t.op = op ∧ t.rhs.digits = digits ∧
        Stops Char.isDigit rest) ∧
    ∀ expected remainder, parse s = .error (.malformed expected remainder) →
      expected = "digits".toList ∧ remainder = s := by
  refine ⟨(parseFactored_of_reads (reads_parse s)).symm, ?_, ?_⟩
  · intro ahead op digits rest
    constructor
    · exact exists_tail_of_operand?
    · rintro ⟨t, rfl, rfl, rfl, hrest⟩
      exact operand?_tail t hrest
  · intro expected remainder hmalformed
    cases reads_iff.2 hmalformed with
    | missing hs => exact ⟨rfl, rfl⟩

/-- The operator is given back, and so are the spaces around it. -/
example : parse "12 + x".toList = .ok (.number 12, " + x".toList) := rfl

end Expr

end LetCalc
