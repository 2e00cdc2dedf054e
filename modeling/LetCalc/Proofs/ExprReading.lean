import LetCalc.Proofs.Grammar

set_option autoImplicit false

/-! # How expressions are read

The reader tries an operation and falls back to a number from the same place. `Expr.Reads` says what
comes of that from left to right, without going back: the numeral at the front, and behind it a tail
that makes the numeral an operation, if there is one. The two agree on every text, failures
included (`reads_iff`): every text has an outcome by the rules (`exists_reads`), and the outcome by
the rules is the one that the reader computes (`parse_of_reads`). -/

namespace LetCalc

open Text Grammar

/-! ## Numerals -/

theorem Literal.digits_numeral (n : Numeral) {rest : Text} (hrest : Stops Char.isDigit rest) :
    Parser.digits (n.digits ++ rest) = .ok (n.digits, rest) :=
  Parser.takeWhile1_append n.ne_nil n.isDigit hrest

theorem Literal.denoted_of_inRange {n : Numeral} (hn : n.InRange) :
    Literal.denoted n.digits = .ok n.value := if_pos hn

theorem Literal.denoted_of_not_inRange {n : Numeral} (hn : ¬ n.InRange) :
    Literal.denoted n.digits = .error (.overflow (Literal.overflowText n.digits)) := if_neg hn

theorem Literal.parse_of_inRange {n : Numeral} (hn : n.InRange) {rest : Text}
    (hrest : Stops Char.isDigit rest) : Literal.parse (n.digits ++ rest) = .ok (n.value, rest) := by
  have hvalue := (Literal.ofDigits_eq n.isDigit).trans (Literal.denoted_of_inRange hn)
  rw [Literal.parse_eq_bind, Parser.bind_of_ok (Literal.digits_numeral n hrest), hvalue]
  rfl

theorem Literal.parse_of_not_inRange {n : Numeral} (hn : ¬ n.InRange) {rest : Text}
    (hrest : Stops Char.isDigit rest) : Literal.parse (n.digits ++ rest)
      = .error (.overflow (Literal.overflowText n.digits)) := by
  have hvalue := (Literal.ofDigits_eq n.isDigit).trans (Literal.denoted_of_not_inRange hn)
  rw [Literal.parse_eq_bind, Parser.bind_of_ok (Literal.digits_numeral n hrest), hvalue]
  rfl

theorem Literal.parse_of_stops {s : Text} (h : Stops Char.isDigit s) :
    Literal.parse s = .error (.malformed "digits".toList s) := by
  rw [Literal.parse_eq_bind]
  exact Parser.bind_of_error (Parser.takeWhile1_of_stops h)

/-- What is read as a literal at the front of a text. -/
inductive Literal.Reads : Text → Except Failure (Int × Text) → Prop where
  /-- There is no numeral. -/
  | missing {s : Text} (hs : Stops Char.isDigit s) :
      Reads s (.error (.malformed "digits".toList s))
  /-- The numeral is too large. -/
  | overflow {n : Numeral} {rest : Text} (hrest : Stops Char.isDigit rest) (hn : ¬ n.InRange) :
      Reads (n.digits ++ rest) (.error (.overflow (overflowText n.digits)))
  | number {n : Numeral} {rest : Text} (hrest : Stops Char.isDigit rest) (hn : n.InRange) :
      Reads (n.digits ++ rest) (.ok (n.value, rest))

theorem Literal.parse_of_reads {s : Text} {outcome : Except Failure (Int × Text)}
    (h : Reads s outcome) : parse s = outcome := by
  cases h with
  | missing hs => exact parse_of_stops hs
  | overflow hrest hn => exact parse_of_not_inRange hn hrest
  | number hrest hn => exact parse_of_inRange hn hrest

theorem Literal.exists_reads (s : Text) : ∃ outcome, Reads s outcome := by
  by_cases hs : Stops Char.isDigit s
  · exact ⟨_, .missing hs⟩
  · obtain ⟨n, rest, rfl, hrest⟩ := Numeral.exists_of_not_stops hs
    by_cases hn : n.InRange
    · exact ⟨_, .number hrest hn⟩
    · exact ⟨_, .overflow hrest hn⟩

theorem Literal.reads_iff {s : Text} {outcome : Except Failure (Int × Text)} :
    Reads s outcome ↔ parse s = outcome := by
  constructor
  · exact parse_of_reads
  · rintro rfl
    obtain ⟨outcome, h⟩ := exists_reads s
    rw [parse_of_reads h]
    exact h

/-! ## What follows the first operand -/

namespace Expr

/-- Reads an operator with its second operand. -/
def parseTail (lhs : Int) : Parser Expr := do
  let _ ← Parser.spaces
  let op ← Op.parse
  let _ ← Parser.spaces
  let rhs ← Literal.parse
  return .operation lhs op rhs

theorem parseOperation_eq : parseOperation = Literal.parse >>= parseTail := rfl

theorem parseTail_tail (lhs : Int) (t : Tail) (rest : Text) : parseTail lhs (t.text ++ rest)
    = (Literal.parse >>= fun rhs => return .operation lhs t.op rhs) (t.rhs.digits ++ rest) := by
  have hop : Op.parse (t.op.symbol :: (gap t.after ++ (t.rhs.digits ++ rest)))
      = .ok (t.op, gap t.after ++ (t.rhs.digits ++ rest)) := by
    unfold Op.parse
    simp only [Op.ofSymbol?_eq_some_iff.2 rfl]
  rw [t.text_append, parseTail,
    Parser.bind_of_ok (Parser.spaces_gap_append (stops_cons.2 (symbol_outside t.op).1)),
    Parser.bind_of_ok hop, Parser.bind_of_ok (Parser.spaces_gap_append (t.rhs.stops_space rest))]

theorem parseTail_of_inRange (lhs : Int) {t : Tail} (ht : t.rhs.InRange) {rest : Text}
    (hrest : Stops Char.isDigit rest) :
    parseTail lhs (t.text ++ rest) = .ok (.operation lhs t.op t.rhs.value, rest) := by
  rw [parseTail_tail, Parser.bind_of_ok (Literal.parse_of_inRange ht hrest)]
  rfl

theorem parseTail_of_not_inRange (lhs : Int) {t : Tail} (ht : ¬ t.rhs.InRange) {rest : Text}
    (hrest : Stops Char.isDigit rest) : parseTail lhs (t.text ++ rest)
      = .error (.overflow (Literal.overflowText t.rhs.digits)) := by
  rw [parseTail_tail, Parser.bind_of_error (Literal.parse_of_not_inRange ht hrest)]

theorem parseOperation_of_inRange {n : Numeral} {t : Tail} (hn : n.InRange) (ht : t.rhs.InRange)
    {rest : Text} (hrest : Stops Char.isDigit rest) :
    parseOperation (n.digits ++ (t.text ++ rest))
      = .ok (.operation n.value t.op t.rhs.value, rest) := by
  rw [parseOperation_eq, Parser.bind_of_ok (Literal.parse_of_inRange hn (t.stops_isDigit rest)),
    parseTail_of_inRange n.value ht hrest]

/-- Without a tail at the front, there is something wrong before any number can overflow. -/
theorem parseTail_malformed (lhs : Int) {s : Text} (hnone : ∀ (t : Tail) rest, s ≠ t.text ++ rest) :
    ∃ expected remainder, parseTail lhs s = .error (.malformed expected remainder) := by
  obtain ⟨before, s, rfl, hbefore⟩ := exists_gap s
  rw [parseTail, Parser.bind_of_ok (Parser.spaces_gap_append hbefore)]
  cases s with
  | nil => exact ⟨_, _, Parser.bind_of_error rfl⟩
  | cons c s =>
      cases hc : Op.ofSymbol? c with
      | none =>
          have hop : Op.parse (c :: s) = .error (.malformed "operator".toList (c :: s)) := by
            unfold Op.parse
            simp only [hc]
            rfl
          exact ⟨_, _, Parser.bind_of_error hop⟩
      | some op =>
          obtain rfl := Op.ofSymbol?_eq_some_iff.1 hc
          obtain ⟨after, s, rfl, hafter⟩ := exists_gap s
          have hop : Op.parse (op.symbol :: (gap after ++ s)) = .ok (op, gap after ++ s) := by
            unfold Op.parse
            simp only [hc]
          rw [Parser.bind_of_ok hop, Parser.bind_of_ok (Parser.spaces_gap_append hafter)]
          by_cases hdigit : Stops Char.isDigit s
          · exact ⟨_, _, Parser.bind_of_error (Literal.parse_of_stops hdigit)⟩
          · obtain ⟨n, rest, rfl, -⟩ := Numeral.exists_of_not_stops hdigit
            exact absurd (Tail.text_append ⟨before, op, after, n⟩ rest).symm (hnone _ _)

/-! ## Expressions -/

/-- What is read at the front of a text, from left to right. -/
inductive Reads : Text → Except Failure (Expr × Text) → Prop where
  /-- There is no numeral. -/
  | missing {s : Text} (hs : Stops Char.isDigit s) :
      Reads s (.error (.malformed "digits".toList s))
  /-- The numeral is too large, whatever follows it. -/
  | overflow {n : Numeral} {rest : Text} (hrest : Stops Char.isDigit rest) (hn : ¬ n.InRange) :
      Reads (n.digits ++ rest) (.error (.overflow (Literal.overflowText n.digits)))
  /-- A tail follows, but its operand is too large. -/
  | tailOverflow {n : Numeral} {t : Tail} {rest : Text} (hrest : Stops Char.isDigit rest)
      (hn : n.InRange) (ht : ¬ t.rhs.InRange) :
      Reads (n.digits ++ (t.text ++ rest)) (.error (.overflow (Literal.overflowText t.rhs.digits)))
  /-- A tail follows. -/
  | operation {n : Numeral} {t : Tail} {rest : Text} (hrest : Stops Char.isDigit rest)
      (hn : n.InRange) (ht : t.rhs.InRange) :
      Reads (n.digits ++ (t.text ++ rest)) (.ok (.operation n.value t.op t.rhs.value, rest))
  /-- No tail follows, and everything after the numeral is left over. -/
  | number {n : Numeral} {rest : Text} (hrest : Stops Char.isDigit rest) (hn : n.InRange)
      (hnone : ∀ (t : Tail) rest', rest ≠ t.text ++ rest') :
      Reads (n.digits ++ rest) (.ok (.number n.value, rest))

theorem exists_reads (s : Text) : ∃ outcome, Reads s outcome := by
  by_cases hs : Stops Char.isDigit s
  · exact ⟨_, .missing hs⟩
  obtain ⟨n, s, rfl, hrest⟩ := Numeral.exists_of_not_stops hs
  by_cases hn : n.InRange
  · by_cases htail : ∃ (t : Tail) (rest : Text), s = t.text ++ rest
    · obtain ⟨t, rest, rfl⟩ := htail
      -- The operand of this tail may end too early: take all the digits there are.
      obtain ⟨run, rest, rfl, hrun, hstop⟩ := exists_run Char.isDigit rest
      let whole : Numeral := ⟨t.rhs.digits ++ run, by simp [t.rhs.ne_nil], fun c hc =>
        (List.mem_append.1 hc).elim (t.rhs.isDigit c) (hrun c)⟩
      have heq : t.text ++ (run ++ rest) = Tail.text { t with rhs := whole } ++ rest := by
        simp only [Tail.text_append, whole, List.append_assoc]
      rw [heq]
      by_cases ht : whole.InRange
      · exact ⟨_, .operation (t := { t with rhs := whole }) hstop hn ht⟩
      · exact ⟨_, .tailOverflow (t := { t with rhs := whole }) hstop hn ht⟩
    · exact ⟨_, .number hrest hn fun t rest h => htail ⟨t, rest, h⟩⟩
  · exact ⟨_, .overflow hrest hn⟩

theorem orElse_of_malformed {p q : Parser Expr} {s expected remainder : Text}
    (h : p s = .error (.malformed expected remainder)) : (p.orElse q) s = q s := by
  unfold Parser.orElse
  rw [h]

theorem parse_of_reads {s : Text} {outcome : Except Failure (Expr × Text)}
    (h : Reads s outcome) : parse s = outcome := by
  -- Both readers start at the same place: the second one is asked only if the first is malformed.
  cases h with
  | missing hs =>
      have hoperation : parseOperation s = .error (.malformed "digits".toList s) :=
        Parser.bind_of_error (Literal.parse_of_stops hs)
      rw [parse, orElse_of_malformed hoperation]
      exact Parser.bind_of_error (Literal.parse_of_stops hs)
  | overflow hrest hn =>
      unfold parse Parser.orElse
      rw [parseOperation_eq, Parser.bind_of_error (Literal.parse_of_not_inRange hn hrest)]
  | @tailOverflow n t rest hrest hn ht =>
      unfold parse Parser.orElse
      rw [parseOperation_eq,
        Parser.bind_of_ok (Literal.parse_of_inRange hn (t.stops_isDigit rest)),
        parseTail_of_not_inRange n.value ht hrest]
  | operation hrest hn ht =>
      unfold parse Parser.orElse
      rw [parseOperation_of_inRange hn ht hrest]
  | @number n rest hrest hn hnone =>
      have hlhs := Literal.parse_of_inRange hn hrest
      obtain ⟨expected, remainder, htail⟩ := parseTail_malformed n.value hnone
      have hoperation : parseOperation (n.digits ++ rest)
          = .error (.malformed expected remainder) := by
        rw [parseOperation_eq, Parser.bind_of_ok hlhs, htail]
      rw [parse, orElse_of_malformed hoperation, parseNumber, Parser.bind_of_ok hlhs]
      rfl

theorem reads_iff {s : Text} {outcome : Except Failure (Expr × Text)} :
    Reads s outcome ↔ parse s = outcome := by
  constructor
  · exact parse_of_reads
  · rintro rfl
    obtain ⟨outcome, h⟩ := exists_reads s
    rw [parse_of_reads h]
    exact h

theorem reads_parse (s : Text) : Reads s (parse s) := reads_iff.2 rfl

/-! ## Phrases -/

/-- Reading from left to right yields a derivation of what was read, as long as it can be. -/
theorem Reads.exists_phrase {s rest : Text} {e : Expr} (h : Reads s (.ok (e, rest))) :
    ∃ p : Phrase, s = p.text ++ rest ∧ p.InRange ∧ p.expr = e ∧ Stops Char.isDigit rest ∧
      (p.tail = none → ∀ (t : Tail) rest', rest ≠ t.text ++ rest') := by
  cases h with
  | @operation n t _ hrest hn ht =>
      refine ⟨⟨n, some t⟩, ?_, ⟨hn, ?_⟩, rfl, hrest, by simp⟩
      · simp [Phrase.text]
      · intro u hu
        obtain rfl := Option.some.inj hu
        exact ht
  | @number n _ hrest hn hnone =>
      exact ⟨⟨n, none⟩, by simp [Phrase.text], ⟨hn, by simp⟩, rfl, hrest, fun _ => hnone⟩

/-- A phrase is read as what it denotes in front of anything with which it cannot go on. -/
theorem reads_phrase_append {p : Phrase} (hp : p.InRange) {rest : Text}
    (hrest : Stops Char.isDigit rest)
    (hnone : p.tail = none → ∀ (t : Tail) rest', rest ≠ t.text ++ rest') :
    Reads (p.text ++ rest) (.ok (p.expr, rest)) := by
  obtain ⟨n, tail⟩ := p
  rcases tail with _ | t
  · have hread : Reads (n.digits ++ rest) _ := .number hrest hp.1 (hnone rfl)
    simpa [Phrase.text, Phrase.expr] using hread
  · have hread : Reads (n.digits ++ (t.text ++ rest)) _ := .operation hrest hp.1 (hp.2 t rfl)
    simpa [Phrase.text, Phrase.expr] using hread

theorem reads_phrase {p : Phrase} (hp : p.InRange) : Reads p.text (.ok (p.expr, [])) := by
  have hread := reads_phrase_append hp stops_nil fun _ t rest' h => by simp [t.text_append] at h
  rwa [List.append_nil] at hread

end Expr

end LetCalc
