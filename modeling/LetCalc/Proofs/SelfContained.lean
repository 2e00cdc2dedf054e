import LetCalc.Proofs.StmtReading

set_option autoImplicit false

/-! # What is read stands by itself

Of every parser of the language: what it reads is a part at the front of the input that is read in
the same way if nothing follows, and if anything follows with which it cannot go on
(`Parser.SelfContained`). Looking ahead and going back make no difference to that. A number gives
back the spaces and the operator behind it if there is no second operand, so it is neither made an
operation nor made longer by what is put in their place. Where the input is malformed, what is left
is an end of it; this holds of scanners, and of what is made of them (`Parser.LeavesSuffix`). -/

namespace LetCalc

open Text Grammar

namespace Parser

variable {α β : Type}

/-! ## What is left of the input -/

/-- What an outcome leaves of the input: what comes after the result, or the input from the place
    on where it is malformed. -/
def left? : Except Failure (α × Text) → Option Text
  | .ok (_, rest) => some rest
  | .error (.malformed _ remainder) => some remainder
  | .error _ => none

/-- Whatever the parser leaves of its input is an end of it. -/
def LeavesSuffix (p : Parser α) : Prop := ∀ s, ∀ left ∈ left? (p s), left <:+ s

theorem leavesSuffix_pure (a : α) : LeavesSuffix (pure a : Parser α) := by
  intro s left h
  obtain rfl := Option.some.inj h
  exact List.suffix_rfl

theorem leavesSuffix_expected (what : Text) : LeavesSuffix (expected what : Parser α) := by
  intro s left h
  obtain rfl := Option.some.inj h
  exact List.suffix_rfl

theorem leavesSuffix_takeWhile (accept : Char → Bool) : LeavesSuffix (takeWhile accept) := by
  intro s left h
  obtain rfl := Option.some.inj h
  exact List.dropWhile_suffix accept

theorem leavesSuffix_takeWhile1 (accept : Char → Bool) (what : Text) :
    LeavesSuffix (takeWhile1 accept what) := by
  intro s left h
  unfold takeWhile1 at h
  split at h
  · exact leavesSuffix_expected what s left h
  · exact leavesSuffix_takeWhile accept s left h

theorem leavesSuffix_identifier : LeavesSuffix identifier := by
  intro s left h
  unfold identifier at h
  split at h
  · exact leavesSuffix_takeWhile _ s left h
  · exact leavesSuffix_expected _ s left h

theorem leavesSuffix_tag (t : Text) : LeavesSuffix (tag t) := by
  intro s left h
  unfold tag at h
  split at h
  · obtain rfl := Option.some.inj h
    exact List.drop_suffix _ s
  · exact leavesSuffix_expected t s left h

theorem LeavesSuffix.bind {p : Parser α} {f : α → Parser β} (hp : LeavesSuffix p)
    (hf : ∀ a, LeavesSuffix (f a)) : LeavesSuffix (p >>= f) := by
  intro s left h
  have hfirst := hp s
  rcases hps : p s with failure | ⟨a, middle⟩
  · rw [bind_of_error hps] at h
    rw [hps] at hfirst
    cases failure with
    | malformed => exact hfirst left h
    | overflow | divisionByZero | unboundName => cases h
  · rw [bind_of_ok hps] at h
    rw [hps] at hfirst
    exact (hf a middle left h).trans (hfirst middle rfl)

theorem LeavesSuffix.orElse {p q : Parser α} (hp : LeavesSuffix p) (hq : LeavesSuffix q) :
    LeavesSuffix (p.orElse q) := by
  intro s left h
  unfold Parser.orElse at h
  split at h
  · exact hq s left h
  · exact hp s left h

/-! ## What is read of the input -/

/-- A character with which an expression can go on: a digit, a space or an operator. -/
def continues (c : Char) : Bool := c.isDigit || c = ' ' || (Op.ofSymbol? c).isSome

/-- `front` is read as `a`, and what follows is left, if `front` cannot go on with it. -/
def Takes (p : Parser α) (front : Text) (a : α) : Prop :=
  ∀ rest, Stops continues rest → p (front ++ rest) = .ok (a, rest)

/-- The parser reads parts of its input that stand by themselves. -/
structure SelfContained (p : Parser α) : Prop where
  /-- What is read is not empty, and it is read in the same way without what follows it, and with
      anything else behind it with which it cannot go on. -/
  front : ∀ {s rest : Text} {a : α}, p s = .ok (a, rest) →
    ∃ front, front ≠ [] ∧ s = front ++ rest ∧ p front = .ok (a, []) ∧ p.Takes front a
  /-- Where the input is malformed, an end of it is left. -/
  remainder : ∀ {s expected remainder : Text},
    p s = .error (.malformed expected remainder) → remainder <:+ s

theorem Takes.alone {p : Parser α} {front : Text} {a : α} (h : p.Takes front a) :
    p front = .ok (a, []) := by
  have hnothing := h [] stops_nil
  rwa [List.append_nil] at hnothing

theorem selfContained_of {p : Parser α} (hsuffix : LeavesSuffix p)
    (hfront : ∀ {s rest : Text} {a : α}, p s = .ok (a, rest) →
      ∃ front, front ≠ [] ∧ s = front ++ rest ∧ p.Takes front a) : SelfContained p where
  front := by
    intro s rest a h
    obtain ⟨front, hne, hs, htakes⟩ := hfront h
    exact ⟨front, hne, hs, htakes.alone, htakes⟩
  remainder := by
    intro s expected remainder h
    refine hsuffix s remainder ?_
    rw [h]
    rfl

theorem exists_of_map_ok {p : Parser α} {g : α → β} {s rest : Text} {b : β}
    (h : (p >>= fun a => return g a) s = .ok (b, rest)) : ∃ a, p s = .ok (a, rest) ∧ g a = b := by
  rcases hps : p s with failure | ⟨a, middle⟩
  · rw [bind_of_error hps] at h
    cases h
  · rw [bind_of_ok hps] at h
    obtain ⟨rfl, rfl⟩ := Prod.mk.inj (Except.ok.inj h)
    exact ⟨a, rfl, rfl⟩

theorem SelfContained.leavesSuffix {p : Parser α} (hp : SelfContained p) : LeavesSuffix p := by
  intro s left h
  rcases hps : p s with failure | ⟨a, rest⟩
  · rw [hps] at h
    cases failure with
    | malformed expected remainder =>
        obtain rfl := Option.some.inj h
        exact hp.remainder hps
    | overflow | divisionByZero | unboundName => cases h
  · rw [hps] at h
    obtain rfl := Option.some.inj h
    obtain ⟨front, -, rfl, -⟩ := hp.front hps
    exact List.suffix_append front _

/-- What is made of a result makes no difference. -/
theorem SelfContained.map {p : Parser α} (hp : SelfContained p) (g : α → β) :
    SelfContained (p >>= fun a => return g a) := by
  refine selfContained_of (hp.leavesSuffix.bind fun a => leavesSuffix_pure (g a)) ?_
  intro s rest b h
  obtain ⟨a, ha, rfl⟩ := exists_of_map_ok h
  obtain ⟨front, hne, hs, -, htakes⟩ := hp.front ha
  refine ⟨front, hne, hs, fun other hother => ?_⟩
  rw [bind_of_ok (htakes other hother)]
  rfl

end Parser

open LetCalc.Parser

/-! ## Where an expression cannot go on -/

theorem Text.Stops.isDigit {rest : Text} (h : Stops continues rest) : Stops Char.isDigit rest := by
  intro c hc
  have hcontinues := h c hc
  simp only [continues, Bool.or_eq_false_iff] at hcontinues
  exact hcontinues.1.1

/-- An operand starts with a space or with its operator. -/
theorem Grammar.Tail.ne_of_stops {rest : Text} (h : Stops continues rest) (t : Tail) (rest' : Text) :
    rest ≠ t.text ++ rest' := by
  rintro rfl
  rw [t.text_append] at h
  rcases hbefore : t.before with _ | n
  · rw [hbefore] at h
    have hsymbol := stops_cons.1 h
    simp [continues, Op.ofSymbol?_eq_some_iff.2 rfl] at hsymbol
  · rw [hbefore] at h
    have hspace := stops_cons.1 h
    exact absurd hspace (by decide)

/-! ## Numbers and operators -/

theorem Literal.selfContained : SelfContained Literal.parse where
  front := by
    intro s rest a h
    cases reads_iff.2 h with
    | @number n _ _ hn =>
        have htakes : Literal.parse.Takes n.digits n.value :=
          fun other hother => parse_of_inRange hn hother.isDigit
        exact ⟨n.digits, n.ne_nil, rfl, htakes.alone, htakes⟩
  remainder := by
    intro s expected remainder h
    cases reads_iff.2 h with
    | missing => exact List.suffix_rfl

theorem Op.selfContained : SelfContained Op.parse where
  front := by
    intro s rest op h
    unfold Op.parse at h
    rcases s with _ | ⟨c, tail⟩
    · cases h
    · simp only at h
      split at h
      · rename_i found hfound
        obtain ⟨rfl, rfl⟩ := Prod.mk.inj (Except.ok.inj h)
        have htakes : Op.parse.Takes [c] found := by
          intro other _
          show Op.parse (c :: other) = _
          unfold Op.parse
          simp only [hfound]
        exact ⟨[c], by simp, rfl, htakes.alone, htakes⟩
      · cases h
  remainder := by
    intro s expected remainder h
    unfold Op.parse at h
    rcases s with _ | ⟨c, tail⟩
    · obtain ⟨rfl, rfl⟩ := Failure.malformed.inj (Except.error.inj h)
      exact List.suffix_rfl
    · simp only at h
      split at h
      · cases h
      · obtain ⟨rfl, rfl⟩ := Failure.malformed.inj (Except.error.inj h)
        exact List.suffix_rfl

/-! ## Expressions -/

namespace Expr

/-- What is read as an operation is an operation, and not only a number in front of something. -/
theorem exists_of_parseOperation {s rest : Text} {e : Expr}
    (h : parseOperation s = .ok (e, rest)) : ∃ (n : Numeral) (t : Tail),
      s = n.digits ++ (t.text ++ rest) ∧ n.InRange ∧ t.rhs.InRange ∧
        e = .operation n.value t.op t.rhs.value := by
  have hparse : parse s = .ok (e, rest) := by
    unfold parse Parser.orElse
    rw [h]
  cases reads_iff.2 hparse with
  | @operation n t _ _ hn ht => exact ⟨n, t, rfl, hn, ht, rfl⟩
  | @number n _ hrest hn hnone =>
      obtain ⟨expected, remainder, htail⟩ := parseTail_malformed n.value hnone
      rw [parseOperation_eq, bind_of_ok (Literal.parse_of_inRange hn hrest), htail] at h
      cases h

theorem leavesSuffix_parseOperation : LeavesSuffix parseOperation := by
  unfold parseOperation
  refine Literal.selfContained.leavesSuffix.bind fun _ => ?_
  refine (leavesSuffix_takeWhile _).bind fun _ => ?_
  refine Op.selfContained.leavesSuffix.bind fun _ => ?_
  refine (leavesSuffix_takeWhile _).bind fun _ => ?_
  exact Literal.selfContained.leavesSuffix.bind fun _ => leavesSuffix_pure _

theorem selfContained_parseOperation : SelfContained parseOperation := by
  refine selfContained_of leavesSuffix_parseOperation ?_
  intro s rest e h
  obtain ⟨n, t, rfl, hn, ht, rfl⟩ := exists_of_parseOperation h
  refine ⟨n.digits ++ t.text, by simp [n.ne_nil], by simp, fun other hother => ?_⟩
  rw [List.append_assoc]
  exact parseOperation_of_inRange hn ht hother.isDigit

theorem selfContained_parseNumber : SelfContained parseNumber := Literal.selfContained.map Expr.number

theorem selfContained_parse : SelfContained parse := by
  refine selfContained_of
    (leavesSuffix_parseOperation.orElse selfContained_parseNumber.leavesSuffix) ?_
  intro s rest e h
  obtain ⟨p, rfl, hrange, rfl, -⟩ := (reads_iff.2 h).exists_phrase
  refine ⟨p.text, p.text_ne_nil, rfl, fun other hother => ?_⟩
  exact parse_of_reads (reads_phrase_append hrange hother.isDigit fun _ => Tail.ne_of_stops hother)

end Expr

/-! ## Statements -/

namespace Stmt

theorem selfContained_parseExpression : SelfContained parseExpression :=
  Expr.selfContained_parse.map Stmt.expression

theorem leavesSuffix_parseBinding : LeavesSuffix parseBinding := by
  unfold parseBinding
  refine (leavesSuffix_tag _).bind fun _ => ?_
  refine (leavesSuffix_takeWhile1 _ _).bind fun _ => ?_
  refine leavesSuffix_identifier.bind fun _ => ?_
  refine (leavesSuffix_takeWhile _).bind fun _ => ?_
  refine (leavesSuffix_tag _).bind fun _ => ?_
  refine (leavesSuffix_takeWhile _).bind fun _ => ?_
  exact Expr.selfContained_parse.leavesSuffix.bind fun _ => leavesSuffix_pure _

theorem exists_of_parseBinding {s rest : Text} {stmt : Stmt}
    (h : parseBinding s = .ok (stmt, rest)) : ∃ (header : Header) (s' : Text),
      s = header.text ++ s' ∧ Stops (· = ' ') s' ∧
        (Expr.parse >>= fun e => return .binding header.name e) s' = .ok (stmt, rest) := by
  by_cases hkeyword : keyword <+: s
  · rcases exists_header_or_broken hkeyword with ⟨header, s', rfl, hs'⟩ | ⟨front, _, _, rfl, hbroken⟩
    · rw [parseBinding_header header hs'] at h
      exact ⟨header, s', rfl, hs', h⟩
    · rw [hbroken.parseBinding_eq] at h
      cases h
  · have htag := tag_of_not_prefix hkeyword
    rw [parseBinding, bind_of_error htag] at h
    cases h

theorem selfContained_parseBinding : SelfContained parseBinding := by
  refine selfContained_of leavesSuffix_parseBinding ?_
  intro s rest stmt h
  obtain ⟨header, s', rfl, hs', hvalue⟩ := exists_of_parseBinding h
  obtain ⟨front, hne, rfl, -, htakes⟩ :=
    (Expr.selfContained_parse.map (Stmt.binding header.name)).front hvalue
  refine ⟨header.text ++ front, by simp [hne], by simp, fun other hother => ?_⟩
  -- What follows the header is not empty, so the spaces before it end where they ended.
  have hspace : Stops (· = ' ') (front ++ other) :=
    (stops_append_iff hne).2 ((stops_append_iff hne).1 hs')
  rw [List.append_assoc, parseBinding_header header hspace]
  exact htakes other hother

end Stmt

/-- Whatever is read, by whichever parser: the input splits into a part that was read, which is not
    empty and is read in the same way by itself and in front of anything with which it cannot go on,
    and the rest. Where the input is malformed, an end of it is left. -/
theorem parsers_selfContained :
    SelfContained Literal.parse ∧ SelfContained Op.parse ∧ SelfContained Expr.parseOperation ∧
      SelfContained Expr.parseNumber ∧ SelfContained Expr.parse ∧
      SelfContained Stmt.parseBinding ∧ SelfContained Stmt.parseExpression :=
  ⟨Literal.selfContained, Op.selfContained, Expr.selfContained_parseOperation,
    Expr.selfContained_parseNumber, Expr.selfContained_parse, Stmt.selfContained_parseBinding,
    Stmt.selfContained_parseExpression⟩

end LetCalc
