import LetCalc.Proofs.ExprReading
import LetCalc.Stmt

set_option autoImplicit false

/-! # How statements are read

What a line is read as depends on how it starts: with a whole header, with the keyword but no whole
header, or without the keyword. `Stmt.Reads` says what comes of a line that was trimmed, and is what
the reader computes (`reads_iff`). A line with the keyword that is no header is `Broken` at the
first place where a header cannot go on. -/

namespace LetCalc.Stmt

open Text Grammar

/-! ## Trimming -/

/-- The characters that do not count at the end of a line. -/
def isBlank (c : Char) : Bool := c = ' ' || c = '\r' || c = '\n'

theorem exists_blanks (line : Text) :
    ∃ blanks, line = trimmed line ++ blanks ∧ ∀ c ∈ blanks, isBlank c = true := by
  refine ⟨(line.reverse.takeWhile isBlank).reverse, ?_, ?_⟩
  · show line = (line.reverse.dropWhile isBlank).reverse ++ _
    rw [← List.reverse_append, List.takeWhile_append_dropWhile, List.reverse_reverse]
  · intro c hc
    exact accept_of_mem_takeWhile (List.mem_reverse.1 hc)

theorem not_isBlank_getLast (line : Text) : ∀ c ∈ (trimmed line).getLast?, isBlank c = false := by
  intro c hc
  have hlast : (trimmed line).getLast? = (line.reverse.dropWhile isBlank).head? := by
    rw [trimmed, trimEnd, List.getLast?_reverse]
    rfl
  rw [hlast] at hc
  exact stops_dropWhile isBlank line.reverse c hc

theorem trimmed_prefix_self (line : Text) : trimmed line <+: line := by
  obtain ⟨blanks, hline, -⟩ := exists_blanks line
  exact ⟨blanks, hline.symm⟩

theorem trimmed_eq_self {line : Text} (h : ∀ c ∈ line.getLast?, isBlank c = false) :
    trimmed line = line := by
  have hstop : Stops isBlank line.reverse := by
    intro c hc
    rw [List.head?_reverse] at hc
    exact h c hc
  show (line.reverse.dropWhile isBlank).reverse = line
  rw [dropWhile_eq_self_of_stops hstop, List.reverse_reverse]

/-- The text ends in a decimal digit. -/
def EndsInDigit (s : Text) : Prop := ∃ c ∈ s.getLast?, c.isDigit = true

theorem EndsInDigit.append {s t : Text} (h : EndsInDigit t) : EndsInDigit (s ++ t) := by
  obtain ⟨c, hc, hdigit⟩ := h
  refine ⟨c, ?_, hdigit⟩
  rw [List.getLast?_append, Option.mem_def.1 hc]
  rfl

theorem endsInDigit_digits (n : Numeral) : EndsInDigit n.digits :=
  ⟨n.digits.getLast n.ne_nil, List.getLast?_eq_some_getLast n.ne_nil,
    n.isDigit _ (List.getLast_mem n.ne_nil)⟩

theorem endsInDigit_phrase (p : Phrase) : EndsInDigit p.text := by
  obtain ⟨n, tail⟩ := p
  cases tail with
  | none => simpa [Phrase.text] using endsInDigit_digits n
  | some t =>
      have h : EndsInDigit (gap t.before ++ ([t.op.symbol] ++ (gap t.after ++ t.rhs.digits))) :=
        (endsInDigit_digits t.rhs).append.append.append
      simpa [Phrase.text, Tail.text] using h.append

theorem EndsInDigit.trimmed_eq {s : Text} (h : EndsInDigit s) : trimmed s = s := by
  obtain ⟨d, hd, hdigit⟩ := h
  apply trimmed_eq_self
  intro c hc
  obtain rfl := Option.some.inj ((Option.mem_def.1 hc).symm.trans hd)
  rw [← Bool.not_eq_true]
  intro hblank
  simp only [isBlank, Bool.or_eq_true, decide_eq_true_eq] at hblank
  rcases hblank with (rfl | rfl) | rfl <;> exact absurd hdigit (by decide)

/-! ## Headers -/

theorem keyword_prefix_header (h : Header) (rest : Text) : keyword <+: h.text ++ rest := by
  rw [h.text_append]
  exact List.prefix_append _ _

theorem parseBinding_header (h : Header) {s : Text} (hs : Stops (· = ' ') s) :
    parseBinding (h.text ++ s) = (Expr.parse >>= fun e => return .binding h.name e) s := by
  have htag : Parser.tag ['='] ('=' :: (gap h.after ++ s)) = .ok ((), gap h.after ++ s) :=
    Parser.tag_append ['='] _
  rw [h.text_append, parseBinding, Parser.bind_of_ok (Parser.tag_append keyword _),
    Parser.bind_of_ok (Parser.spaces1_gap_append (h.isName.stops_space _)),
    Parser.bind_of_ok (Parser.identifier_append h.isName (Header.stops_isAlphanumeric h.before _)),
    Parser.bind_of_ok (Parser.spaces_gap_append (stops_cons.2 (by decide))),
    Parser.bind_of_ok htag, Parser.bind_of_ok (Parser.spaces_gap_append hs)]

/-- `Broken front expected rest`: the text `front ++ rest` starts with the keyword, and `front` is
    the part of it in which a header could still go on, if `expected` followed. -/
inductive Broken : Text → Text → Text → Prop where
  | whitespace {rest : Text} (hrest : Stops (· = ' ') rest) :
      Broken keyword "whitespace".toList rest
  | name {n : Nat} {rest : Text} (hrest : Stops (· = ' ') rest)
      (hletter : Stops Char.isAlpha rest) :
      Broken (keyword ++ gap (n + 1)) "identifier".toList rest
  | equals {n m : Nat} {name rest : Text} (hname : name.IsName) (hrest : Stops (· = ' ') rest)
      (hend : Stops isAlphanumeric (gap m ++ rest)) (hequals : Stops (· = '=') rest) :
      Broken (keyword ++ (gap (n + 1) ++ (name ++ gap m))) ['='] rest

theorem Broken.keyword_prefix_front {front expected rest : Text} (h : Broken front expected rest) :
    keyword <+: front := by
  cases h with
  | whitespace => exact List.prefix_rfl
  | name => exact List.prefix_append _ _
  | equals => exact List.prefix_append _ _

theorem Broken.parseBinding_eq {front expected rest : Text} (h : Broken front expected rest) :
    parseBinding (front ++ rest) = .error (.malformed expected rest) := by
  cases h with
  | whitespace hrest =>
      rw [parseBinding, Parser.bind_of_ok (Parser.tag_append keyword _)]
      exact Parser.bind_of_error (Parser.takeWhile1_of_stops hrest)
  | name hrest hletter =>
      rw [List.append_assoc, parseBinding, Parser.bind_of_ok (Parser.tag_append keyword _),
        Parser.bind_of_ok (Parser.spaces1_gap_append hrest)]
      exact Parser.bind_of_error (Parser.identifier_of_stops hletter)
  | equals hname hrest hend hequals =>
      have htag : ¬ ['='] <+: rest := by
        rintro ⟨tail, rfl⟩
        exact absurd (stops_cons.1 hequals) (by decide)
      simp only [List.append_assoc]
      rw [parseBinding, Parser.bind_of_ok (Parser.tag_append keyword _),
        Parser.bind_of_ok (Parser.spaces1_gap_append (hname.stops_space _)),
        Parser.bind_of_ok (Parser.identifier_append hname hend),
        Parser.bind_of_ok (Parser.spaces_gap_append hrest)]
      exact Parser.bind_of_error (Parser.tag_of_not_prefix htag)

theorem exists_header_or_broken {s : Text} (hkeyword : keyword <+: s) :
    (∃ (h : Header) (rest : Text), s = h.text ++ rest ∧ Stops (· = ' ') rest) ∨
      ∃ front expected rest, s = front ++ rest ∧ Broken front expected rest := by
  obtain ⟨s, rfl⟩ := hkeyword
  -- Follow the header piece by piece, up to the first piece that is not there.
  obtain ⟨n, s, rfl, hs⟩ := exists_gap s
  cases n with
  | zero => exact Or.inr ⟨_, _, _, rfl, .whitespace hs⟩
  | succ n =>
      by_cases hletter : Stops Char.isAlpha s
      · exact Or.inr ⟨_, _, _, (List.append_assoc ..).symm, .name hs hletter⟩
      obtain ⟨name, s, rfl, hname, hend⟩ := exists_name hletter
      obtain ⟨m, s, rfl, hm⟩ := exists_gap s
      by_cases hequals : Stops (· = '=') s
      · exact Or.inr ⟨_, _, _, by simp only [List.append_assoc],
          .equals (n := n) hname hm hend hequals⟩
      obtain ⟨c, s, rfl, hc⟩ := exists_cons_of_not_stops hequals
      obtain rfl := of_decide_eq_true hc
      obtain ⟨k, s, rfl, hk⟩ := exists_gap s
      let header : Header := ⟨n, name, hname, m, k⟩
      exact Or.inl ⟨header, s, (header.text_append s).symm, hk⟩

/-! ## Whole lines -/

/-- Whether `header` is what a reader takes off the front of a line that goes on with `rest`. -/
def Fits : Option Header → Text → Prop
  | none, rest => ¬ keyword <+: rest
  | some _, rest => Stops (· = ' ') rest

/-- What a line without blanks at its end is read as. -/
inductive Reads : Text → Except Failure Stmt → Prop where
  /-- There is the keyword, but no header. -/
  | broken {front expected rest : Text} (h : Broken front expected rest) :
      Reads (front ++ rest) (.error (.malformed expected rest))
  /-- There is no expression where one is due, or it overflows. -/
  | failed {header : Option Header} {s : Text} {failure : Failure} (hfits : Fits header s)
      (h : Expr.Reads s (.error failure)) : Reads (headerText header ++ s) (.error failure)
  /-- There is something behind the expression. -/
  | leftover {header : Option Header} {s rest : Text} {c : Char} {e : Expr}
      (hfits : Fits header s) (h : Expr.Reads s (.ok (e, c :: rest))) :
      Reads (headerText header ++ s) (.error (.malformed "end of input".toList (c :: rest)))
  /-- The line is a statement. -/
  | whole {header : Option Header} {s : Text} {e : Expr} (hfits : Fits header s)
      (h : Expr.Reads s (.ok (e, []))) : Reads (headerText header ++ s) (.ok (headed header e))

theorem exists_outcome (header : Option Header) {s : Text} (hfits : Fits header s) :
    ∃ outcome, Reads (headerText header ++ s) outcome := by
  obtain ⟨outcome, h⟩ := Expr.exists_reads s
  match outcome, h with
  | .error _, h => exact ⟨_, .failed hfits h⟩
  | .ok (_, []), h => exact ⟨_, .whole hfits h⟩
  | .ok (_, _ :: _), h => exact ⟨_, .leftover hfits h⟩

theorem exists_reads (s : Text) : ∃ outcome, Reads s outcome := by
  by_cases hkeyword : keyword <+: s
  · rcases exists_header_or_broken hkeyword with ⟨h, rest, rfl, hrest⟩ | ⟨front, _, rest, rfl, h⟩
    · exact exists_outcome (some h) hrest
    · exact ⟨_, .broken h⟩
  · exact exists_outcome none hkeyword

theorem infer_eq (line : Text) : infer line = if keyword <+: trimmed line
    then complete parseBinding (trimmed line) else complete parseExpression (trimmed line) := by
  unfold infer inferAmong Form.all
  by_cases hkeyword : keyword <+: trimmed line
  · have hclaims : Form.binding.claims (trimmed line) = true :=
      List.isPrefixOf_iff_prefix.2 hkeyword
    rw [if_pos hkeyword]
    simp only [List.find?, hclaims]
    rfl
  · have hclaims : Form.binding.claims (trimmed line) = false := by
      rw [← Bool.not_eq_true]
      exact fun h => hkeyword (List.isPrefixOf_iff_prefix.1 h)
    rw [if_neg hkeyword]
    simp only [List.find?, hclaims]
    rfl

/-- Behind a header that fits, only the expression is left to read. -/
theorem infer_of_fits {line s : Text} {header : Option Header} (hfits : Fits header s)
    (hline : trimmed line = headerText header ++ s) :
    infer line = complete (Expr.parse >>= fun e => return headed header e) s := by
  rw [infer_eq, hline]
  cases header with
  | none => exact if_neg hfits
  | some h =>
      show (if keyword <+: h.text ++ s then complete parseBinding (h.text ++ s) else _) = _
      rw [if_pos (keyword_prefix_header h s), complete, parseBinding_header h hfits]
      rfl

theorem infer_of_broken {line front expected rest : Text} (h : Broken front expected rest)
    (hline : trimmed line = front ++ rest) :
    infer line = .error (.malformed expected rest) := by
  have hkeyword : keyword <+: front ++ rest := h.keyword_prefix_front.trans (List.prefix_append _ _)
  rw [infer_eq, hline, if_pos hkeyword, complete, h.parseBinding_eq]

theorem infer_of_reads {line : Text} {outcome : Except Failure Stmt}
    (h : Reads (trimmed line) outcome) : infer line = outcome := by
  generalize hline : trimmed line = s at h
  cases h with
  | broken h => exact infer_of_broken h hline
  | failed hfits h =>
      rw [infer_of_fits hfits hline, complete, Parser.bind_of_error (Expr.parse_of_reads h)]
  | leftover hfits h =>
      rw [infer_of_fits hfits hline, complete, Parser.bind_of_ok (Expr.parse_of_reads h)]
      rfl
  | whole hfits h =>
      rw [infer_of_fits hfits hline, complete, Parser.bind_of_ok (Expr.parse_of_reads h)]
      rfl

theorem reads_iff {line : Text} {outcome : Except Failure Stmt} :
    Reads (trimmed line) outcome ↔ infer line = outcome := by
  constructor
  · exact infer_of_reads
  · rintro rfl
    obtain ⟨outcome, h⟩ := exists_reads (trimmed line)
    rw [infer_of_reads h]
    exact h

end LetCalc.Stmt
