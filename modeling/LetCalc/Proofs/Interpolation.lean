import LetCalc.Diagnostic
import LetCalc.Proofs.Pieces
import LetCalc.Proofs.Unstyled

set_option autoImplicit false

/-! # The two messages of a notice

A notice is formatted twice, once with its texts as they are and once with its texts in bold. The two
passes cannot come apart: whether formatting fails, and how, is settled by the template and the number
of texts (`Notice.diagnostic_eq_error_iff`). For a template that is written in pieces, both messages
are known in full, and the styled one is the plain one with bold switched on in front of each text and
off behind it (`Notice.messages_interpolate`). -/

namespace LetCalc

namespace Template

/-- Deleting the codes takes the bold style off the arguments. -/
theorem without_message {pieces : List Piece} {args : List Text} {next : Nat}
    (hpieces : Style.Bare (written pieces)) (hargs : ∀ t ∈ args, Style.Bare t) :
    Style.without Style.boldCodes (message (args.map Style.bold) next pieces)
      = message args next pieces := by
  have hslot (number : Nat) (rest : Text) :
      Style.without Style.boldCodes ((args.map Style.bold).getD number [] ++ rest)
        = args.getD number [] ++ Style.without Style.boldCodes rest := by
    rw [List.getD_eq_getElem?_getD, List.getD_eq_getElem?_getD, List.getElem?_map]
    cases hget : args[number]? with
    | none => rfl
    | some t => exact Style.without_bold (hargs t (List.mem_of_getElem? hget)) rest
  induction pieces generalizing next with
  | nil => rfl
  | cons piece rest ih =>
      rw [written, List.flatMap_cons] at hpieces
      have hrest (next : Nat) := @ih next fun c hc => hpieces c (List.mem_append_right _ hc)
      cases piece with
      | char c =>
          have hc : Style.Bare [c] := by
            refine List.forall_mem_singleton.2 (hpieces c (List.mem_append_left _ ?_))
            show c ∈ if c = openingBrace ∨ c = closingBrace then [c, c] else [c]
            split <;> exact List.mem_cons_self
          have hcopied := Style.without_append Style.head?_boldCodes hc
            (message (args.map Style.bold) next rest)
          rw [hrest next] at hcopied
          exact hcopied
      | field =>
          rw [message, hslot, hrest]
          rfl
      | numbered number =>
          rw [message, hslot, hrest]
          rfl

end Template

namespace Notice

open Template (format written message arguments WellMade)

/-! ## Formatting twice -/

/-- The diagnostic of a notice whose message is formatted in two passes, before its subject is looked
    up. -/
def formatted (notice : Notice) : Except Fault Diagnostic := do
  let plain ← (format notice.expressions notice.template).mapError .template
  let styled ← (format (notice.expressions.map Style.bold) notice.template).mapError .template
  match notice.expressions with
  | [] => .error .noSubject
  | subject :: _ =>
      .ok
        { message := plain
          styled := styled
          subject := subject
          start := notice.start
          stop := if notice.stop = -1 then (subject.length : Int) else notice.stop
          excerpt := notice.excerpt
          internal := notice.internal }

theorem diagnostic_eq_formatted (notice : Notice) : notice.diagnostic = notice.formatted := by
  obtain ⟨s, expressions, start, stop, excerpt, internal⟩ := notice
  unfold formatted diagnostic
  rw [Template.format_eq, Template.format_map]
  cases Template.read expressions.length s with
  | error fault => rfl
  | ok template => cases expressions <;> rfl

/-- What is wrong with a notice that has this template and `count` texts. -/
def faultOf (count : Nat) (template : Text) : Option Fault :=
  match Template.read count template with
  | .error fault => some (.template fault)
  | .ok _ => if count = 0 then some .noSubject else none

theorem diagnostic_eq_error_iff {notice : Notice} {fault : Fault} :
    notice.diagnostic = .error fault ↔
      faultOf notice.expressions.length notice.template = some fault := by
  obtain ⟨s, expressions, start, stop, excerpt, internal⟩ := notice
  unfold diagnostic faultOf
  cases Template.read expressions.length s with
  | error fault => simp
  | ok template => cases expressions <;> simp

/-- Formatting fails or not whatever style the texts are in. -/
theorem format_bold_succeeds_iff {args : List Text} {s : Text} :
    (∃ styled, format (args.map Style.bold) s = .ok styled) ↔ ∃ plain, format args s = .ok plain := by
  rw [Template.format_map, Template.format_eq]
  cases Template.read args.length s <;> simp [Except.map]

/-- There is a diagnostic if both passes succeed and there is a subject. -/
theorem exists_diagnostic_iff {notice : Notice} {plain styled : Text} :
    (∃ d, notice.diagnostic = .ok d ∧ d.message = plain ∧ d.styled = styled) ↔
      format notice.expressions notice.template = .ok plain ∧
      format (notice.expressions.map Style.bold) notice.template = .ok styled ∧
      notice.expressions ≠ [] := by
  obtain ⟨s, expressions, start, stop, excerpt, internal⟩ := notice
  unfold diagnostic
  rw [Template.format_map, Template.format_eq]
  cases Template.read expressions.length s with
  | error fault => simp [Except.map]
  | ok template => cases expressions <;> simp [Except.map, Diagnostic.compose]

theorem diagnostic_eq_template_error_iff {notice : Notice} {fault : Template.Fault} :
    notice.diagnostic = .error (.template fault) ↔
      format notice.expressions notice.template = .error fault := by
  obtain ⟨s, expressions, start, stop, excerpt, internal⟩ := notice
  unfold diagnostic
  rw [Template.format_eq]
  cases Template.read expressions.length s with
  | error fault => simp [Except.map]
  | ok template => cases expressions <;> simp [Except.map]

/-! ## Templates in pieces -/

/-- Texts that the template does not refer to make no difference, in bold neither. -/
theorem format_bold_congr {pieces : List Template.Piece} {args other : List Text}
    (h : ∀ i ∈ arguments 0 pieces, other[i]? = args[i]?) :
    format (other.map Style.bold) (written pieces) = format (args.map Style.bold) (written pieces) := by
  refine Template.format_written_congr fun i hi => ?_
  rw [List.getElem?_map, List.getElem?_map, h i hi]

/-- What a notice comes to whose template is written in pieces. -/
structure Interpolated (notice : Notice) (pieces : List Template.Piece) : Prop where
  /-- It is well made exactly if its template is, for that many texts, and it has a subject. -/
  made : (∃ d, notice.diagnostic = .ok d) ↔
    WellMade notice.expressions.length .undecided pieces ∧ notice.expressions ≠ []
  /-- In the message each field has been replaced by its text, braces and all. -/
  plain : ∀ d, notice.diagnostic = .ok d → d.message = message notice.expressions 0 pieces
  /-- In the styled message it has been replaced by its text in bold. -/
  styled : ∀ d, notice.diagnostic = .ok d → d.styled
    = message (notice.expressions.map fun t => "\x1b[1m".toList ++ t ++ "\x1b[0m".toList) 0 pieces
  /-- Without the codes for bold the styled message is the message. -/
  unstyled : Style.Bare notice.template → (∀ t ∈ notice.expressions, Style.Bare t) →
    ∀ d, notice.diagnostic = .ok d → Style.without Style.boldCodes d.styled = d.message
  /-- Texts that no field refers to have no influence on the messages, nor on what is wrong with the
      template. -/
  unmentioned : ∀ other : Notice, other.template = notice.template →
    (∀ i ∈ arguments 0 pieces, other.expressions[i]? = notice.expressions[i]?) →
      (∀ d, notice.diagnostic = .ok d → other.expressions ≠ [] → ∃ d', other.diagnostic = .ok d' ∧
        d'.message = d.message ∧ d'.styled = d.styled) ∧
      ∀ fault, notice.diagnostic = .error (.template fault) →
        other.diagnostic = .error (.template fault)

theorem interpolated {notice : Notice} {pieces : List Template.Piece}
    (h : notice.template = written pieces) : Interpolated notice pieces := by
  have hformat (d : Diagnostic) (hd : notice.diagnostic = .ok d) :=
    exists_diagnostic_iff.1 ⟨d, hd, rfl, rfl⟩
  have hplain (d : Diagnostic) (hd : notice.diagnostic = .ok d) :=
    Template.format_written_eq_ok_iff.1 (h ▸ (hformat d hd).1)
  have hstyled (d : Diagnostic) (hd : notice.diagnostic = .ok d) :=
    (Template.format_written_eq_ok_iff.1 (h ▸ (hformat d hd).2.1)).2
  constructor
  case made =>
    constructor
    · rintro ⟨d, hd⟩
      exact ⟨(hplain d hd).1, (hformat d hd).2.2⟩
    · rintro ⟨hmade, hsubject⟩
      have hmessage := Template.format_written_eq_ok_iff.2 ⟨hmade, rfl⟩
      rw [← h] at hmessage
      obtain ⟨styled, hbold⟩ := format_bold_succeeds_iff.2 ⟨_, hmessage⟩
      obtain ⟨d, hd, -⟩ := exists_diagnostic_iff.2 ⟨hmessage, hbold, hsubject⟩
      exact ⟨d, hd⟩
  case plain => exact fun d hd => (hplain d hd).2
  case styled => exact hstyled
  case unstyled =>
    intro htemplate hexpressions d hd
    rw [hstyled d hd, (hplain d hd).2]
    exact Template.without_message (h ▸ htemplate) hexpressions
  case unmentioned =>
    intro other htemplate hagree
    have hmessage := Template.format_written_congr hagree
    have hbold := format_bold_congr hagree
    rw [← h] at hmessage hbold
    constructor
    · intro d hd hsubject
      obtain ⟨hmade, hmadeBold, -⟩ := hformat d hd
      refine exists_diagnostic_iff.2 ⟨?_, ?_, hsubject⟩
      · rw [htemplate, hmessage, hmade]
      · rw [htemplate, hbold, hmadeBold]
    · intro fault hfault
      rw [diagnostic_eq_template_error_iff] at hfault ⊢
      rw [htemplate, hmessage, hfault]

/-- A notice is formatted twice, and its template and the number of its texts settle whether and how
    that fails. If the template is written in pieces, a notice that is well made has the texts in its
    message as they are, and has the same message, with the texts in bold, as its styled one. -/
theorem messages_interpolate (notice : Notice) :
    notice.diagnostic = notice.formatted ∧
    (∀ other : Notice, other.template = notice.template →
      other.expressions.length = notice.expressions.length →
      ∀ fault, other.diagnostic = .error fault ↔ notice.diagnostic = .error fault) ∧
    ((∃ styled, format (notice.expressions.map Style.bold) notice.template = .ok styled) ↔
      ∃ plain, format notice.expressions notice.template = .ok plain) ∧
    ∀ pieces, notice.template = written pieces → Interpolated notice pieces := by
  refine ⟨diagnostic_eq_formatted notice, ?_, format_bold_succeeds_iff, fun _ => interpolated⟩
  intro other htemplate hlength fault
  rw [diagnostic_eq_error_iff, diagnostic_eq_error_iff, htemplate, hlength]

/-- Braces in the texts are copied: nothing in them is read as a field, and no brace is dropped. -/
theorem messages_interpolate_braces :
    let notice : Notice := ⟨"\x7b1\x7d \x7b\x7b\x7b0\x7d".toList,
      ["\x7b0\x7d".toList, "\x7d\x7d".toList], 0, -1, true, false⟩
    ∃ d, notice.diagnostic = .ok d ∧ d.message = "\x7d\x7d \x7b\x7b0\x7d".toList ∧
      Style.without Style.boldCodes d.styled = d.message := by
  intro notice
  let pieces : List Template.Piece :=
    [.numbered (.ofNat 1), .char ' ', .char Template.openingBrace, .numbered (.ofNat 0)]
  have hwritten : notice.template = written pieces := by decide
  have hinterpolated := (messages_interpolate notice).2.2.2 pieces hwritten
  have hmade : WellMade notice.expressions.length .undecided pieces := by
    refine ⟨Or.inl (by simp [pieces]), by decide, ?_⟩
    simp [pieces, Template.Piece.number?, Template.FieldNumber.value_ofNat]
  obtain ⟨d, hd⟩ := hinterpolated.made.2 ⟨hmade, by decide⟩
  refine ⟨d, hd, ?_, hinterpolated.unstyled (by decide) (by decide) d hd⟩
  rw [hinterpolated.plain d hd]
  decide

end Notice

end LetCalc
