import LetCalc.Proofs.Containment
import LetCalc.Proofs.Unstyled

set_option autoImplicit false

/-! # What an excerpt marks

An excerpt reprints its subject in three parts, of which the middle one is painted, and puts a marker
under the first painted character. For every span that does not start in front of the subject these
parts make up the subject, however far the span reaches (`Diagnostic.laidOut`). The errors that a
session shows with an excerpt are of two kinds: a malformed line, in which the first character that
was not read is marked, and a division by zero, of which the whole expression is. In both cases the
marker is as wide as what it marks (`Session.excerpts_fit`); only where a line breaks off too early
there is no character to mark, and a caret stands behind its end. -/

namespace LetCalc

open Text (gap)

namespace Diagnostic

/-! ## The layout -/

/-- The two lines of an excerpt of `subject` with the span from `start` on and before `stop`, where
    `mark` makes the marks. -/
def layout (mark : Text → Text) (subject : Text) (start stop : Nat) : Text :=
  gap 2 ++ subject.take start ++ mark ((subject.take stop).drop start) ++ subject.drop stop
    ++ ['\n'] ++ gap (2 + start) ++ mark ('^' :: List.replicate (stop - start - 1) '~')

variable {subject : Text} {start stop : Nat}

theorem take_append_span_append_drop (h : start ≤ stop) (subject : Text) :
    subject.take start ++ ((subject.take stop).drop start ++ subject.drop stop) = subject := by
  have htake : subject.take start = (subject.take stop).take start := by
    rw [List.take_take, Nat.min_eq_left h]
  rw [htake, ← List.append_assoc, List.take_append_drop, List.take_append_drop]

/-- Without marks the first line is the subject. -/
theorem layout_id (h : start ≤ stop) (subject : Text) : layout id subject start stop
    = gap 2 ++ subject ++ ['\n']
        ++ (gap (2 + start) ++ '^' :: List.replicate (stop - start - 1) '~') := by
  have hsubject := take_append_span_append_drop h subject
  calc layout id subject start stop
      = gap 2 ++ (subject.take start ++ ((subject.take stop).drop start ++ subject.drop stop))
          ++ ['\n'] ++ (gap (2 + start) ++ '^' :: List.replicate (stop - start - 1) '~') := by
        simp only [layout, id, List.append_assoc]
    _ = _ := by rw [hsubject]

/-- Deleting the codes takes the paint off. -/
theorem without_layout (colour : Colour) (h : Style.Bare subject) :
    Style.without (Style.paintCodes colour) (layout (Style.paint colour) subject start stop)
      = layout id subject start stop := by
  have hgap (n : Nat) : Style.Bare (gap n) := fun c hc => by
    rw [List.eq_of_mem_replicate hc]
    decide
  have hmarker : Style.Bare ('^' :: List.replicate (stop - start - 1) '~') := by
    refine List.forall_mem_cons.2 ⟨by decide, fun c hc => ?_⟩
    rw [List.eq_of_mem_replicate hc]
    decide
  have hfront : Style.Bare (subject.take start) := fun c hc => h c (List.mem_of_mem_take hc)
  have hspan : Style.Bare ((subject.take stop).drop start) :=
    fun c hc => h c (List.mem_of_mem_take (List.mem_of_mem_drop hc))
  have hback : Style.Bare (subject.drop stop) := fun c hc => h c (List.mem_of_mem_drop hc)
  have hcodes := Style.head?_paintCodes colour
  have hlast := Style.without_paint colour hmarker []
  rw [List.append_nil] at hlast
  simp only [layout, List.append_assoc]
  rw [Style.without_append hcodes (hgap 2), Style.without_append hcodes hfront,
    Style.without_paint colour hspan, Style.without_append hcodes hback,
    Style.without_append hcodes (by decide), Style.without_append hcodes (hgap _), hlast]
  simp [Style.without, Style.withoutFrom]

/-- The part of the subject that is painted. -/
def spanned (d : Diagnostic) : Text := d.subject.between d.start d.spanStop

/-- How an excerpt shows its subject when the span is from `start` on and before `stop`. -/
structure LaidOut (colour : Colour) (d : Diagnostic) (start stop : Nat) : Prop where
  painted : d.excerptText colour = layout (Style.paint colour) d.subject start stop
  spanned : d.spanned = (d.subject.take stop).drop start
  marker : d.marker = '^' :: List.replicate (stop - start - 1) '~'
  /-- Apart from the paint nothing of the subject is lost, repeated or moved. -/
  whole : layout id d.subject start stop = gap 2 ++ d.subject ++ ['\n']
    ++ (gap (2 + start) ++ '^' :: List.replicate (stop - start - 1) '~')
  /-- If a character is painted, the marker starts under the first one. -/
  under : d.spanned ≠ [] → (d.subject.take start).length = start
  unstyled : Style.Bare d.subject →
    Style.without (Style.paintCodes colour) (d.excerptText colour)
      = layout id d.subject start stop

section

variable {d : Diagnostic} (hstart : d.start = start) (hstop : d.spanStop = stop)

include hstart hstop

theorem spanned_eq : d.spanned = (d.subject.take stop).drop start := by
  rw [spanned, hstart, hstop, Text.between_natCast]

theorem marker_eq : d.marker = '^' :: List.replicate (stop - start - 1) '~' := by
  have hwidth : (d.spanStop - d.start - 1).toNat = stop - start - 1 := by omega
  rw [marker, Text.repeated, hwidth]

theorem excerptText_eq_layout (colour : Colour) :
    d.excerptText colour = layout (Style.paint colour) d.subject start stop := by
  have hline : d.markerLine colour = gap start ++ Style.paint colour d.marker := by
    rw [markerLine, Text.repeated, hstart, Int.toNat_natCast]
    rfl
  have hgap : gap (2 + start) = gap 2 ++ gap start := List.replicate_append_replicate.symm
  rw [excerptText, excerptLine, hline, marker_eq hstart hstop, hstart, hstop, Text.before_natCast,
    Text.between_natCast, Text.after_natCast, layout, hgap]
  simp only [List.append_assoc]
  rfl

theorem laidOut (colour : Colour) : LaidOut colour d start stop := by
  have hpainted := excerptText_eq_layout hstart hstop colour
  have hspanned := spanned_eq hstart hstop
  have hle : start ≤ stop := by
    unfold spanStop at hstop
    omega
  refine ⟨hpainted, hspanned, marker_eq hstart hstop, layout_id hle d.subject, ?_, ?_⟩
  · intro hne
    rw [hspanned] at hne
    have hlength := List.length_pos_iff.2 hne
    rw [List.length_drop, List.length_take] at hlength
    rw [List.length_take]
    omega
  · intro hbare
    rw [hpainted, without_layout colour hbare]

end

/-! ## The marker -/

/-- The marker is as wide as what is painted. At the end of the subject there is nothing to paint,
    and the marker is a caret. -/
structure MarkerFits (d : Diagnostic) : Prop where
  start_nonneg : 0 ≤ d.start
  wide : d.spanned ≠ [] → d.marker.length = d.spanned.length
  atEnd : d.spanned = [] → d.start = d.subject.length ∧ d.marker = ['^']

/-- The span is one character, or the place behind the last one. -/
theorem markerFits_of_one {d : Diagnostic} {front rest : Text} (hsubject : d.subject = front ++ rest)
    (hstart : d.start = front.length) (hstop : d.stop = d.start + 1) :
    d.spanned = rest.take 1 ∧ d.marker = ['^'] ∧ d.MarkerFits := by
  have hspanStop : d.spanStop = (front.length + 1 : Nat) := by
    unfold spanStop
    omega
  have hmarker : d.marker = ['^'] := by
    rw [marker_eq hstart hspanStop, Nat.add_sub_cancel_left]
    rfl
  have hspanned : d.spanned = rest.take 1 := by
    rw [spanned_eq hstart hspanStop, hsubject, List.take_append,
      List.take_of_length_le (Nat.le_succ _), List.drop_left, Nat.add_sub_cancel_left]
  refine ⟨hspanned, hmarker, by omega, ?_, ?_⟩
  · intro hne
    rw [hspanned] at hne ⊢
    rw [hmarker, List.length_take]
    have hlength := List.length_pos_iff.2 fun hnil : rest = [] => hne (by rw [hnil]; rfl)
    rw [List.length_singleton]
    omega
  · intro hnil
    rw [hspanned] at hnil
    have hrest : rest = [] := by simpa using hnil
    exact ⟨by rw [hsubject, hrest, List.append_nil, hstart], hmarker⟩

/-- The span is all of the subject. -/
theorem markerFits_of_all {d : Diagnostic} (hne : d.subject ≠ []) (hstart : d.start = (0 : Nat))
    (hstop : d.stop = d.subject.length) : d.spanned = d.subject ∧ d.MarkerFits := by
  have hlength := List.length_pos_iff.2 hne
  have hspanStop : d.spanStop = d.subject.length := by
    unfold spanStop
    omega
  have hspanned : d.spanned = d.subject := by
    rw [spanned_eq hstart hspanStop, List.take_length, List.drop_zero]
  refine ⟨hspanned, by omega, ?_, ?_⟩
  · intro _
    rw [hspanned, marker_eq hstart hspanStop, List.length_cons, List.length_replicate]
    omega
  · intro hnil
    exact absurd (hspanned.symm.trans hnil) hne

end Diagnostic

/-! ## The errors of a session -/

/-- Of all failures only a division by zero has an excerpt of its own: all of the expression. -/
theorem Failure.markerFits_diagnostic {failure : Failure}
    (h : failure.diagnostic.showsExcerpt = true) :
    ∃ expression, failure = .divisionByZero expression ∧
      failure.diagnostic.spanned = expression ∧ failure.diagnostic.MarkerFits := by
  cases failure with
  | divisionByZero expression =>
      cases expression with
      | nil => cases h
      | cons c rest =>
          have hall := @Diagnostic.markerFits_of_all (divisionByZero (c :: rest)).diagnostic
            (List.cons_ne_nil c rest) rfl rfl
          exact ⟨c :: rest, rfl, hall.1, hall.2⟩
  | malformed | overflow | unboundName => simp [diagnostic, Diagnostic.showsExcerpt] at h

/-- In a malformed line the first character is marked that was not read. -/
theorem Stmt.markerFits_located {line expected remainder : Text}
    (h : infer line = .error (.malformed expected remainder)) :
    let d := (Failure.malformed expected remainder).diagnosticIn (trimmed line)
    d.spanned = remainder.take 1 ∧ d.marker = ['^'] ∧ d.MarkerFits := by
  obtain ⟨front, hlocated⟩ := exists_located h
  obtain ⟨hsubject, hstart, hstop, -⟩ :=
    located_points (Failure.malformed expected remainder).diagnostic hlocated.split
  exact Diagnostic.markerFits_of_one (hsubject.trans hlocated.split) hstart hstop

namespace Session

open Agenda

/-- What a command has to say: that a name is overwritten, that a line cannot be read, at its place in
    the line, or that a statement fails. -/
theorem mem_messages {session : Session} {reporter : Reporter} {command : Command}
    {message : Message} (h : message ∈ (session.perform reporter command).messages) :
    (∃ name, message.content = (.warning, overwriteDiagnostic name)) ∨
    (∃ line failure, Stmt.infer line = .error failure ∧
      message.content = (.error, failure.diagnosticIn (Stmt.trimmed line))) ∨
    ∃ failure : Failure, message.content = (.error, failure.diagnostic) := by
  cases command with
  | add line number =>
      have hmessages := add_messages session reporter line number
      replace h : message ∈ (session.add reporter line number).messages := h
      rw [hmessages] at h
      cases hinfer : Stmt.infer line with
      | ok stmt => simp [hinfer] at h
      | error failure =>
          rw [hinfer] at h
          obtain rfl := List.mem_singleton.1 h
          exact Or.inr (Or.inl ⟨line, failure, hinfer, rfl⟩)
  | run =>
      have hcontents : (session.run reporter).messages.map Message.content = _ :=
        executeAll_contents ..
      have hcontent := hcontents ▸ List.mem_map_of_mem (f := Message.content) h
      rcases mem_contents hcontent with ⟨name, hname⟩ | ⟨_, _, failure, _, hfailure⟩
      · exact Or.inl ⟨name, hname⟩
      · exact Or.inr (Or.inr ⟨failure, hfailure⟩)
  | pop =>
      have hnone : (session.pop reporter).messages = [] := by
        unfold pop
        cases session.results.getLast? <;> rfl
      replace h : message ∈ (session.pop reporter).messages := h
      simp [hnone] at h
  | lookup name =>
      have hnone : (session.lookup reporter name).messages = [] := by
        unfold lookup
        cases session.bindings.lookup name <;> rfl
      replace h : message ∈ (session.lookup reporter name).messages := h
      simp [hnone] at h

/-- Paint is the code for bold, that for the colour, and behind the text the code that switches both
    off. Every excerpt whose span does not start in front of its subject reprints all of the subject,
    in three parts that are cut where the span starts and stops, and has its marker under the first
    painted character. What a session shows with an excerpt is a malformed line, with the first
    character marked that was not read, or a division by zero, with all of the expression marked; the
    marker is as wide as what is painted, or a caret behind the end of the line. -/
theorem excerpts_fit :
    (∀ t : Text, Style.paint .red t = "\x1b[1m\x1b[31m".toList ++ t ++ "\x1b[0m".toList ∧
      Style.paint .magenta t = "\x1b[1m\x1b[35m".toList ++ t ++ "\x1b[0m".toList) ∧
    (∀ (colour : Colour) (d : Diagnostic), 0 ≤ d.start → ∃ start stop : Nat,
      d.start = start ∧ max d.stop (d.start + 1) = stop ∧ d.LaidOut colour start stop) ∧
    ∀ (session : Session) (reporter : Reporter) (command : Command),
      ∀ message ∈ (session.perform reporter command).messages,
        message.diagnostic.showsExcerpt = true →
          message.severity = .error ∧ message.diagnostic.MarkerFits ∧
          ((∃ line expected remainder, Stmt.infer line = .error (.malformed expected remainder) ∧
              message.diagnostic
                = (Failure.malformed expected remainder).diagnosticIn (Stmt.trimmed line) ∧
              message.diagnostic.spanned = remainder.take 1 ∧
              message.diagnostic.marker = ['^']) ∨
            ∃ expression, message.diagnostic = (Failure.divisionByZero expression).diagnostic ∧
              message.diagnostic.spanned = expression) := by
  refine ⟨fun t => ⟨Style.paint_red t, Style.paint_magenta t⟩, ?_, ?_⟩
  · intro colour d hstart
    obtain ⟨start, hstart⟩ := Int.eq_ofNat_of_zero_le hstart
    obtain ⟨stop, hstop⟩ := Int.eq_ofNat_of_zero_le (show 0 ≤ d.spanStop by
      unfold Diagnostic.spanStop
      omega)
    exact ⟨start, stop, hstart, hstop, Diagnostic.laidOut hstart hstop colour⟩
  · rintro session reporter command ⟨severity, places, d⟩ hmessage hshows
    rcases mem_messages hmessage with ⟨name, heq⟩ | ⟨line, failure, hinfer, heq⟩ | ⟨failure, heq⟩
    · obtain ⟨rfl, rfl⟩ := Prod.mk.inj heq
      simp [overwriteDiagnostic, Diagnostic.showsExcerpt] at hshows
    · obtain ⟨rfl, rfl⟩ := Prod.mk.inj heq
      cases failure with
      | malformed expected remainder =>
          obtain ⟨hspanned, hmarker, hfits⟩ := Stmt.markerFits_located hinfer
          exact ⟨rfl, hfits, Or.inl ⟨line, expected, remainder, hinfer, rfl, hspanned, hmarker⟩⟩
      | overflow | divisionByZero | unboundName =>
          obtain ⟨expression, hfailure, hspanned, hfits⟩ := Failure.markerFits_diagnostic hshows
          exact ⟨rfl, hfits, Or.inr ⟨expression, congrArg Failure.diagnostic hfailure, hspanned⟩⟩
    · obtain ⟨rfl, rfl⟩ := Prod.mk.inj heq
      obtain ⟨expression, hfailure, hspanned, hfits⟩ := Failure.markerFits_diagnostic hshows
      exact ⟨rfl, hfits, Or.inr ⟨expression, congrArg Failure.diagnostic hfailure, hspanned⟩⟩

/-- A binding that breaks off before its expression: the caret stands behind the end of the line. -/
theorem excerpts_fit_missing_expression :
    let d := (Failure.malformed "digits".toList []).diagnosticIn "let a =".toList
    d.showsExcerpt = true ∧ d.spanned = [] ∧ d.marker = ['^'] ∧ d.MarkerFits ∧
      ∃ start stop : Nat, d.start = start ∧ max d.stop (d.start + 1) = stop ∧
        d.LaidOut .red start stop := by
  let d := (Failure.malformed "digits".toList []).diagnosticIn "let a =".toList
  let message : Message := ⟨.error, [⟨inputPath, "let a =".toList, 1⟩], d⟩
  have hmessage : message ∈
      ((fresh inputPath).perform (.fresh false) (.add "let a =".toList 1)).messages := by
    decide
  obtain ⟨-, hfits, -⟩ := excerpts_fit.2.2 _ _ _ message hmessage (by decide)
  exact ⟨by decide, by decide, by decide, hfits, excerpts_fit.2.1 .red d (by decide)⟩

end Session

end LetCalc
