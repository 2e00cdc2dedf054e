import LetCalc.Proofs.Console
import LetCalc.Proofs.Location
import LetCalc.Proofs.Notices

set_option autoImplicit false

/-! # No line does harm

Whatever a line says and whatever is queued, adding the line and running the queue come to an end, or
on a fatal reporter they end the program, and that exactly if the line or a statement failed
(`add_and_run_contained`). All they meet on the way are failures of reading and executing
(`Failure.OfLine`), every report is a notice that is well made, and no statement is taken off the
queue that is not on it (`Console.takes_agenda`).

One thing does harm, the number of a line. A message that says a number of more than 4300 digits
cannot be written, and the command that was to report breaks off instead, on a reporter that is not
fatal as on one that is (`unwritable_number_breaks_off`). Nothing else makes a command break off. -/

namespace LetCalc

/-! ## Failures of lines -/

/-- A failure of reading a line or of executing its statement: not of a name that is not bound, and
    not of a line that no form of statement claims. -/
inductive Failure.OfLine : Failure → Prop where
  | malformed {expected remainder : Text} (h : expected ≠ "statement".toList) :
      OfLine (.malformed expected remainder)
  | overflow {shown : Text} : OfLine (.overflow shown)
  | divisionByZero {expression : Text} : OfLine (.divisionByZero expression)

namespace Stmt

theorem exists_form (line : Text) :
    ∃ form, Form.all.find? (fun form => form.claims (trimmed line)) = some form := by
  unfold Form.all
  cases hclaims : Form.binding.claims (trimmed line) with
  | true => exact ⟨.binding, by simp only [List.find?, hclaims]⟩
  | false => exact ⟨.expression, by simp only [List.find?, hclaims]; rfl⟩

theorem ofLine_of_infer {line : Text} {failure : Failure} (h : infer line = .error failure) :
    failure.OfLine := by
  have hreads := reads_iff.2 h
  generalize trimmed line = s at hreads
  cases hreads with
  | broken hbroken =>
      refine .malformed ?_
      rcases hbroken.expected_cases with h | h | h <;> rw [h] <;> decide
  | leftover => exact .malformed (by decide)
  | failed hfits hexpr =>
      cases hexpr with
      | missing => exact .malformed (by decide)
      | overflow => exact .overflow
      | tailOverflow => exact .overflow

end Stmt

theorem Arithmetic.ofLine_of_checkedAs {n : Int} {expression : Text} {failure : Failure}
    (h : checkedAs n expression = .error failure) : failure.OfLine := by
  unfold checkedAs at h
  split at h
  · cases h
  · obtain rfl := Except.error.inj h
    exact .overflow

theorem Op.ofLine_of_evaluate {op : Op} {lhs rhs : Int} {expression : Text} {failure : Failure}
    (h : op.evaluate lhs rhs expression = .error failure) : failure.OfLine := by
  unfold evaluate at h
  cases hexact : op.exact lhs rhs expression with
  | ok n =>
      rw [hexact] at h
      exact Arithmetic.ofLine_of_checkedAs h
  | error cause =>
      rw [hexact] at h
      obtain rfl := Except.error.inj h
      -- Only a quotient is not always there.
      cases op with
      | add | sub | mul => cases hexact
      | div =>
          rw [exact, Arithmetic.quotient] at hexact
          split at hexact
          · obtain rfl := Except.error.inj hexact
            exact .divisionByZero
          · cases hexact

theorem Expr.ofLine_of_eval {e : Expr} {failure : Failure} (h : e.eval = .error failure) :
    failure.OfLine := by
  cases e with
  | number n => cases h
  | operation lhs op rhs => exact Op.ofLine_of_evaluate h

theorem Stmt.ofLine_of_effect {stmt : Stmt} {failure : Failure}
    (h : stmt.effect = .fails failure) : failure.OfLine :=
  Expr.ofLine_of_eval (effect_eq_fails_iff.1 h)

/-! ## What is reported -/

theorem Failure.internal_diagnostic (failure : Failure) : failure.diagnostic.internal = false := by
  cases failure with
  | divisionByZero expression => cases expression <;> rfl
  | malformed | overflow | unboundName => rfl

theorem Failure.internal_diagnosticIn (failure : Failure) (source : Text) :
    (failure.diagnosticIn source).internal = false := by
  cases failure with
  | malformed => rfl
  | overflow | divisionByZero | unboundName => exact internal_diagnostic _

/-- The message reports a failure of a line, as it is or at its place in a text, or it warns that a
    name is overwritten; the notice of which it is made is well made. -/
def Message.OfLine (message : Message) : Prop :=
  match message.severity with
  | .error => ∃ failure : Failure, failure.OfLine ∧
      failure.notice.diagnostic = .ok failure.diagnostic ∧
        (message.diagnostic = failure.diagnostic ∨
          ∃ source, message.diagnostic = failure.diagnosticIn source)
  | .warning => ∃ name, (Session.overwriteNotice name).diagnostic = .ok message.diagnostic

theorem Message.OfLine.internal {message : Message} (h : message.OfLine) :
    message.diagnostic.internal = false := by
  obtain ⟨severity, places, d⟩ := message
  cases severity with
  | error =>
      obtain ⟨failure, -, -, hd⟩ := h
      rcases hd with rfl | ⟨source, rfl⟩
      · exact failure.internal_diagnostic
      · exact failure.internal_diagnosticIn source
  | warning =>
      obtain ⟨name, hd⟩ := h
      rw [Session.overwriteNotice_diagnostic] at hd
      obtain rfl := Except.ok.inj hd
      rfl

/-- What statements report is a warning, or the failure of one of them. -/
theorem Agenda.mem_contents {es : List (Int × Queued)} {bindings : Bindings}
    {content : Severity × Diagnostic} (h : content ∈ contents bindings es) :
    (∃ name, content = (.warning, Session.overwriteDiagnostic name)) ∨
      ∃ e ∈ es, ∃ failure, e.2.stmt.effect = .fails failure ∧
        content = (.error, failure.diagnostic) := by
  induction es generalizing bindings with
  | nil => cases h
  | cons e rest ih =>
      rcases List.mem_append.1 h with h | h
      · cases heffect : e.2.stmt.effect with
        | stores name n =>
            rw [heffect, Effect.contents] at h
            split at h
            · exact Or.inl ⟨name, List.mem_singleton.1 h⟩
            · cases h
        | yields n =>
            rw [heffect] at h
            cases h
        | fails failure =>
            rw [heffect] at h
            exact Or.inr ⟨e, List.mem_cons_self .., failure, heffect, List.mem_singleton.1 h⟩
      · rcases ih h with hwarning | ⟨d, hd, hfails⟩
        · exact Or.inl hwarning
        · exact Or.inr ⟨d, List.mem_cons_of_mem _ hd, hfails⟩

/-! ## Taking statements off the queue -/

namespace Console

/-- Of the given statements, those that are executed are queued when they are taken off the queue. -/
def Takes : List (Int × Queued) → Session → Reporter → Prop
  | [], _, _ => True
  | (number, queued) :: rest, session, reporter =>
      session.queue.get? number = some queued ∧
        let step := execute session reporter number queued
        (step.answer = .done → Takes rest step.session step.reporter)

theorem takes_of_queued {es : List (Int × Queued)} {session : Session} {reporter : Reporter}
    (hnodup : (es.map Prod.fst).Nodup) (hqueued : ∀ e ∈ es, session.queue.get? e.1 = some e.2) :
    Takes es session reporter := by
  induction es generalizing session reporter with
  | nil => trivial
  | cons e rest ih =>
      obtain ⟨number, queued⟩ := e
      obtain ⟨hnumber, hnodup⟩ := List.nodup_cons.1 hnodup
      refine ⟨hqueued _ (List.mem_cons_self ..), fun _ => ih hnodup ?_⟩
      rw [execute_session]
      exact Session.execute_queued hnumber fun e he => hqueued e (List.mem_cons_of_mem _ he)

theorem takes_agenda (session : Session) (reporter : Reporter) :
    Takes session.queue.agenda session reporter :=
  takes_of_queued session.queue.agenda_nodup fun _ => Queue.get?_of_mem_agenda

end Console

namespace Session

/-! ## What is due -/

/-- What a command is to lead to that meets nothing but failures of lines: `failed` says whether it
    meets any. -/
structure Contained (reporter : Reporter) (failed : Prop) (step : Step) : Prop where
  /-- The command comes to its end, or the program ends with exit code 1. -/
  answer : step.answer = .done ∨ (∃ stmt, step.answer = .statement stmt) ∨ step.answer = .exit
  exit_iff : step.answer = .exit ↔ reporter.fatal = true ∧ failed
  ofLine : ∀ message ∈ step.messages, message.OfLine
  internal : ∀ message ∈ step.messages, message.diagnostic.internal = false

theorem add_contained (session : Session) (reporter : Reporter) (line : Text) (number : Int) :
    Contained reporter (∃ failure, Stmt.infer line = .error failure)
      (session.add reporter line number) := by
  have hanswer := add_answer session reporter line number
  have hmessages := add_messages session reporter line number
  cases hinfer : Stmt.infer line with
  | ok stmt =>
      simp only [hinfer] at hanswer hmessages
      exact ⟨Or.inr (Or.inl ⟨stmt, hanswer⟩), by simp [hanswer], by simp [hmessages],
        by simp [hmessages]⟩
  | error failure =>
      simp only [hinfer] at hanswer hmessages
      have hofLine : ∀ message ∈ (session.add reporter line number).messages, message.OfLine := by
        rw [hmessages]
        intro message hmessage
        obtain rfl := List.mem_singleton.1 hmessage
        exact ⟨failure, Stmt.ofLine_of_infer hinfer, failure.notice_diagnostic, Or.inr ⟨_, rfl⟩⟩
      refine ⟨?_, ?_, hofLine, fun message hmessage => (hofLine message hmessage).internal⟩
      · rw [hanswer]
        split
        · exact Or.inr (Or.inr rfl)
        · exact Or.inl rfl
      · rw [hanswer]
        by_cases hfatal : reporter.fatal = true <;> simp [hfatal]

theorem run_contained (session : Session) (reporter : Reporter) :
    Contained reporter (∃ e ∈ session.queue.entries, e.2.stmt.fails = true)
      (session.run reporter) := by
  have hanswer : (session.run reporter).answer = _ := executeAll_ending ..
  have hmessages : (session.run reporter).messages.map Message.content = _ := executeAll_contents ..
  have hfailed : session.queue.agenda.any (fun e => e.2.stmt.fails) = true ↔
      ∃ e ∈ session.queue.entries, e.2.stmt.fails = true := by
    simp only [List.any_eq_true, session.queue.agenda_perm.mem_iff]
  have hofLine : ∀ message ∈ (session.run reporter).messages, message.OfLine := by
    rintro ⟨severity, places, d⟩ hmessage
    have hcontent := hmessages ▸ List.mem_map_of_mem (f := Message.content) hmessage
    rcases Agenda.mem_contents hcontent with ⟨name, heq⟩ | ⟨e, -, failure, heffect, heq⟩
    · obtain ⟨rfl, rfl⟩ := Prod.mk.inj heq
      exact ⟨name, overwriteNotice_diagnostic name⟩
    · obtain ⟨rfl, rfl⟩ := Prod.mk.inj heq
      exact ⟨failure, Stmt.ofLine_of_effect heffect, failure.notice_diagnostic, Or.inl rfl⟩
  refine ⟨?_, ?_, hofLine, fun message hmessage => (hofLine message hmessage).internal⟩
  · rw [hanswer]
    split
    · exact Or.inr (Or.inr rfl)
    · exact Or.inl rfl
  · rw [hanswer]
    split
    · next h => exact ⟨fun _ => ⟨h.1, hfailed.1 h.2⟩, fun _ => rfl⟩
    · next h => exact ⟨nofun, fun hc => absurd ⟨hc.1, hfailed.2 hc.2⟩ h⟩

/-! ## What comes of it -/

/-- What comes of a command on the console, if `due` is what it is to lead to. -/
structure ContainedOnConsole (reporter : Reporter) (failed : Prop) (due step : Step) : Prop where
  contained : Contained reporter failed due
  /-- Nothing else comes out of the command. -/
  answer : step.answer = .done ∨ (∃ stmt, step.answer = .statement stmt) ∨ step.answer = .exit ∨
    step.answer = .unwritable
  /-- The command breaks off exactly if it is to say a number of more than 4300 digits. A warning
      says that of its first place only. -/
  unwritable_iff : step.answer = .unwritable ↔ ∃ message ∈ due.messages, ∃ place ∈ message.places,
    (message.severity = .warning → message.places.head? = some place) ∧
      4300 < (Decimal.ofNat place.number.natAbs).length
  whole : step.answer ≠ .unwritable → step = due
  exit_iff : step.answer ≠ .unwritable → (step.answer = .exit ↔ reporter.fatal = true ∧ failed)
  /-- What is written are the first of the messages that are due. -/
  written : step.messages <+: due.messages

theorem Contained.answer_ne_unwritable {reporter : Reporter} {failed : Prop} {step : Step}
    (h : Contained reporter failed step) : step.answer ≠ .unwritable := by
  rcases h.answer with hdone | ⟨stmt, hstmt⟩ | hexit
  · simp [hdone]
  · simp [hstmt]
  · simp [hexit]

theorem Contained.onConsole {reporter : Reporter} {failed : Prop} {due step : Step}
    (h : Contained reporter failed due)
    (hstep : (∀ message ∈ due.messages, message.Writable) ∧ step = due ∨
      (¬ ∀ message ∈ due.messages, message.Writable) ∧ step.answer = .unwritable ∧
        step.messages <+: due.messages) :
    ContainedOnConsole reporter failed due step := by
  have hlong : (¬ ∀ message ∈ due.messages, message.Writable) ↔ ∃ message ∈ due.messages,
      ∃ place ∈ message.places, (message.severity = .warning → message.places.head? = some place) ∧
        4300 < (Decimal.ofNat place.number.natAbs).length := by
    simp only [← Message.not_writable_iff, Classical.not_forall, exists_prop]
  rcases hstep with ⟨hwritable, rfl⟩ | ⟨hbroken, hanswer, hwritten⟩
  · exact
      { contained := h
        answer := h.answer.imp_right fun hrest => hrest.imp_right Or.inl
        unwritable_iff :=
          ⟨fun hc => absurd hc h.answer_ne_unwritable, fun hc => absurd hwritable (hlong.2 hc)⟩
        whole := fun _ => rfl
        exit_iff := fun _ => h.exit_iff
        written := List.prefix_rfl }
  · exact
      { contained := h
        answer := Or.inr (Or.inr (Or.inr hanswer))
        unwritable_iff := ⟨fun _ => hlong.1 hbroken, fun _ => hanswer⟩
        whole := fun hc => absurd hanswer hc
        exit_iff := fun hc => absurd hanswer hc
        written := hwritten }

theorem add_containedOnConsole (session : Session) (reporter : Reporter) (line : Text)
    (number : Int) : ContainedOnConsole reporter (∃ failure, Stmt.infer line = .error failure)
      (session.add reporter line number) (Console.add session reporter line number) := by
  refine (add_contained session reporter line number).onConsole ?_
  rcases Console.add_cases session reporter line number with hwhole | ⟨hbroken, heq⟩
  · exact Or.inl hwhole
  · rw [heq]
    exact Or.inr ⟨hbroken, rfl, List.nil_prefix⟩

theorem run_containedOnConsole (session : Session) (reporter : Reporter) :
    ContainedOnConsole reporter (∃ e ∈ session.queue.entries, e.2.stmt.fails = true)
      (session.run reporter) (Console.run session reporter) := by
  refine (run_contained session reporter).onConsole ?_
  rcases Console.executeAll_cases session.queue.agenda session reporter with
    hwhole | ⟨hbroken, hbreaksOff⟩
  · exact Or.inl hwhole
  · exact Or.inr ⟨hbroken, hbreaksOff.answer, hbreaksOff.messages.1⟩

/-- Whatever the state of a session and whatever line is added: adding it and running the queue come
    to an end, on a fatal reporter with an exit exactly if something failed, unless they are to say a
    number of more than 4300 digits. Then they break off, and without such numbers they never do.
    Only failures of reading and executing occur, and only they and overwritten names are reported. A
    run takes off the queue what is on it, and there is a form for every line. -/
theorem add_and_run_contained (session : Session) (reporter : Reporter) (line : Text)
    (number : Int) :
    ContainedOnConsole reporter (∃ failure, Stmt.infer line = .error failure)
        (session.add reporter line number) (Console.add session reporter line number) ∧
      ContainedOnConsole reporter (∃ e ∈ session.queue.entries, e.2.stmt.fails = true)
        (session.run reporter) (Console.run session reporter) ∧
      (reporter.PlacesWritable → Decimal.Writable number →
        Console.add session reporter line number = session.add reporter line number) ∧
      (reporter.PlacesWritable → session.QueueWritable →
        Console.run session reporter = session.run reporter) ∧
      ((Console.add session reporter line number).answer = .unwritable →
        Console.add session reporter line number
          = ⟨[], session, reporter.registerLine session.path line number, .unwritable⟩) ∧
      ((Console.run session reporter).answer = .unwritable →
        Console.BreaksOff session reporter session.queue.agenda (Console.run session reporter)) ∧
      (∀ failure, Stmt.infer line = .error failure → failure.OfLine) ∧
      (∀ e ∈ session.queue.entries, ∀ failure,
        e.2.stmt.effect = .fails failure → failure.OfLine) ∧
      Console.Takes session.queue.agenda session reporter ∧
      ∃ form, Stmt.Form.all.find? (fun form => form.claims (Stmt.trimmed line)) = some form := by
  have hadd := Console.add_cases session reporter line number
  have hrun := Console.executeAll_cases session.queue.agenda session reporter
  refine ⟨add_containedOnConsole session reporter line number,
    run_containedOnConsole session reporter, fun hplaces hnumber => ?_, fun hplaces hqueue => ?_,
    fun hanswer => ?_, fun hanswer => ?_, fun _ => Stmt.ofLine_of_infer,
    fun _ _ _ => Stmt.ofLine_of_effect, Console.takes_agenda session reporter,
    Stmt.exists_form line⟩
  · exact Console.write_of_writable _ (add_writable hplaces line hnumber).messages
  · exact (hrun.resolve_right fun hc => hc.1 (run_writable hplaces hqueue).messages).2
  · refine (hadd.resolve_left fun hc => ?_).2
    rw [hc.2] at hanswer
    exact (add_contained session reporter line number).answer_ne_unwritable hanswer
  · refine (hrun.resolve_left fun hc => ?_).2
    rw [Console.run, hc.2] at hanswer
    exact (run_contained session reporter).answer_ne_unwritable hanswer

/-- On a reporter that is not fatal, a line that cannot be read breaks off adding it, and a statement
    that fails breaks off the run, under a number that has a digit too many. -/
theorem unwritable_number_breaks_off :
    let reporter := (Workspace.create false [inputPath]).reporter
    let number : Int := Decimal.leastUnwritable
    let malformed := Console.add (fresh inputPath) reporter ['x'] number
    let divided := Console.add (fresh inputPath) reporter "1/0".toList number
    reporter.fatal = false ∧ malformed.answer = .unwritable ∧ malformed.messages = [] ∧
      malformed.reporter.places = [⟨inputPath, ['x'], number⟩] ∧
      (Console.run divided.session divided.reporter).answer = .unwritable := by
  have hnumber := Decimal.not_writable_leastUnwritable
  revert hnumber
  generalize (Decimal.leastUnwritable : Int) = number
  intro hnumber reporter _ malformed divided
  have hlong : ∀ (line : Text) (d : Diagnostic),
      ¬ ∀ message ∈ [Message.mk .error [⟨inputPath, line, number⟩] d], message.Writable := by
    intro line d hall
    exact hnumber (hall _ (List.mem_singleton.2 rfl) number (List.mem_singleton.2 rfl))
  have hmalformed : malformed
      = ⟨[], fresh inputPath, reporter.registerLine inputPath ['x'] number, .unwritable⟩ :=
    Console.write_of_not_writable _
      (hlong ['x'] ((Failure.malformed "digits".toList ['x']).diagnosticIn ['x']))
  have hagenda : divided.session.queue.agenda
      = [(number, ⟨"1/0".toList, .expression (.operation 1 .div 0)⟩)] :=
    List.perm_singleton.1 (Queue.agenda_perm _)
  have hdivided : (Console.run divided.session divided.reporter).answer = .unwritable := by
    rw [Console.run, hagenda]
    rcases Console.executeAll_cases [(number, ⟨"1/0".toList, .expression (.operation 1 .div 0)⟩)]
      divided.session divided.reporter with ⟨hwritable, -⟩ | ⟨-, hbreaksOff⟩
    · exact absurd hwritable
        (hlong "1/0".toList (Failure.divisionByZero "1 / 0".toList).diagnostic)
    · exact hbreaksOff.answer
  rw [hmalformed]
  exact ⟨rfl, rfl, rfl, rfl, hdivided⟩

end Session

end LetCalc
