import LetCalc.Proofs.Containment
import LetCalc.Proofs.Reachable

set_option autoImplicit false

/-! # What is printed of one statement

A run prints what its statements print, one after the other (`run_printed_at`): `stepAt` is the step
of the statement that a run comes to after the statements before it. On an idle reporter the
messages of this step name the line of the statement and no other place (`stepAt_messages`), and no
queued line is empty, so each of them starts with its place: an error with a header
(`Message.toText_error`), a warning with a label (`Message.toText_overwrite`). Nothing else is printed
of a statement (`stepAt_printed`). -/

namespace LetCalc

/-! ## Printed messages -/

theorem Reporter.placesOf_of_ne_nil {line : Text} (h : line ≠ []) (path : Text) (number : Int) :
    placesOf path ⟨line, number⟩ = [⟨path, line, number⟩] := by
  unfold placesOf place?
  rw [Option.bind_some, if_neg h]
  rfl

/-- Only an empty line has no header. -/
theorem Reporter.headers_placesOf (path line : Text) (number : Int) :
    (placesOf path ⟨line, number⟩).flatMap Place.header
      = if line = [] then [] else Place.header ⟨path, line, number⟩ := by
  split
  · next hline =>
      rw [hline]
      rfl
  · next hline =>
      rw [placesOf_of_ne_nil hline, List.flatMap_cons, List.flatMap_nil, List.append_nil]

/-- What is printed of an error, apart from where it comes from. -/
def Diagnostic.errorText (d : Diagnostic) : Text :=
  "\x1b[1m\x1b[31merror: \x1b[0m".toList ++ d.styled ++ ['\n'] ++ Message.excerpt ⟨.error, [], d⟩

/-- A report starts with the headers of the places, and then comes the error. -/
theorem Message.toText_error {d : Diagnostic} (h : d.internal = false) (places : List Place) :
    Message.toText ⟨.error, places, d⟩ = places.flatMap Place.header ++ d.errorText := by
  have hlead : lead ⟨.error, places, d⟩ = places.flatMap Place.header := by
    show places.flatMap Place.header ++ (if d.internal then _ else []) = _
    rw [h, if_neg Bool.false_ne_true, List.append_nil]
  have hword : Style.paint Severity.error.colour Severity.error.word
      = "\x1b[1m\x1b[31merror: \x1b[0m".toList := by decide
  have htext : toText ⟨.error, places, d⟩
      = lead ⟨.error, places, d⟩ ++ Style.paint Severity.error.colour Severity.error.word
        ++ d.styled ++ ['\n'] ++ excerpt ⟨.error, [], d⟩ := rfl
  unfold Diagnostic.errorText
  simp only [htext, hlead, hword, List.append_assoc]

/-- The text of a warning that a name is overwritten on a numbered line. -/
def Session.overwriteText (path : Text) (number : Int) (name : Text) : Text :=
  "\x1b[1m".toList ++ path ++ [':'] ++ Decimal.ofInt number ++ ": \x1b[0m".toList
    ++ "\x1b[1m\x1b[35mwarning: \x1b[0m".toList
    ++ "'\x1b[1m".toList ++ name ++ "\x1b[0m' overwrites previous binding\n".toList

theorem Message.toText_overwrite (path line : Text) (number : Int) (name : Text) :
    Message.toText ⟨.warning, [⟨path, line, number⟩], Session.overwriteDiagnostic name⟩
      = Session.overwriteText path number name := by
  have hlead : lead ⟨.warning, [⟨path, line, number⟩], Session.overwriteDiagnostic name⟩
      = "\x1b[1m".toList ++ path ++ [':'] ++ Decimal.ofInt number ++ ": \x1b[0m".toList := by
    have hoff : ": \x1b[0m".toList = [':', ' '] ++ "\x1b[0m".toList := by decide
    show Style.bold (path ++ [':'] ++ Decimal.ofInt number ++ [':', ' ']) = _
    simp only [Style.bold_eq, hoff, List.append_assoc]
  have hword : Style.paint Severity.warning.colour Severity.warning.word
      = "\x1b[1m\x1b[35mwarning: \x1b[0m".toList := by decide
  have hstyled : (Session.overwriteDiagnostic name).styled ++ Text.newline
      = "'\x1b[1m".toList ++ name ++ "\x1b[0m' overwrites previous binding\n".toList := by
    have hfill : (Session.overwriteDiagnostic name).styled
        = ['\x27'] ++ Style.bold name ++ "' overwrites previous binding".toList :=
      Template.fill_around ..
    have hon : "'\x1b[1m".toList = ['\x27'] ++ "\x1b[1m".toList := by decide
    have hoff : "\x1b[0m' overwrites previous binding\n".toList
        = "\x1b[0m".toList ++ ("' overwrites previous binding".toList ++ Text.newline) := by decide
    simp only [hfill, Style.bold_eq, hon, hoff, List.append_assoc]
  have hexcerpt : excerpt ⟨.warning, [⟨path, line, number⟩], Session.overwriteDiagnostic name⟩
      = [] := by
    have hshows : (Session.overwriteDiagnostic name).showsExcerpt = false := Bool.and_false _
    rw [excerpt, hshows]
    rfl
  have htext : toText ⟨.warning, [⟨path, line, number⟩], Session.overwriteDiagnostic name⟩
      = lead ⟨.warning, [⟨path, line, number⟩], Session.overwriteDiagnostic name⟩
        ++ Style.paint Severity.warning.colour Severity.warning.word
        ++ ((Session.overwriteDiagnostic name).styled ++ Text.newline) := by
    rw [toText, hexcerpt, List.append_nil, List.append_assoc]
  unfold Session.overwriteText
  simp only [htext, hlead, hword, hstyled, List.append_assoc]

/-- An empty line is no statement. -/
theorem Stmt.ne_nil_of_infer {line : Text} {stmt : Stmt} (h : infer line = .ok stmt) :
    line ≠ [] := by
  rintro rfl
  cases h

namespace Session

open Agenda

/-! ## The statements of a run -/

/-- The step that executes `e` in a run that has executed the statements `before` until then. -/
def stepAt (session : Session) (reporter : Reporter) (before : List (Int × Queued))
    (e : Int × Queued) : Step :=
  let reached := executeAll before session reporter
  reached.session.execute reached.reporter e.1 e.2

variable {session : Session} {reporter : Reporter} {before after : List (Int × Queued)}
  {e : Int × Queued}

/-- A run that comes to a statement executes it, and then the rest unless this ends the program. -/
theorem run_at (h : session.queue.agenda = before ++ e :: after)
    (hreached : (executeAll before session reporter).answer ≠ .exit) :
    let reached := executeAll before session reporter
    let step := session.stepAt reporter before e
    session.run reporter =
      if step.answer = .exit then { step with messages := reached.messages ++ step.messages }
      else
        let last := executeAll after step.session step.reporter
        { last with messages := reached.messages ++ (step.messages ++ last.messages) } := by
  intro reached step
  have hrest : executeAll (e :: after) reached.session reached.reporter =
      if step.answer = .exit then step
      else
        let last := executeAll after step.session step.reporter
        { last with messages := step.messages ++ last.messages } := rfl
  rw [run, h, executeAll_append hreached]
  simp only [hrest, reached]
  by_cases hexit : step.answer = .exit
  · simp only [if_pos hexit]
  · simp only [if_neg hexit]

/-- What a run prints is what comes before a statement, what is printed of the statement, and what
    comes after it. -/
theorem run_printed_at (hfatal : reporter.fatal = false)
    (h : session.queue.agenda = before ++ e :: after) :
    let step := session.stepAt reporter before e
    (session.run reporter).printed = (executeAll before session reporter).printed
      ++ (step.printed ++ (executeAll after step.session step.reporter).printed) := by
  intro step
  have hreached := (executeAll_fatal before session reporter).trans hfatal
  have hbefore : (executeAll before session reporter).answer = .done := executeAll_answer _ _ hfatal
  have hstep : step.answer = .done := by
    show (Session.execute ..).answer = .done
    rw [execute_answer, if_neg (by simp [hreached])]
  rw [run_at h (by rw [hbefore]; decide), if_neg (by rw [hstep]; decide)]
  simp only [Step.printed, Message.transcript, List.flatMap_append]
  rfl

/-- The messages of a statement come from its line, whatever other sessions do with the reporter. -/
theorem stepAt_messages (hidle : reporter.Idle) :
    (session.stepAt reporter before e).messages
      = (e.2.stmt.effect.contents (session.bindings.storeAll (stores before))).map
          (Message.ofContent (Reporter.placesOf session.path ⟨e.2.line, e.1⟩)) := by
  have hreached := executeAll_idle before session hidle
  have hsession := executeAll_session before session reporter
  rw [executed_of_not_fatal hidle.goesOn] at hsession
  rw [stepAt, execute_messages, Reporter.places_registerLine (hreached.clearBut _), hsession]

/-- All that is printed of a statement is the warning that it overwrites a name, or its failure under
    the header of its line. -/
theorem stepAt_printed (hidle : reporter.Idle) (before : List (Int × Queued)) {e : Int × Queued}
    (hline : e.2.line ≠ []) :
    (session.stepAt reporter before e).printed =
      match e.2.stmt.effect with
      | .stores name _ =>
          if name ∈ (session.bindings.storeAll (stores before)).keys
            then overwriteText session.path e.1 name else []
      | .yields _ => []
      | .fails failure =>
          Place.header ⟨session.path, e.2.line, e.1⟩ ++ failure.diagnostic.errorText := by
  rw [Step.printed, stepAt_messages hidle, Reporter.placesOf_of_ne_nil hline]
  cases e.2.stmt.effect with
  | stores name n =>
      simp only [Effect.contents, Table.contains_iff]
      split
      · exact (List.append_nil _).trans (Message.toText_overwrite ..)
      · rfl
  | yields n => rfl
  | fails failure =>
      refine (List.append_nil _).trans ((Message.toText_error failure.internal_diagnostic _).trans ?_)
      rw [List.flatMap_cons, List.flatMap_nil, List.append_nil]

end Session

end LetCalc
