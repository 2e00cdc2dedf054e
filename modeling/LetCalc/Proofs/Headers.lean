import LetCalc.Proofs.Reports

set_option autoImplicit false

/-! # Where errors are said to come from

An error report starts with a header for the line that failed, under the path of the session, and
with no other: whatever the sessions on the reporter did before, they left no line registered. The
one line without a header is the empty line, which an addition refuses: an entry of the traceback
counts as a place only if its line is not empty, and the entry of an empty line looks like one
without a line (`empty_line_without_header`). No empty line is ever queued, so a run reports no
error without its header. -/

namespace LetCalc

namespace Session

variable {session : Session} {reporter : Reporter}

/-- What an addition prints. -/
theorem add_printed (hidle : reporter.Idle) (line : Text) (number : Int) :
    (session.add reporter line number).printed =
      match Stmt.infer line with
      | .ok _ => []
      | .error failure =>
          (if line = [] then [] else Place.header ⟨session.path, line, number⟩)
            ++ (failure.diagnosticIn (Stmt.trimmed line)).errorText := by
  rw [Step.printed, add_messages, Reporter.places_registerLine (hidle.clearBut _)]
  cases Stmt.infer line with
  | ok stmt => rfl
  | error failure =>
      have hinternal := failure.internal_diagnosticIn (Stmt.trimmed line)
      show Message.toText _ ++ [] = _ ++ Diagnostic.errorText _
      rw [List.append_nil, Message.toText_error hinternal, Reporter.headers_placesOf]

end Session

namespace Workspace

open Session (Command)

/-- After any history, on a reporter that is not fatal and whoever else uses it: what an addition
    prints of a line that cannot be read, and what a run prints of a statement that fails, is one
    header with the path of the session, the line and its number, and then the error. Only if the
    line is empty there is no header, and no line of a run is. -/
theorem failures_headed (paths : List Text) (history : List (Nat × Command))
    (position : Fin paths.length) (line : Text) (number : Int) :
    let shared := (create false paths).perform history
    let reporter := shared.2.reporter
    ∃ session, shared.2.sessions[position.val]? = some session ∧
      ((session.add reporter line number).printed =
        match Stmt.infer line with
        | .ok _ => []
        | .error failure =>
            (if line = [] then []
              else "  File '".toList ++ paths.get position ++ "', line ".toList
                ++ Decimal.ofInt number ++ ":\n    ".toList ++ line ++ ['\n'])
              ++ (failure.diagnosticIn (Stmt.trimmed line)).errorText) ∧
      ∀ before e after failure, session.queue.agenda = before ++ e :: after →
        e.2.stmt.effect = .fails failure →
        let step := session.stepAt reporter before e
        (session.run reporter).printed = (Session.executeAll before session reporter).printed
            ++ (step.printed ++ (Session.executeAll after step.session step.reporter).printed) ∧
          step.printed = "  File '".toList ++ paths.get position ++ "', line ".toList
            ++ Decimal.ofInt e.1 ++ ":\n    ".toList ++ e.2.line ++ ['\n']
            ++ failure.diagnostic.errorText := by
  intro shared reporter
  have hidle : reporter.Idle := idle_perform history (idle_create paths)
  obtain ⟨session, hsession, hsound, -⟩ := perform_tracks false paths history position
  have hpath := path_of_session hsession
  refine ⟨session, hsession, ?_, ?_⟩
  · rw [Session.add_printed hidle, hpath]
    rfl
  · intro before e after failure hagenda heffect step
    have he : e ∈ session.queue.entries := session.queue.agenda_perm.mem_iff.1 (by simp [hagenda])
    have hline : e.2.line ≠ [] := Stmt.ne_nil_of_infer (hsound.queue e he)
    have hprinted := @Session.stepAt_printed session _ hidle before e hline
    rw [heffect, hpath] at hprinted
    exact ⟨Session.run_printed_at hidle.goesOn hagenda, hprinted⟩

/-- The empty line cannot be read, and what is printed of it does not start with its header. -/
theorem empty_line_without_header :
    let reporter := (create false [Session.inputPath]).reporter
    let added := (Session.fresh Session.inputPath).add reporter [] 1
    (∃ failure, Stmt.infer [] = .error failure) ∧
      ¬ Place.header ⟨Session.inputPath, [], 1⟩ <+: added.printed :=
  ⟨⟨_, rfl⟩, by decide +kernel⟩

end Workspace

end LetCalc
