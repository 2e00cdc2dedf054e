import LetCalc.Proofs.Traceback
import LetCalc.Reporter

set_option autoImplicit false

/-! # What actions leave of the traceback

There are two ways to change a traceback. An action may name a path and write its entry, and an error
of the language that is raised on a reporter that goes on takes all lines back. `Reporter.Performs`
says this of one action, with all that it prints and how it ends: every other action leaves the
reporter as it is, and so does one that is badly made, or that ends the program. For a history of
actions it follows which paths there are, and in which order (`Reporter.keys_after`), and that the
entry of a path is what was written last, unless all lines were taken back after that
(`Reporter.get?_after_of_not_named`). -/

namespace LetCalc.Reporter

/-! ## What an action asks for -/

namespace Action

/-- The entry that an action writes: the path, and the line under it from then on. -/
def written? : Action → Option (Text × Option Origin)
  | .registerFile path | .removeLine path => some (path, none)
  | .registerLine path line number => some (path, some ⟨line, number⟩)
  | .warn _ | .raise _ | .report _ | .guard _ => none

/-- The path that an action names. -/
def named? (action : Action) : Option Text := action.written?.map Prod.fst

/-- The problem that an action raises, or that interrupts its block. -/
def raised? : Action → Option Problem
  | .raise problem | .guard (some (.problem problem)) => some problem
  | .guard none | .guard (some (.exit _)) | .guard (some (.foreign _ _)) => none
  | .registerFile _ | .registerLine _ _ _ | .removeLine _ | .warn _ | .report _ => none

/-- The diagnostic that has to be made for an action before anything else is done. -/
def made? : Action → Option (Except Notice.Fault Diagnostic)
  | .warn made => some made
  | .raise problem | .report problem | .guard (some (.problem problem)) => some problem.diagnostic
  | .guard none | .guard (some (.exit _)) | .guard (some (.foreign _ _)) => none
  | .registerFile _ | .registerLine _ _ _ | .removeLine _ => none

/-- The action takes all lines back: it raises a problem that is well made, and the reporter goes
    on after errors. -/
def resets (fatal : Bool) (action : Action) : Bool :=
  !fatal && action.raised?.any fun problem => problem.diagnostic.isOk

end Action

/-! ## What an action comes to -/

/-- What a reporter makes of an action. -/
inductive Performs (reporter : Reporter) : Action → Outcome → Prop where
  /-- An entry is written. -/
  | writes {action : Action} {path : Text} {origin : Option Origin}
      (h : action.written? = some (path, origin)) :
      Performs reporter action ⟨[], reporter.register path origin, .done⟩
  /-- What is badly made has no effect. -/
  | refuses {action : Action} {fault : Notice.Fault} (h : action.made? = some (.error fault)) :
      Performs reporter action ⟨[], reporter, .refused fault⟩
  | warns {made : Except Notice.Fault Diagnostic} {d : Diagnostic} (h : made = .ok d) :
      Performs reporter (.warn made) ⟨[reporter.warning d], reporter, .done⟩
  | reports {problem : Problem} {d : Diagnostic} (h : problem.diagnostic = .ok d) :
      Performs reporter (.report problem) ⟨[reporter.report d], reporter, .done⟩
  /-- On a fatal reporter an error is reported, and then the program ends. -/
  | exits {action : Action} {problem : Problem} {d : Diagnostic} (hfatal : reporter.fatal = true)
      (h : action.raised? = some problem) (hd : problem.diagnostic = .ok d) :
      Performs reporter action ⟨[reporter.report d], reporter, .exit 1⟩
  /-- On any other reporter an error is reported, and then all lines are taken back. -/
  | settles {problem : Problem} {d : Diagnostic} (hfatal : reporter.fatal = false)
      (hd : problem.diagnostic = .ok d) :
      Performs reporter (.raise problem) ⟨[reporter.report d], reporter.reset, .done⟩
  | suppresses {problem : Problem} {d : Diagnostic} (hfatal : reporter.fatal = false)
      (hd : problem.diagnostic = .ok d) :
      Performs reporter (.guard (some (.problem problem)))
        ⟨[reporter.report d], reporter.reset, .suppressed⟩
  | runsThrough : Performs reporter (.guard none) ⟨[], reporter, .clean⟩
  /-- An exit passes through, and nothing is printed. -/
  | passesExit {code : Int} :
      Performs reporter (.guard (some (.exit code))) ⟨[], reporter, .exit code⟩
  /-- What is no error of the language is reported as internal and passes through as it is. -/
  | passesOn {kind message : Text} {d : Diagnostic} (hinternal : d.internal = true)
      (hmessage : d.message = "unknown error: '".toList ++ (kind ++ [':', ' '] ++ message)
        ++ ['\x27']) :
      Performs reporter (.guard (some (.foreign kind message)))
        ⟨[reporter.report d], reporter, .escaped kind message⟩

variable {reporter : Reporter} {action : Action}

/-- Raising a problem ends in one of two ways, and a problem that is badly made is not raised. -/
theorem performs_raise {problem : Problem} {calm : Ending} (hraised : action.raised? = some problem)
    (hmade : action.made? = some problem.diagnostic)
    (hcalm : reporter.fatal = false → ∀ d, problem.diagnostic = .ok d →
      Performs reporter action ⟨[reporter.report d], reporter.reset, calm⟩) :
    Performs reporter action
      (reporter.withDiagnostic problem.diagnostic (reporter.raise calm)) := by
  cases hd : problem.diagnostic with
  | error fault => exact .refuses (hmade.trans (congrArg some hd))
  | ok d =>
      show Performs reporter action (reporter.raise calm d)
      by_cases hfatal : reporter.fatal = true
      · have houtcome : reporter.raise calm d = ⟨[reporter.report d], reporter, .exit 1⟩ := by
          simp [raise, settled, hfatal]
        rw [houtcome]
        exact .exits hfatal hraised hd
      · rw [Bool.not_eq_true] at hfatal
        have houtcome : reporter.raise calm d = ⟨[reporter.report d], reporter.reset, calm⟩ := by
          simp [raise, settled, hfatal]
        rw [houtcome]
        exact hcalm hfatal d hd

theorem performs (reporter : Reporter) (action : Action) :
    Performs reporter action (reporter.perform action) := by
  rcases action with path | ⟨path, line, number⟩ | path | made | problem | problem | incident
  · exact .writes rfl
  · exact .writes rfl
  · exact .writes rfl
  · show Performs reporter _ (reporter.withDiagnostic made _)
    cases made with
    | error fault => exact .refuses rfl
    | ok d => exact .warns rfl
  · exact performs_raise rfl rfl fun hfatal d hd => .settles hfatal hd
  · show Performs reporter _ (reporter.withDiagnostic problem.diagnostic _)
    cases hd : problem.diagnostic with
    | error fault => exact .refuses (congrArg some hd)
    | ok d => exact .reports hd
  · rcases incident with _ | problem | code | ⟨kind, message⟩
    · exact .runsThrough
    · exact performs_raise rfl rfl fun hfatal d hd => .suppresses hfatal hd
    · exact .passesExit
    · exact .passesOn rfl (Template.fill_around ..)

/-! ## What an action changes -/

/-- An action that makes a diagnostic first writes no entry. -/
theorem Action.written?_of_made {made : Except Notice.Fault Diagnostic}
    (h : action.made? = some made) : action.written? = none := by
  unfold made? at h
  split at h <;> simp_all [written?]

theorem Action.made?_of_raised {problem : Problem} (h : action.raised? = some problem) :
    action.made? = some problem.diagnostic := by
  unfold raised? at h
  split at h <;> simp_all [made?]

theorem Action.exists_made_of_resets {fatal : Bool} (h : action.resets fatal = true) :
    ∃ d, action.made? = some (.ok d) := by
  simp only [resets, Bool.and_eq_true, Option.any_eq_true] at h
  obtain ⟨-, problem, hraised, hok⟩ := h
  cases hd : problem.diagnostic with
  | error fault => simp [hd, Except.isOk, Except.toBool] at hok
  | ok d => exact ⟨d, by rw [made?_of_raised hraised, hd]⟩

theorem Action.resets_of_fault {fault : Notice.Fault} (h : action.made? = some (.error fault))
    (fatal : Bool) : action.resets fatal = false := by
  rw [Bool.eq_false_iff]
  intro hresets
  obtain ⟨d, hd⟩ := exists_made_of_resets hresets
  simp [h] at hd

theorem Action.resets_of_written {entry : Text × Option Origin} (h : action.written? = some entry)
    (fatal : Bool) : action.resets fatal = false := by
  rw [Bool.eq_false_iff]
  intro hresets
  obtain ⟨d, hd⟩ := exists_made_of_resets hresets
  simp [written?_of_made hd] at h

/-- An entry is written, or all lines are taken back, or the reporter stays as it is. -/
theorem perform_reporter (reporter : Reporter) (action : Action) :
    (reporter.perform action).reporter =
      match action.written? with
      | some (path, origin) => reporter.register path origin
      | none => if action.resets reporter.fatal then reporter.reset else reporter := by
  have hperforms := performs reporter action
  generalize reporter.perform action = outcome at hperforms ⊢
  cases hperforms with
  | writes h => simp [h]
  | refuses h => simp [Action.written?_of_made h, Action.resets_of_fault h]
  | exits hfatal h hd =>
      simp [Action.written?_of_made (Action.made?_of_raised h), Action.resets, hfatal]
  | settles hfatal hd | suppresses hfatal hd =>
      simp [Action.written?, Action.resets, Action.raised?, hfatal, hd, Except.isOk, Except.toBool]
  | warns | reports | runsThrough | passesExit | passesOn =>
      simp [Action.written?, Action.resets, Action.raised?]

theorem perform_fatal (reporter : Reporter) (action : Action) :
    (reporter.perform action).reporter.fatal = reporter.fatal := by
  rw [perform_reporter]
  split
  · rfl
  · split <;> rfl

theorem keys_perform {paths : List Text} (h : reporter.traceback.keys = paths.eraseDups)
    (action : Action) : (reporter.perform action).reporter.traceback.keys
      = (paths ++ action.named?.toList).eraseDups := by
  rw [perform_reporter, Action.named?]
  cases action.written? with
  | none =>
      have hkeys : reporter.reset.traceback.keys = paths.eraseDups :=
        (Table.keys_mapValues _ _).trans h
      simp only [Option.map_none, Option.toList_none, List.append_nil]
      split
      · exact hkeys
      · exact h
  | some entry => exact Table.keys_insert_eraseDups h entry.1 entry.2

theorem get?_perform_of_written {path : Text} {origin : Option Origin}
    (h : action.written? = some (path, origin)) (reporter : Reporter) :
    (reporter.perform action).reporter.traceback.get? path = some origin := by
  rw [perform_reporter, h]
  simp [register]

/-- An action that does not name a path changes its entry only if it takes all lines back. -/
theorem get?_perform_of_not_named {path : Text} (h : action.named? ≠ some path)
    {origin : Option Origin} (hentry : reporter.traceback.get? path = some origin) :
    (reporter.perform action).reporter.traceback.get? path
      = some (if action.resets reporter.fatal then none else origin) := by
  rw [perform_reporter]
  rw [Action.named?] at h
  cases hwritten : action.written? with
  | none =>
      by_cases hresets : action.resets reporter.fatal = true
      · simp [hresets, reset, hentry]
      · simp [hresets, hentry]
  | some entry =>
      have hpath : path ≠ entry.1 := by
        rintro rfl
        simp [hwritten] at h
      have hresets : action.resets reporter.fatal = false := Action.resets_of_written hwritten _
      simp [hresets, register, hpath, hentry]

/-! ## Histories of actions -/

/-- The reporter after a history of actions. -/
def after (reporter : Reporter) (history : List Action) : Reporter :=
  history.foldl (fun reporter action => (reporter.perform action).reporter) reporter

theorem after_cons (reporter : Reporter) (action : Action) (history : List Action) :
    reporter.after (action :: history) = (reporter.perform action).reporter.after history := rfl

theorem after_append (reporter : Reporter) (before later : List Action) :
    reporter.after (before ++ later) = (reporter.after before).after later := List.foldl_append

theorem after_fatal (reporter : Reporter) (history : List Action) :
    (reporter.after history).fatal = reporter.fatal := by
  induction history generalizing reporter with
  | nil => rfl
  | cons action rest ih => rw [after_cons, ih, perform_fatal]

/-- The paths of a traceback are those that were named, in the order in which they were named
    first. -/
theorem keys_after {paths : List Text} (h : reporter.traceback.keys = paths.eraseDups)
    (history : List Action) : (reporter.after history).traceback.keys
      = (paths ++ history.filterMap Action.named?).eraseDups := by
  induction history generalizing reporter paths with
  | nil => simpa [after] using h
  | cons action rest ih =>
      rw [after_cons, ih (keys_perform h action), List.append_assoc]
      cases hnamed : action.named? with
      | none => simp [hnamed]
      | some path => simp [hnamed]

/-- As long as no action names a path, its entry stays the same, unless an action takes all lines
    back. -/
theorem get?_after_of_not_named {path : Text} {history : List Action}
    (h : ∀ action ∈ history, action.named? ≠ some path) {origin : Option Origin}
    (hentry : reporter.traceback.get? path = some origin) :
    (reporter.after history).traceback.get? path
      = some (if history.any (·.resets reporter.fatal) then none else origin) := by
  induction history generalizing reporter origin with
  | nil => simpa [after] using hentry
  | cons action rest ih =>
      obtain ⟨haction, hrest⟩ := List.forall_mem_cons.1 h
      rw [after_cons, ih hrest (get?_perform_of_not_named haction hentry), perform_fatal,
        List.any_cons]
      by_cases hresets : action.resets reporter.fatal = true <;> simp [hresets]

theorem keys_after_fresh (fatal : Bool) (history : List Action) :
    ((fresh fatal).after history).traceback.keys
      = (history.filterMap Action.named?).eraseDups := by
  have hkeys : (fresh fatal).traceback.keys = ([] : List Text).eraseDups := rfl
  rw [keys_after hkeys, List.nil_append]

end LetCalc.Reporter
