import LetCalc.Diagnostic
import LetCalc.Session

set_option autoImplicit false

/-! # The notices behind failures and warnings

Every failure of the language is reported by a notice, and so is the overwriting of a binding. None of
these notices is badly made, and the texts that fill them are copied as they stand: braces and digits
in them are never read as fields (`Failure.notice_diagnostic`, `Session.overwriteNotice_diagnostic`).
This comes of what their templates are: a field without a number between two texts without braces
(`Template.read_around`). -/

namespace LetCalc

namespace Template

/-- The text has no braces. -/
def Plain (t : Text) : Prop := ∀ c ∈ t, c ≠ openingBrace ∧ c ≠ closingBrace

instance (t : Text) : Decidable (Plain t) := List.decidableBAll ..

variable {α : Type} {char : Char → List α} {slot : Nat → Except Fault (List α)}
  {numbering : Numbering}

/-- Text without braces is gone through character by character. -/
theorem scanFrom_append {t : Text} (h : Plain t) (rest : Text) :
    scanFrom char slot .message numbering (t ++ rest)
      = (scanFrom char slot .message numbering rest).map (t.flatMap char ++ ·) := by
  induction t with
  | nil =>
      show scanFrom char slot .message numbering rest = _
      cases scanFrom char slot .message numbering rest <;> rfl
  | cons c t ih =>
      obtain ⟨⟨hopening, hclosing⟩, ht⟩ := List.forall_mem_cons.1 h
      rw [List.cons_append, scanFrom, if_neg hopening, if_neg hclosing, ih ht]
      cases scanFrom char slot .message numbering rest with
      | error fault => rfl
      | ok tail => exact congrArg Except.ok (List.append_assoc ..).symm

/-- A field without a number between two texts, in the notation for templates. -/
def aroundText (before after : Text) : Text := before ++ openingBrace :: closingBrace :: after

theorem scan_around {before after : Text} (hbefore : Plain before) (hafter : Plain after) :
    scanFrom char slot .message .undecided (aroundText before after)
      = (slot 0).map fun t => before.flatMap char ++ (t ++ after.flatMap char) := by
  have hscan := @scanFrom_append α char slot (.automatic 1) after hafter []
  rw [List.append_nil, scanFrom] at hscan
  have hfield : scanFrom char slot .message .undecided (openingBrace :: closingBrace :: after)
      = (slot 0).map (· ++ after.flatMap char) := by
    rw [scanFrom, if_pos rfl, scanFrom, if_neg (by decide), if_pos rfl]
    show (slot 0 >>= fun t => scanFrom char slot .message (.automatic 1) after >>= fun u =>
      .ok (t ++ u)) = _
    rw [hscan]
    show (slot 0 >>= fun t => Except.ok (t ++ (after.flatMap char ++ []))) = _
    rw [List.append_nil]
    cases slot 0 <;> rfl
  rw [aroundText, scanFrom_append hbefore, hfield]
  cases slot 0 <;> rfl

theorem read_around {before after : Text} (hbefore : Plain before) (hafter : Plain after) :
    read 1 (aroundText before after) = .ok (around before after) := by
  have hofText (t : Text) : (t.flatMap fun c => [Segment.char c]) = (ofText t : Template 1) :=
    List.map_eq_flatMap.symm
  rw [read, scan_around hbefore hafter, hofText, hofText]
  rfl

end Template

/-! ## Notices on one text -/

namespace Notice

theorem get_singleton (subject : Text) : List.get [subject] = fun _ : Fin 1 => subject := by
  funext i
  match i with
  | 0 => rfl

theorem diagnostic_of_read {notice : Notice} {subject : Text}
    {template : Template notice.expressions.length}
    (hread : Template.read notice.expressions.length notice.template = .ok template)
    (hsubject : notice.expressions.head? = some subject) :
    notice.diagnostic = .ok
      { Diagnostic.compose template notice.expressions.get subject with
        start := notice.start
        stop := if notice.stop = -1 then (subject.length : Int) else notice.stop
        excerpt := notice.excerpt
        internal := notice.internal } := by
  unfold diagnostic
  rw [hread, hsubject]

/-- A notice on the only text that it is about. -/
def on (template subject : Text) (stop : Int) (excerpt : Bool) : Notice :=
  ⟨template, [subject], 0, stop, excerpt, false⟩

/-- Whatever the text is, it is copied into the only field of the template. -/
theorem diagnostic_on {before after : Text} (hbefore : Template.Plain before)
    (hafter : Template.Plain after) (subject : Text) (stop : Int) (excerpt : Bool) :
    (on (Template.aroundText before after) subject stop excerpt).diagnostic = .ok
      { Diagnostic.compose (.around before after) (fun _ => subject) subject with
        stop := if stop = -1 then (subject.length : Int) else stop
        excerpt := excerpt } := by
  let notice := on (Template.aroundText before after) subject stop excerpt
  have hdiagnostic := @diagnostic_of_read notice subject _ (Template.read_around hbefore hafter) rfl
  rw [hdiagnostic]
  exact congrArg (fun args : Fin 1 → Text => Except.ok
    { Diagnostic.compose (.around before after) args subject with
      stop := if stop = -1 then (subject.length : Int) else stop
      excerpt := excerpt }) (get_singleton subject)

end Notice

/-! ## The notices of failures and warnings -/

open Template (aroundText)

/-- The notice of a failure. -/
def Failure.notice : Failure → Notice
  | .malformed what _ => .on (aroundText "expected ".toList []) what 0 false
  | .overflow shown =>
      .on (aroundText ['\x27'] "' overflows a 32-bit integer".toList) shown (-1) false
  | .divisionByZero [] => .on "division by zero".toList [] (-1) false
  | .divisionByZero (c :: rest) =>
      .on (aroundText ['\x27'] "' divides by zero".toList) (c :: rest) (-1) true
  | .unboundName name =>
      .on (aroundText "binding with name '".toList "' does not exist".toList) name (-1) false

/-- The notice of a binding that overwrites another. -/
def Session.overwriteNotice (name : Text) : Notice :=
  .on (aroundText ['\x27'] "' overwrites previous binding".toList) name (-1) false

theorem Failure.notice_diagnostic (failure : Failure) :
    failure.notice.diagnostic = .ok failure.diagnostic := by
  cases failure with
  | malformed what remainder => exact Notice.diagnostic_on (by decide) (by decide) what 0 false
  | overflow shown => exact Notice.diagnostic_on (by decide) (by decide) shown (-1) false
  | divisionByZero expression =>
      cases expression with
      | nil => rfl
      | cons c rest => exact Notice.diagnostic_on (by decide) (by decide) (c :: rest) (-1) true
  | unboundName name => exact Notice.diagnostic_on (by decide) (by decide) name (-1) false

theorem Session.overwriteNotice_diagnostic (name : Text) :
    (overwriteNotice name).diagnostic = .ok (overwriteDiagnostic name) :=
  Notice.diagnostic_on (by decide) (by decide) name (-1) false

end LetCalc
