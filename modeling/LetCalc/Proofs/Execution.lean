import LetCalc.Proofs.Traceback
import LetCalc.Session

set_option autoImplicit false

/-! # Executing one statement

A statement stores a value under a name, yields a value, or fails; which of these, does not depend
on what is bound. The effect of a statement determines everything that executing it does to a
session and reports (`execute_session`, `execute_messages`), apart from the places that the reports
name. It is the same on every reporter: a fatal one only turns a failure into an exit
(`execute_answer`) and keeps the line at fault (`execute_reporter`). -/

namespace LetCalc

/-! ## Effects of statements -/

/-- What executing a statement comes to. -/
inductive Effect where
  | stores (name : Text) (n : Int)
  | yields (n : Int)
  | fails (failure : Failure)
deriving DecidableEq

/-- A binding stores the value of its expression, any other statement yields it, and both fail if
    there is none. -/
def Stmt.effect : Stmt → Effect
  | .binding name value =>
      match value.eval with
      | .ok n => .stores name n
      | .error failure => .fails failure
  | .expression value =>
      match value.eval with
      | .ok n => .yields n
      | .error failure => .fails failure

namespace Effect

/-- The name and the value that are stored. -/
def stored? : Effect → Option (Text × Int)
  | .stores name n => some (name, n)
  | _ => none

/-- The value that is yielded. -/
def yielded? : Effect → Option Int
  | .yields n => some n
  | _ => none

/-- The failure. -/
def failure? : Effect → Option Failure
  | .fails failure => some failure
  | _ => none

theorem stored?_eq_some_iff {effect : Effect} {s : Text × Int} :
    effect.stored? = some s ↔ effect = .stores s.1 s.2 := by
  cases effect <;> simp [stored?, Prod.ext_iff]

theorem yielded?_eq_some_iff {effect : Effect} {n : Int} :
    effect.yielded? = some n ↔ effect = .yields n := by
  cases effect <;> simp [yielded?]

end Effect

/-- Only a binding stores. -/
theorem Stmt.effect_eq_stores_iff {stmt : Stmt} {name : Text} {n : Int} :
    stmt.effect = .stores name n ↔ stmt.target? = some name ∧ stmt.body.eval = .ok n := by
  cases stmt with
  | binding target value =>
      simp only [effect, target?, body]
      cases value.eval <;> simp
  | expression value =>
      simp only [effect, target?, body]
      cases value.eval <;> simp

/-- Only what is no binding yields. -/
theorem Stmt.effect_eq_yields_iff {stmt : Stmt} {n : Int} :
    stmt.effect = .yields n ↔ stmt.target? = none ∧ stmt.body.eval = .ok n := by
  cases stmt with
  | binding target value =>
      simp only [effect, target?, body]
      cases value.eval <;> simp
  | expression value =>
      simp only [effect, target?, body]
      cases value.eval <;> simp

theorem Stmt.effect_eq_fails_iff {stmt : Stmt} {failure : Failure} :
    stmt.effect = .fails failure ↔ stmt.body.eval = .error failure := by
  cases stmt with
  | binding name value =>
      simp only [effect, body]
      cases value.eval <;> simp
  | expression value =>
      simp only [effect, body]
      cases value.eval <;> simp

/-- Executing the statement fails, whatever is bound. -/
def Stmt.fails (stmt : Stmt) : Bool := stmt.effect.failure?.isSome

/-- The bindings after storing the given values in the given order. -/
def Bindings.storeAll (bindings : Bindings) (stores : List (Text × Int)) : Bindings :=
  stores.foldl (fun b s => b.store s.1 s.2) bindings

theorem Bindings.storeAll_append (bindings : Bindings) (stores stores' : List (Text × Int)) :
    bindings.storeAll (stores ++ stores') = (bindings.storeAll stores).storeAll stores' :=
  List.foldl_append ..

theorem Stmt.exec_eq (stmt : Stmt) (bindings : Bindings) : stmt.exec bindings =
    match stmt.effect with
    | .stores name n => (.ok none, bindings.store name n)
    | .yields n => (.ok (some n), bindings)
    | .fails failure => (.error failure, bindings) := by
  cases stmt with
  | binding name value =>
      simp only [exec, effect, body, target?]
      cases value.eval <;> rfl
  | expression value =>
      simp only [exec, effect, body, target?]
      cases value.eval <;> rfl

/-! ## What is reported -/

/-- What a message says, whatever the places that it names. -/
def Message.content (message : Message) : Severity × Diagnostic :=
  (message.severity, message.diagnostic)

/-- The message that says this and comes from the given places. -/
def Message.ofContent (places : List Place) (content : Severity × Diagnostic) : Message :=
  ⟨content.1, places, content.2⟩

/-- What executing a statement with this effect reports: a failure, or that a name is overwritten
    which is already bound. -/
def Effect.contents (bindings : Bindings) : Effect → List (Severity × Diagnostic)
  | .stores name _ =>
      if bindings.contains name then [(.warning, Session.overwriteDiagnostic name)] else []
  | .yields _ => []
  | .fails failure => [(.error, failure.diagnostic)]

namespace Session

theorem overwriteWarnings_eq (bindings : Bindings) (reporter : Reporter) (stmt : Stmt) :
    overwriteWarnings bindings reporter stmt =
      (match stmt.target? with
      | some name =>
          if bindings.contains name then [(Severity.warning, overwriteDiagnostic name)] else []
      | none => []).map (Message.ofContent reporter.places) := by
  unfold overwriteWarnings overwritten?
  cases stmt.target? with
  | none => rfl
  | some name =>
      by_cases hname : bindings.contains name
      · simp [Option.filter, hname, Message.ofContent, Reporter.warning]
      · simp [Option.filter, hname]

/-! ## One step of a run -/

variable (session : Session) (reporter : Reporter) (number : Int) (queued : Queued)

theorem execute_session : (session.execute reporter number queued).session =
    { path := session.path
      bindings := session.bindings.storeAll queued.stmt.effect.stored?.toList
      queue := session.queue.erase number
      results := session.results ++ queued.stmt.effect.yielded?.toList } := by
  unfold execute
  rw [Stmt.exec_eq]
  cases queued.stmt.effect with
  | stores name n => simp [Bindings.storeAll, Effect.stored?, Effect.yielded?]
  | yields n => rfl
  | fails failure => simp [failing, Bindings.storeAll, Effect.stored?, Effect.yielded?]

theorem execute_path : (session.execute reporter number queued).session.path = session.path := by
  rw [execute_session]

theorem execute_messages : (session.execute reporter number queued).messages =
    (queued.stmt.effect.contents session.bindings).map
      (Message.ofContent (reporter.registerLine session.path queued.line number).places) := by
  unfold execute
  rw [Stmt.exec_eq]
  cases heffect : queued.stmt.effect with
  | stores name n =>
      simp only [overwriteWarnings_eq, (Stmt.effect_eq_stores_iff.1 heffect).1]
      rfl
  | yields n =>
      simp only [overwriteWarnings_eq, (Stmt.effect_eq_yields_iff.1 heffect).1]
      rfl
  | fails failure => rfl

theorem execute_contents : (session.execute reporter number queued).messages.map Message.content =
    queued.stmt.effect.contents session.bindings := by
  rw [execute_messages, List.map_map]
  exact List.map_id _

/-- Only on a fatal reporter a failure ends the program. -/
theorem execute_answer : (session.execute reporter number queued).answer =
    if reporter.fatal = true ∧ queued.stmt.fails = true then .exit else .done := by
  unfold execute Stmt.fails
  rw [Stmt.exec_eq]
  cases queued.stmt.effect with
  | stores name n => simp [Effect.failure?]
  | yields n => simp [Effect.failure?]
  | fails failure =>
      show (if (reporter.registerLine _ _ _).fatal then Answer.exit else .done) = _
      by_cases hfatal : reporter.fatal = true
      · simp [Effect.failure?, Reporter.registerLine, Reporter.register, hfatal]
      · simp [Effect.failure?, Reporter.registerLine, Reporter.register, hfatal]

/-! ## The reporter after a step -/

theorem execute_reporter : (session.execute reporter number queued).reporter =
    let working := reporter.registerLine session.path queued.line number
    if queued.stmt.fails = true then working.settled else working.removeLine session.path := by
  unfold execute Stmt.fails
  rw [Stmt.exec_eq]
  cases queued.stmt.effect <;> rfl

theorem execute_fatal :
    (session.execute reporter number queued).reporter.fatal = reporter.fatal := by
  rw [execute_reporter]
  split
  · exact Reporter.settled_fatal _
  · rfl

variable {session reporter}

theorem execute_clearBut (h : reporter.ClearBut session.path) :
    (session.execute reporter number queued).reporter.ClearBut
      (session.execute reporter number queued).session.path := by
  rw [execute_path, execute_reporter]
  have hworking := h.register (some ⟨queued.line, number⟩)
  split
  · exact hworking.settled
  · exact hworking.register none

theorem execute_idle (hfatal : reporter.fatal = false) (h : reporter.ClearBut session.path) :
    (session.execute reporter number queued).reporter.Idle := by
  rw [execute_reporter]
  split
  · exact Reporter.idle_settled hfatal
  · exact (h.register _).idle_removeLine hfatal

end Session

end LetCalc
