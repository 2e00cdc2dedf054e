import LetCalc.Proofs.Reports

set_option autoImplicit false

/-! # Warnings that a name is overwritten

Every value that is stored either makes a new entry or is warned about. So at every point of a
history, in the middle of a run as well, the warnings that a session has printed and the names that
it has bound are together as many as the values that it has stored (`Session.perform_warnings`).
Which statements are warned about is told from the statements before them: those that store under a
name under which one of them has stored (`mem_keys_storeAll`). -/

namespace LetCalc

/-! ## Stored names -/

theorem Table.size_insert {κ ν : Type} [DecidableEq κ] (t : Table κ ν) (k : κ) (v : ν) :
    (t.insert k v).size = if t.contains k = true then t.size else t.size + 1 := by
  rw [← length_keys, keys_insert, ← length_keys]
  by_cases hk : k ∈ t.keys
  · rw [if_pos hk, if_pos (contains_iff.2 hk)]
  · rw [if_neg hk, if_neg (mt contains_iff.1 hk), List.length_append]
    rfl

/-- The names are those that were there before and those that were stored. -/
theorem Bindings.mem_keys_storeAll {bindings : Bindings} {stores : List (Text × Int)}
    {name : Text} : name ∈ (bindings.storeAll stores).keys ↔
      name ∈ bindings.keys ∨ name ∈ stores.map Prod.fst := by
  induction stores generalizing bindings with
  | nil => simp [storeAll]
  | cons s rest ih =>
      show name ∈ (storeAll (bindings.store s.1 s.2) rest).keys ↔ _
      rw [ih, store, Table.keys_insert, List.map_cons, List.mem_cons, ← or_assoc]
      refine or_congr_left ?_
      by_cases hs : s.1 ∈ bindings.keys
      · rw [if_pos hs]
        refine ⟨Or.inl, fun h => h.elim id ?_⟩
        rintro rfl
        exact hs
      · rw [if_neg hs, List.mem_append, List.mem_singleton]

/-! ## Counting warnings -/

/-- The warnings among messages. -/
def Message.warnings (messages : List Message) : List Message :=
  messages.filter fun message => message.severity = .warning

open Message (warnings)

theorem Message.warnings_append (messages messages' : List Message) :
    warnings (messages ++ messages') = warnings messages ++ warnings messages' :=
  List.filter_append ..

theorem Message.length_warnings (messages : List Message) : (warnings messages).length
    = ((messages.map content).filter fun content => content.1 = .warning).length := by
  rw [List.filter_map, List.length_map]
  rfl

/-- A value that is stored makes a new entry or is warned about. -/
theorem Effect.count_contents (effect : Effect) (bindings : Bindings) :
    ((effect.contents bindings).filter fun content => content.1 = .warning).length
        + (bindings.storeAll effect.stored?.toList).size
      = bindings.size + effect.stored?.toList.length := by
  cases effect with
  | stores name n =>
      show _ + (bindings.insert name n).size = bindings.size + 1
      rw [Table.size_insert, contents]
      split
      · exact Nat.add_comm ..
      · exact Nat.zero_add _
  | yields n => exact Nat.zero_add _
  | fails failure => exact Nat.zero_add _

namespace Agenda

theorem count_contents (bindings : Bindings) (es : List (Int × Queued)) :
    ((contents bindings es).filter fun content => content.1 = .warning).length
        + (bindings.storeAll (stores es)).size
      = bindings.size + (stores es).length := by
  induction es generalizing bindings with
  | nil => simp [contents, stores, Bindings.storeAll]
  | cons e rest ih =>
      have hfirst := e.2.stmt.effect.count_contents bindings
      have hrest := ih (bindings.storeAll (stores [e]))
      rw [stores_singleton] at hrest
      rw [contents, List.filter_append, List.length_append, stores_singleton, stores_cons,
        Bindings.storeAll_append, List.length_append]
      omega

end Agenda

namespace Session

open Agenda

variable {session : Session} {reporter : Reporter}

/-! ## Warnings of a session -/

theorem executeAll_warnings (es : List (Int × Queued)) (session : Session) (reporter : Reporter) :
    (warnings (executeAll es session reporter).messages).length
        + (executeAll es session reporter).session.bindings.size
      = session.bindings.size + (stores (executed reporter.fatal es)).length := by
  rw [Message.length_warnings, executeAll_contents, executeAll_session]
  exact count_contents _ _

theorem perform_bindings (session : Session) (reporter : Reporter) (command : Command) :
    (session.perform reporter command).session.bindings
      = session.bindings.storeAll (stores (session.executions reporter.fatal command)) := by
  cases command with
  | add line number =>
      show (session.add reporter line number).session.bindings = _
      rw [add_frame]
      rfl
  | run =>
      show (session.run reporter).session.bindings = _
      rw [run, executeAll_session]
      rfl
  | pop =>
      show (session.pop reporter).session.bindings = _
      rw [pop_frame]
      rfl
  | lookup name =>
      show (session.lookup reporter name).session.bindings = _
      rw [lookup_session]
      rfl

theorem warnings_of_ne_run (session : Session) (reporter : Reporter) {command : Command}
    (h : command ≠ .run) : warnings (session.perform reporter command).messages = [] := by
  cases command with
  | add line number =>
      show warnings (session.add reporter line number).messages = []
      rw [add_messages]
      cases Stmt.infer line <;> rfl
  | run => exact absurd rfl h
  | pop =>
      show warnings (session.pop reporter).messages = []
      unfold pop
      cases session.results.getLast? <;> rfl
  | lookup name =>
      show warnings (session.lookup reporter name).messages = []
      unfold lookup
      cases session.bindings.lookup name <;> rfl

/-- A command warns as often as it stores a value without making a new entry. -/
theorem perform_warnings (session : Session) (reporter : Reporter) (command : Command) :
    (warnings (session.perform reporter command).messages).length
        + (session.perform reporter command).session.bindings.size
      = session.bindings.size + (stores (session.executions reporter.fatal command)).length := by
  by_cases hrun : command = .run
  · subst hrun
    exact executeAll_warnings _ _ _
  · have hnone : session.executions reporter.fatal command = [] := by
      cases command with
      | run => exact absurd rfl hrun
      | add | pop | lookup => rfl
    rw [session.warnings_of_ne_run reporter hrun, session.perform_bindings, hnone]
    exact Nat.zero_add _

/-- The text of what is warned about a statement: that it stores under a name which is bound when
    the run comes to it. -/
theorem stepAt_warnings (hidle : reporter.Idle) (before : List (Int × Queued)) {e : Int × Queued}
    (hline : e.2.line ≠ []) :
    (warnings (session.stepAt reporter before e).messages).map Message.toText =
      match e.2.stmt.effect with
      | .stores name _ =>
          if name ∈ (session.bindings.storeAll (stores before)).keys
            then [overwriteText session.path e.1 name] else []
      | .yields _ | .fails _ => [] := by
  rw [stepAt_messages hidle, Reporter.placesOf_of_ne_nil hline]
  cases e.2.stmt.effect with
  | stores name n =>
      simp only [Effect.contents, Table.contains_iff]
      split
      · exact congrArg ([·]) (Message.toText_overwrite ..)
      · rfl
  | yields n => rfl
  | fails failure => rfl

end Session

namespace Workspace

open Session (Command)
open Agenda (stores)

/-! ## Histories -/

/-- The messages of the session at a position. -/
def messagesOf (position : Nat) (steps : List (Nat × Step)) : List Message :=
  (steps.filter fun entry => entry.1 = position).flatMap fun entry => entry.2.messages

theorem messagesOf_perform (workspace : Workspace) (position : Nat)
    (history : List (Nat × Command)) : messagesOf position (workspace.perform history).1
      = (turnsOf position (workspace.turns history)).flatMap fun turn => turn.step.messages := by
  rw [perform_steps, messagesOf, List.filter_map, List.flatMap_map]
  rfl

/-- The statements that were executed in turns, in the order in which they were executed. -/
def executionsIn (fatal : Bool) (turns : List Turn) : List (Int × Queued) :=
  turns.flatMap fun turn => turn.session.executions fatal turn.command

/-- After a history the bindings of a session are what its statements have stored, and what did not
    make a new entry was warned about. -/
theorem perform_overwrites (fatal : Bool) (paths : List Text) (history : List (Nat × Command))
    (position : Fin paths.length) :
    let shared := (create fatal paths).perform history
    let done := executionsIn fatal (turnsOf position ((create fatal paths).turns history))
    ∃ session, shared.2.sessions[position.val]? = some session ∧
      session.bindings = Bindings.storeAll ∅ (stores done) ∧
      (warnings (messagesOf position shared.1)).length + session.bindings.size
        = (stores done).length := by
  intro shared done
  let Holds (turns : List Turn) (session : Session) : Prop :=
    session.bindings = Bindings.storeAll ∅ (stores (executionsIn fatal turns)) ∧
      (warnings (turns.flatMap fun turn => turn.step.messages)).length + session.bindings.size
        = (stores (executionsIn fatal turns)).length
  have hturn : ∀ turns session reporter command, reporter.fatal = fatal → Holds turns session →
      let step := session.perform reporter command
      Holds (turns ++ [⟨position, session, command, step⟩]) step.session := by
    rintro turns session reporter command rfl ⟨hbindings, hcount⟩
    have hstores : stores (executionsIn reporter.fatal (turns
        ++ [⟨position, session, command, session.perform reporter command⟩]))
          = stores (executionsIn reporter.fatal turns)
            ++ stores (session.executions reporter.fatal command) := by
      simp [executionsIn, Agenda.stores_append]
    refine ⟨?_, ?_⟩
    · rw [hstores, session.perform_bindings, hbindings, Bindings.storeAll_append]
    · -- The equations before the turn and of the turn add up.
      have hstep := session.perform_warnings reporter command
      rw [hstores, List.flatMap_append, Message.warnings_append, List.length_append,
        List.length_append]
      simp only [List.flatMap_cons, List.flatMap_nil, List.append_nil]
      omega
  obtain ⟨session, hsession, hbindings, hcount⟩ := perform_preserves hturn history
    (create_fatal fatal paths) (create_session fatal paths position) ⟨rfl, rfl⟩
  refine ⟨session, hsession, hbindings, ?_⟩
  rw [messagesOf_perform]
  exact hcount

end Workspace

end LetCalc
