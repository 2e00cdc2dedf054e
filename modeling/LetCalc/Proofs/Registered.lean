import LetCalc.Proofs.Histories

set_option autoImplicit false

/-! # Which lines stay registered

A session registers every line before it works on it, and takes it back when that went well. So with
the paths of the sessions registered at the start, no other path is ever added and none is lost
(`perform_keys`). Between commands no line is registered on a reporter that is not fatal. On a fatal
one the lines that are registered are those at which the work under their path was left
(`perform_lineAt`). Both together give the whole traceback (`perform_traceback`). -/

namespace LetCalc

/-! ## The paths of a traceback -/

namespace Reporter

theorem entries_eq (reporter : Reporter) : reporter.traceback.entries
    = reporter.traceback.keys.map fun path => (path, reporter.lineAt path) := by
  rw [Table.keys, List.map_map]
  refine (List.map_id _).symm.trans (List.map_congr_left fun e he => ?_)
  exact Prod.ext rfl (snd_eq_lineAt he)

theorem keys_register {reporter : Reporter} {path : Text} (h : path ∈ reporter.traceback.keys)
    (origin : Option Origin) :
    (reporter.register path origin).traceback.keys = reporter.traceback.keys := by
  rw [register, Table.keys_insert, if_pos h]

theorem keys_settled (reporter : Reporter) :
    reporter.settled.traceback.keys = reporter.traceback.keys := by
  unfold settled
  split
  · rfl
  · exact Table.keys_mapValues _ _

/-- Work on a line leaves the paths as they are, whether it fails or not. -/
theorem keys_worked {reporter : Reporter} {path : Text} (h : path ∈ reporter.traceback.keys)
    (line : Text) (number : Int) :
    let working := reporter.registerLine path line number
    working.settled.traceback.keys = reporter.traceback.keys ∧
      (working.removeLine path).traceback.keys = reporter.traceback.keys := by
  intro working
  have hworking : working.traceback.keys = reporter.traceback.keys := keys_register h _
  refine ⟨(keys_settled working).trans hworking, ?_⟩
  exact (keys_register (hworking ▸ h) none).trans hworking

end Reporter

/-! ## Work on lines -/

/-- A line that was worked on: it was read for an addition, or its statement was executed. -/
structure Work where
  origin : Origin
  failed : Bool
deriving DecidableEq

namespace Work

/-- The line that stays registered. -/
def left (work : Work) : Option Origin := if work.failed then some work.origin else none

/-- The line that is registered after work, where `before` was registered at first. -/
def leftAfter (before : Option Origin) (works : List Work) : Option Origin :=
  works.foldl (fun _ work => work.left) before

/-- The last piece of work settles which line is registered. -/
theorem leftAfter_eq (before : Option Origin) (works : List Work) :
    leftAfter before works = (works.getLast?.map left).getD before := by
  induction works generalizing before with
  | nil => rfl
  | cons work rest ih =>
      show leftAfter work.left rest = _
      rw [ih, List.getLast?_cons]
      cases rest.getLast? <;> rfl

end Work

/-- The work on one line that may fail, on a fatal reporter. -/
theorem Reporter.lineAt_worked {reporter : Reporter} (hfatal : reporter.fatal = true)
    (path line : Text) (number : Int) (failed : Bool) (other : Text) :
    let working := reporter.registerLine path line number
    (if failed = true then working.settled else working.removeLine path).lineAt other
      = if other = path then (Work.mk ⟨line, number⟩ failed).left else reporter.lineAt other := by
  intro working
  have hsettled : working.settled = working := if_pos hfatal
  rw [hsettled]
  cases failed with
  | true => exact lineAt_register reporter path _ other
  | false =>
      show ((reporter.register path _).register path none).lineAt other = _
      rw [lineAt_register, lineAt_register]
      split <;> rfl

namespace Session

open Agenda

/-- The work of executing a statement. -/
def executionWork (e : Int × Queued) : Work := ⟨⟨e.2.line, e.1⟩, e.2.stmt.fails⟩

/-- The work of a command, in the order in which it is done. -/
def work (session : Session) (fatal : Bool) : Command → List Work
  | .add line number =>
      [⟨⟨line, number⟩, match Stmt.infer line with | .ok _ => false | .error _ => true⟩]
  | .run => (session.executions fatal .run).map executionWork
  | .pop | .lookup _ => []

variable {session : Session} {reporter : Reporter}

/-! ## Additions and runs -/

theorem execute_keys (h : session.path ∈ reporter.traceback.keys) (number : Int)
    (queued : Queued) : (session.execute reporter number queued).reporter.traceback.keys
      = reporter.traceback.keys := by
  obtain ⟨hsettled, hremoved⟩ := Reporter.keys_worked h queued.line number
  rw [execute_reporter]
  split
  · exact hsettled
  · exact hremoved

theorem executeAll_keys (es : List (Int × Queued)) (h : session.path ∈ reporter.traceback.keys) :
    (executeAll es session reporter).reporter.traceback.keys = reporter.traceback.keys := by
  induction es generalizing session reporter with
  | nil => rfl
  | cons e rest ih =>
      obtain ⟨number, queued⟩ := e
      have hstep := execute_keys h number queued
      rw [executeAll_cons]
      split
      · exact hstep
      · refine (ih ?_).trans hstep
        rw [hstep, execute_path]
        exact h

theorem execute_lineAt (session : Session) (hfatal : reporter.fatal = true) (e : Int × Queued)
    (path : Text) :
    (session.execute reporter e.1 e.2).reporter.lineAt path
      = if path = session.path then (executionWork e).left else reporter.lineAt path := by
  rw [execute_reporter]
  exact Reporter.lineAt_worked hfatal session.path e.2.line e.1 e.2.stmt.fails path

/-- A run leaves the line of the statement that it executed last, if that failed. -/
theorem executeAll_lineAt (session : Session) (hfatal : reporter.fatal = true)
    (es : List (Int × Queued)) (path : Text) : (executeAll es session reporter).reporter.lineAt path
      = if path = session.path
          then Work.leftAfter (reporter.lineAt path) ((executed true es).map executionWork)
          else reporter.lineAt path := by
  induction es generalizing session reporter with
  | nil => simp [executeAll, executed, Work.leftAfter]
  | cons e rest ih =>
      have hstep := session.execute_lineAt hfatal e path
      rw [executeAll_cons, executed, hfatal]
      split
      · -- The run ends here, so this was the last work under the path.
        rw [hstep]
        rfl
      · show (executeAll rest _ _).reporter.lineAt path = _
        rw [ih _ ((execute_fatal ..).trans hfatal), execute_path, hstep]
        split <;> rfl

/-! ## All commands -/

theorem perform_keys (h : session.path ∈ reporter.traceback.keys) (command : Command) :
    (session.perform reporter command).reporter.traceback.keys = reporter.traceback.keys := by
  cases command with
  | add line number =>
      obtain ⟨hsettled, hremoved⟩ := Reporter.keys_worked h line number
      show (session.add reporter line number).reporter.traceback.keys = _
      rw [add_reporter]
      cases Stmt.infer line with
      | ok stmt => exact hremoved
      | error failure => exact hsettled
  | run => exact executeAll_keys _ h
  | pop => exact congrArg (·.traceback.keys) (session.pop_reporter reporter)
  | lookup name => exact congrArg (·.traceback.keys) (session.lookup_reporter reporter name)

theorem perform_lineAt (hfatal : reporter.fatal = true) (command : Command) (path : Text) :
    (session.perform reporter command).reporter.lineAt path
      = if path = session.path
          then Work.leftAfter (reporter.lineAt path) (session.work true command)
          else reporter.lineAt path := by
  cases command with
  | add line number =>
      show (session.add reporter line number).reporter.lineAt path = _
      rw [add_reporter, work]
      cases Stmt.infer line with
      | ok stmt => exact Reporter.lineAt_worked hfatal session.path line number false path
      | error failure => exact Reporter.lineAt_worked hfatal session.path line number true path
  | run => exact session.executeAll_lineAt hfatal session.queue.agenda path
  | pop =>
      show (session.pop reporter).reporter.lineAt path = _
      rw [pop_reporter]
      exact (ite_self _).symm
  | lookup name =>
      show (session.lookup reporter name).reporter.lineAt path = _
      rw [lookup_reporter]
      exact (ite_self _).symm

end Session

namespace Workspace

open Session (Command)

/-! ## Histories -/

/-- The work that sessions with a path have done, in the order in which it was done. -/
def workUnder (path : Text) (fatal : Bool) (turns : List Turn) : List Work :=
  (turns.filter fun turn => turn.session.path = path).flatMap fun turn =>
    turn.session.work fatal turn.command

theorem workUnder_append (path : Text) (fatal : Bool) (turns : List Turn) (turn : Turn) :
    workUnder path fatal (turns ++ [turn]) = workUnder path fatal turns ++
      if turn.session.path = path then turn.session.work fatal turn.command else [] := by
  unfold workUnder
  rw [List.filter_append, List.flatMap_append]
  by_cases hpath : turn.session.path = path <;> simp [hpath]

/-- The paths are registered in the order in which they occur first, and without a line. -/
theorem create_traceback (fatal : Bool) (paths : List Text) :
    (create fatal paths).reporter.traceback.keys = paths.eraseDups ∧
      ∀ path, (create fatal paths).reporter.lineAt path = none := by
  -- Registering goes on from the paths that were registered before.
  have hfold : ∀ (before : List Text) (reporter : Reporter),
      reporter.traceback.keys = before.eraseDups → (∀ path, reporter.lineAt path = none) →
      (paths.foldl Reporter.registerFile reporter).traceback.keys = (before ++ paths).eraseDups ∧
        ∀ path, (paths.foldl Reporter.registerFile reporter).lineAt path = none := by
    induction paths with
    | nil =>
        intro before reporter hkeys hclear
        exact ⟨by rw [List.append_nil]; exact hkeys, hclear⟩
    | cons path rest ih =>
        intro before reporter hkeys hclear
        rw [List.append_cons]
        refine ih (before ++ [path]) (reporter.registerFile path) ?_ fun other => ?_
        · exact Table.keys_insert_eraseDups hkeys path none
        · rw [Reporter.registerFile, Reporter.lineAt_register, hclear, ite_self]
  exact hfold [] (Reporter.fresh fatal) rfl fun _ => rfl

theorem paths_after {workspace : Workspace} {position : Nat} {session : Session}
    (h : workspace.sessions[position]? = some session) (command : Command) :
    (workspace.after position (session.perform workspace.reporter command)).sessions.map
      Session.path = workspace.sessions.map Session.path := by
  have hpath : (workspace.sessions.map Session.path)[position]? = some session.path := by
    rw [List.getElem?_map, h]
    rfl
  obtain ⟨hposition, hget⟩ := List.getElem?_eq_some_iff.1 hpath
  rw [after, List.map_set, session.perform_path, ← hget]
  exact List.set_getElem_self hposition

/-- Once all sessions' paths are registered, the registered paths stay the same. -/
theorem perform_keys {workspace : Workspace}
    (h : ∀ path ∈ workspace.sessions.map Session.path, path ∈ workspace.reporter.traceback.keys)
    (history : List (Nat × Command)) : (workspace.perform history).2.reporter.traceback.keys
      = workspace.reporter.traceback.keys := by
  -- Sessions keep their paths, so whichever acts next has its path registered.
  let Holds (_ : List Turn) (later : Workspace) : Prop :=
    later.sessions.map Session.path = workspace.sessions.map Session.path ∧
      later.reporter.traceback.keys = workspace.reporter.traceback.keys
  have hholds : Holds ([] ++ workspace.turns history) (workspace.perform history).2 := by
    refine perform_induction ?_ history ⟨rfl, rfl⟩
    rintro turns later position session command hsession ⟨hpaths, hkeys⟩
    refine ⟨(paths_after hsession command).trans hpaths, ?_⟩
    have hpath : session.path ∈ later.sessions.map Session.path :=
      List.mem_map_of_mem (List.mem_of_getElem? hsession)
    refine (session.perform_keys ?_ command).trans hkeys
    rw [hkeys]
    exact h _ (hpaths ▸ hpath)
  exact hholds.2

/-- On a fatal reporter a line is registered under a path where the last work under the path
    failed. -/
theorem perform_lineAt {workspace : Workspace} (hfatal : workspace.reporter.fatal = true)
    (hclear : ∀ path, workspace.reporter.lineAt path = none) (history : List (Nat × Command))
    (path : Text) : (workspace.perform history).2.reporter.lineAt path
      = (workUnder path true (workspace.turns history)).getLast?.bind Work.left := by
  let Holds (turns : List Turn) (later : Workspace) : Prop := later.reporter.fatal = true ∧
    later.reporter.lineAt path = Work.leftAfter none (workUnder path true turns)
  have hholds : Holds ([] ++ workspace.turns history) (workspace.perform history).2 := by
    refine perform_induction ?_ history ⟨hfatal, hclear path⟩
    rintro turns later position session command hsession ⟨hfatal, hline⟩
    refine ⟨(session.perform_fatal later.reporter command).trans hfatal, ?_⟩
    show (session.perform later.reporter command).reporter.lineAt path = _
    rw [session.perform_lineAt hfatal, hline, workUnder_append]
    by_cases hpath : session.path = path
    · rw [if_pos hpath.symm, if_pos hpath, Work.leftAfter, Work.leftAfter, Work.leftAfter,
        List.foldl_append]
    · rw [if_neg (Ne.symm hpath), if_neg hpath, List.append_nil]
  rw [hholds.2, List.nil_append, Work.leftAfter_eq]
  cases (workUnder path true (workspace.turns history)).getLast? <;> rfl

end Workspace

end LetCalc
