import LetCalc.Proofs.Evaluation
import LetCalc.Proofs.Histories
import LetCalc.Proofs.Resumption

set_option autoImplicit false

/-! # States that sessions reach

All values of lines lie between -(2^31 - 1) and 2^31 - 1 (`Expr.WellFormed.attainable`). This carries
over from the lines to what is queued, and from the queue to bindings and results, whatever commands
a session was given and whether errors end the program or not (`Session.Sound`). What is queued is
settled by the commands alone: `Session.Outstanding` says of a list of commands what they leave to be
run. -/

namespace LetCalc

open Arithmetic (Attainable)

/-! ## Values of lines -/

namespace Stmt

theorem WellFormed.body {stmt : Stmt} (h : stmt.WellFormed) : stmt.body.WellFormed := by
  cases stmt with
  | binding name value => exact h.2
  | expression value => exact h

theorem WellFormed.of_stores {stmt : Stmt} (hstmt : stmt.WellFormed) {name : Text} {n : Int}
    (h : stmt.effect = .stores name n) : name.IsName ∧ Attainable n := by
  obtain ⟨htarget, heval⟩ := effect_eq_stores_iff.1 h
  refine ⟨?_, hstmt.body.attainable heval⟩
  cases stmt with
  | binding target value =>
      obtain rfl := Option.some.inj htarget
      exact hstmt.1
  | expression value => cases htarget

theorem WellFormed.of_yields {stmt : Stmt} (hstmt : stmt.WellFormed) {n : Int}
    (h : stmt.effect = .yields n) : Attainable n :=
  hstmt.body.attainable (effect_eq_yields_iff.1 h).2

end Stmt

/-! ## Bindings that are stored one after the other -/

theorem Bindings.forall_storeAll {P : Text × Int → Prop} {stores : List (Text × Int)}
    (hstores : ∀ s ∈ stores, P s) {bindings : Bindings} (h : ∀ e ∈ bindings.entries, P e) :
    ∀ e ∈ (bindings.storeAll stores).entries, P e := by
  induction stores generalizing bindings with
  | nil => exact h
  | cons s rest ih =>
      obtain ⟨hs, hrest⟩ := List.forall_mem_cons.1 hstores
      refine ih hrest fun e he => ?_
      rcases Table.mem_entries_insert.1 he with rfl | ⟨-, he⟩
      · exact hs
      · exact h e he

namespace Agenda

theorem executed_sublist (fatal : Bool) (es : List (Int × Queued)) :
    (executed fatal es).Sublist es := by
  induction es with
  | nil => exact .slnil
  | cons e rest ih =>
      rw [executed]
      split
      · exact (List.nil_sublist rest).cons_cons e
      · exact ih.cons_cons e

/-- On a fatal reporter a statement is left where one with a smaller number fails, and nothing else
    is ever left. -/
theorem mem_executed_iff {fatal : Bool} {es : List (Int × Queued)}
    (hes : es.Pairwise fun a b => a.1 < b.1) {e : Int × Queued} (he : e ∈ es) :
    e ∈ executed fatal es ↔
      ¬ (fatal = true ∧ ∃ d ∈ es, d.1 < e.1 ∧ d.2.stmt.fails = true) := by
  induction es with
  | nil => cases he
  | cons c rest ih =>
      obtain ⟨hc, hrest⟩ := List.pairwise_cons.1 hes
      rw [executed]
      rcases List.mem_cons.1 he with rfl | he
      · -- Nothing comes before the first statement.
        refine iff_of_true (List.mem_cons_self ..) ?_
        rintro ⟨-, d, hd, hlt, -⟩
        rcases List.mem_cons.1 hd with rfl | hd
        · omega
        · have hgt := hc d hd
          omega
      · have hlt := hc e he
        have hne : e ≠ c := by
          rintro rfl
          omega
        split
        · next hstop =>
            -- The first statement ends the run, and all others have greater numbers.
            refine iff_of_false (by simpa using hne) ?_
            exact fun h => h ⟨hstop.1, c, List.mem_cons_self .., hlt, hstop.2⟩
        · next hgoes =>
            rw [List.mem_cons, or_iff_right hne, ih hrest he]
            refine not_congr (and_congr_right fun hfatal => ?_)
            have hc' : ¬ c.2.stmt.fails = true := fun hfails => hgoes ⟨hfatal, hfails⟩
            simp [hc']

end Agenda

namespace Session

open Agenda

/-! ## What holds of a session's state -/

/-- The state of a session that was only ever given commands. -/
structure Sound (session : Session) : Prop where
  /-- What is bound is a name, to a value that a line can have. -/
  bindings : ∀ entry ∈ session.bindings.entries, entry.1.IsName ∧ Attainable entry.2
  /-- No name is bound twice. -/
  names : session.bindings.keys.Nodup
  results : ∀ n ∈ session.results, Attainable n
  /-- What is queued is a line with the statement that it is read as. -/
  queue : ∀ entry ∈ session.queue.entries, Stmt.infer entry.2.line = .ok entry.2.stmt
  /-- No number is queued twice. -/
  numbers : session.queue.keys.Nodup

theorem sound_fresh (path : Text) : (fresh path).Sound where
  bindings := List.forall_mem_nil _
  names := List.nodup_nil
  results := List.forall_mem_nil _
  queue := List.forall_mem_nil _
  numbers := List.nodup_nil

variable {session : Session}

theorem Sound.add (h : session.Sound) (reporter : Reporter) (line : Text) (number : Int) :
    (session.add reporter line number).session.Sound := by
  rw [add_session]
  cases hinfer : Stmt.infer line with
  | error failure => exact h
  | ok stmt =>
      refine { h with queue := fun entry hentry => ?_, numbers := Table.nodup _ }
      rcases Table.mem_entries_insert.1 hentry with rfl | ⟨-, hentry⟩
      · exact hinfer
      · exact h.queue entry hentry

theorem Sound.run (h : session.Sound) (reporter : Reporter) :
    (session.run reporter).session.Sound := by
  have hsession : (session.run reporter).session = _ := executeAll_session ..
  have hexecuted : ∀ e ∈ executed reporter.fatal session.queue.agenda, e.2.stmt.WellFormed := by
    intro e he
    have hqueued := session.queue.agenda_perm.mem_iff.1 ((executed_sublist _ _).mem he)
    exact Stmt.wellFormed_of_infer (h.queue e hqueued)
  rw [hsession]
  refine ⟨Bindings.forall_storeAll ?_ h.bindings, Table.nodup _, ?_, ?_, Table.nodup _⟩
  · intro s hs
    obtain ⟨e, he, hstored⟩ := List.mem_filterMap.1 hs
    exact (hexecuted e he).of_stores (Effect.stored?_eq_some_iff.1 hstored)
  · intro n hn
    rcases List.mem_append.1 hn with hn | hn
    · exact h.results n hn
    · obtain ⟨e, he, hyielded⟩ := List.mem_filterMap.1 hn
      exact (hexecuted e he).of_yields (Effect.yielded?_eq_some_iff.1 hyielded)
  · intro e he
    rw [Queue.entries_eraseAll] at he
    exact h.queue e (List.mem_filter.1 he).1

theorem Sound.pop (h : session.Sound) (reporter : Reporter) :
    (session.pop reporter).session.Sound := by
  unfold Session.pop
  cases session.results.getLast? with
  | none => exact h
  | some n => exact { h with results := fun m hm => h.results m ((List.dropLast_sublist _).mem hm) }

/-- No command leads to a state in which less holds. -/
theorem Sound.perform (h : session.Sound) (reporter : Reporter) (command : Command) :
    (session.perform reporter command).session.Sound := by
  cases command with
  | add line number => exact h.add reporter line number
  | run => exact h.run reporter
  | pop => exact h.pop reporter
  | lookup name =>
      show (session.lookup reporter name).session.Sound
      rw [lookup_session]
      exact h

/-! ## What commands leave to be run -/

/-- Commands, the latest of them first, leave a statement to be run under a number. Only additions
    and runs have a say in it; `fatal` is whether errors end the program. -/
inductive Outstanding (fatal : Bool) : List Command → Int → Queued → Prop where
  /-- A line that can be read leaves its statement, in place of any other under its number. -/
  | added {earlier : List Command} {line : Text} {number : Int} {stmt : Stmt}
      (h : Stmt.infer line = .ok stmt) :
      Outstanding fatal (.add line number :: earlier) number ⟨line, stmt⟩
  /-- Additions under other numbers make no difference. -/
  | beside {earlier : List Command} {line : Text} {other number : Int} {queued : Queued}
      (hother : number ≠ other) (h : Outstanding fatal earlier number queued) :
      Outstanding fatal (.add line other :: earlier) number queued
  /-- A line that cannot be read makes no difference. -/
  | refused {earlier : List Command} {line : Text} {other number : Int} {queued : Queued}
      {failure : Failure} (hfailure : Stmt.infer line = .error failure)
      (h : Outstanding fatal earlier number queued) :
      Outstanding fatal (.add line other :: earlier) number queued
  /-- A run takes what there is, unless it is ended by a statement with a smaller number. -/
  | cut {earlier : List Command} {number smaller : Int} {queued failing : Queued}
      (hfatal : fatal = true) (hfailing : Outstanding fatal earlier smaller failing)
      (hfails : failing.stmt.fails = true) (hsmaller : smaller < number)
      (h : Outstanding fatal earlier number queued) :
      Outstanding fatal (.run :: earlier) number queued
  | pop {earlier : List Command} {number : Int} {queued : Queued}
      (h : Outstanding fatal earlier number queued) :
      Outstanding fatal (.pop :: earlier) number queued
  | lookup {earlier : List Command} {name : Text} {number : Int} {queued : Queued}
      (h : Outstanding fatal earlier number queued) :
      Outstanding fatal (.lookup name :: earlier) number queued

/-- Nothing among the commands put another statement under the number, and unless errors end the
    program there is no run among them. -/
structure Undisturbed (fatal : Bool) (number : Int) (commands : List Command) : Prop where
  additions : ∀ line, .add line number ∈ commands → ∃ failure, Stmt.infer line = .error failure
  runs : fatal = false → .run ∉ commands

theorem Undisturbed.cons {fatal : Bool} {number : Int} {commands : List Command}
    (h : Undisturbed fatal number commands) {command : Command}
    (hadd : ∀ line, command = .add line number → ∃ failure, Stmt.infer line = .error failure)
    (hrun : command = .run → fatal = true) : Undisturbed fatal number (command :: commands) where
  additions line hline := by
    rcases List.mem_cons.1 hline with heq | hline
    · exact hadd line heq.symm
    · exact h.additions line hline
  runs hfatal := by
    rw [List.mem_cons, not_or]
    refine ⟨fun hcommand => ?_, h.runs hfatal⟩
    rw [hrun hcommand.symm] at hfatal
    cases hfatal

/-- What is left under a number is the statement of the latest line that could be read and was added
    under it. -/
theorem Outstanding.latest {fatal : Bool} {commands : List Command} {number : Int}
    {queued : Queued} (h : Outstanding fatal commands number queued) :
    ∃ later earlier, commands = later ++ .add queued.line number :: earlier ∧
      Stmt.infer queued.line = .ok queued.stmt ∧ Undisturbed fatal number later := by
  induction h with
  | added hinfer => exact ⟨[], _, rfl, hinfer, by simp, by simp⟩
  | beside hother _ ih =>
      obtain ⟨later, earlier, rfl, hinfer, hlater⟩ := ih
      refine ⟨_ :: later, earlier, rfl, hinfer, hlater.cons ?_ nofun⟩
      rintro line ⟨⟩
      exact absurd rfl hother
  | refused hfailure _ ih =>
      obtain ⟨later, earlier, rfl, hinfer, hlater⟩ := ih
      refine ⟨_ :: later, earlier, rfl, hinfer, hlater.cons ?_ nofun⟩
      rintro line ⟨⟩
      exact ⟨_, hfailure⟩
  | cut hfatal _ _ _ _ _ ih =>
      obtain ⟨later, earlier, rfl, hinfer, hlater⟩ := ih
      exact ⟨_ :: later, earlier, rfl, hinfer, hlater.cons nofun fun _ => hfatal⟩
  | pop _ ih =>
      obtain ⟨later, earlier, rfl, hinfer, hlater⟩ := ih
      exact ⟨_ :: later, earlier, rfl, hinfer, hlater.cons nofun nofun⟩
  | lookup _ ih =>
      obtain ⟨later, earlier, rfl, hinfer, hlater⟩ := ih
      exact ⟨_ :: later, earlier, rfl, hinfer, hlater.cons nofun nofun⟩

/-- What is queued is what the commands have left. -/
def Tracks (fatal : Bool) (commands : List Command) (session : Session) : Prop :=
  ∀ number queued, session.queue.get? number = some queued ↔
    Outstanding fatal commands number queued

variable {fatal : Bool} {commands : List Command} {reporter : Reporter}

theorem tracks_fresh (fatal : Bool) (path : Text) : Tracks fatal [] (fresh path) := by
  intro number queued
  exact iff_of_false nofun nofun

theorem Tracks.add (h : Tracks fatal commands session) (reporter : Reporter) (line : Text)
    (number : Int) :
    Tracks fatal (.add line number :: commands) (session.add reporter line number).session := by
  intro other queued
  rw [add_session]
  cases hinfer : Stmt.infer line with
  | error failure =>
      refine (h other queued).trans ⟨.refused hinfer, fun hleft => ?_⟩
      cases hleft with
      | added hok => cases hinfer.symm.trans hok
      | beside _ hleft => exact hleft
      | refused _ hleft => exact hleft
  | ok stmt =>
      show (session.queue.insert number ⟨line, stmt⟩).get? other = some queued ↔ _
      rw [Table.get?_insert]
      split
      · next heq =>
          subst heq
          constructor
          · intro hqueued
            obtain rfl := Option.some.inj hqueued
            exact .added hinfer
          · intro hleft
            cases hleft with
            | added hok =>
                obtain rfl := Except.ok.inj (hinfer.symm.trans hok)
                rfl
            | beside hother _ => exact absurd rfl hother
            | refused hfailure _ => cases hinfer.symm.trans hfailure
      · next hne =>
          refine (h other queued).trans ⟨.beside hne, fun hleft => ?_⟩
          cases hleft with
          | added => exact absurd rfl hne
          | beside _ hleft => exact hleft
          | refused _ hleft => exact hleft

theorem Tracks.run (h : Tracks reporter.fatal commands session) :
    Tracks reporter.fatal (.run :: commands) (session.run reporter).session := by
  intro number queued
  have hsession : (session.run reporter).session = _ := executeAll_session ..
  rw [hsession]
  show (session.queue.eraseAll _).get? number = some queued ↔ _
  rw [Queue.get?_eraseAll]
  have hmem : ∀ {number : Int} {queued : Queued},
      (number, queued) ∈ session.queue.agenda ↔ Outstanding reporter.fatal commands number queued :=
    session.queue.agenda_perm.mem_iff.trans (Table.get?_eq_some_iff.symm.trans (h _ _))
  have hagenda := session.queue.agenda_ascends
  constructor
  · intro hqueued
    split at hqueued
    · cases hqueued
    · next hnumber =>
        -- What is still queued was not executed, so a smaller number has ended the run.
        have hleft := (h number queued).1 hqueued
        have hnot : (number, queued) ∉ executed reporter.fatal session.queue.agenda :=
          fun he => hnumber (List.mem_map.2 ⟨_, he, rfl⟩)
        rw [mem_executed_iff hagenda (hmem.2 hleft), Classical.not_not] at hnot
        obtain ⟨hfatal, d, hd, hlt, hfails⟩ := hnot
        exact .cut hfatal (hmem.1 hd) hfails hlt hleft
  · intro hleft
    cases hleft with
    | cut hfatal hfailing hfails hsmaller hleft =>
        rw [if_neg]
        · exact (h number queued).2 hleft
        · intro hnumber
          obtain ⟨e, he, rfl⟩ := List.mem_map.1 hnumber
          have hnot := (mem_executed_iff hagenda ((executed_sublist _ _).mem he)).1 he
          exact hnot ⟨hfatal, _, hmem.2 hfailing, hsmaller, hfails⟩

theorem Tracks.perform (h : Tracks reporter.fatal commands session) (command : Command) :
    Tracks reporter.fatal (command :: commands) (session.perform reporter command).session := by
  cases command with
  | add line number => exact h.add reporter line number
  | run => exact h.run
  | pop =>
      intro number queued
      show (session.pop reporter).session.queue.get? number = _ ↔ _
      rw [pop_frame]
      refine (h number queued).trans ⟨.pop, fun hleft => ?_⟩
      cases hleft with
      | pop hleft => exact hleft
  | lookup name =>
      intro number queued
      show (session.lookup reporter name).session.queue.get? number = _ ↔ _
      rw [lookup_session]
      refine (h number queued).trans ⟨.lookup, fun hleft => ?_⟩
      cases hleft with
      | lookup hleft => exact hleft

end Session

namespace Workspace

open Session (Command)

/-- After any history a session is sound, and its commands settle what it has queued. -/
theorem perform_tracks (fatal : Bool) (paths : List Text) (history : List (Nat × Command))
    (position : Fin paths.length) :
    ∃ session, ((create fatal paths).perform history).2.sessions[position.val]? = some session ∧
      session.Sound ∧ session.Tracks fatal (commandsFor position history).reverse := by
  let Holds (turns : List Turn) (session : Session) : Prop :=
    session.Sound ∧ session.Tracks fatal (turns.map Turn.command).reverse
  have hturn : ∀ turns session reporter command, reporter.fatal = fatal → Holds turns session →
      let step := session.perform reporter command
      Holds (turns ++ [⟨position, session, command, step⟩]) step.session := by
    rintro turns session reporter command rfl ⟨hsound, htracks⟩
    refine ⟨hsound.perform reporter command, ?_⟩
    simpa using htracks.perform command
  have hstart : Holds [] (Session.fresh (paths.get position)) :=
    ⟨Session.sound_fresh _, Session.tracks_fresh fatal _⟩
  obtain ⟨session, hsession, hsound, htracks⟩ := perform_preserves hturn history
    (create_fatal fatal paths) (create_session fatal paths position) hstart
  rw [commands_turnsOf _ _ (by simp [create])] at htracks
  exact ⟨session, hsession, hsound, htracks⟩

/-- After any history, on a reporter of either kind: the values of a session lie between -(2^31 - 1)
    and 2^31 - 1, what is bound is a name, and what is queued is what its commands have left to be
    run: under each number the latest line that could be read and was added under it, with the
    statement that it reads as, unless a run has taken it since. -/
theorem perform_sound (fatal : Bool) (paths : List Text) (history : List (Nat × Command))
    (position : Fin paths.length) :
    let commands := (commandsFor position history).reverse
    ∃ session, ((create fatal paths).perform history).2.sessions[position.val]? = some session ∧
      session.Sound ∧
      (∀ number queued, (number, queued) ∈ session.queue.entries ↔
        Session.Outstanding fatal commands number queued) ∧
      ∀ number queued, (number, queued) ∈ session.queue.entries →
        ∃ later earlier, commands = later ++ .add queued.line number :: earlier ∧
          Stmt.infer queued.line = .ok queued.stmt ∧ Session.Undisturbed fatal number later := by
  obtain ⟨session, hsession, hsound, htracks⟩ := perform_tracks fatal paths history position
  have hqueued : ∀ number queued, (number, queued) ∈ session.queue.entries ↔ _ :=
    fun number queued => Table.get?_eq_some_iff.symm.trans (htracks number queued)
  exact ⟨session, hsession, hsound, hqueued, fun number queued h => ((hqueued _ _).1 h).latest⟩

end Workspace

end LetCalc
