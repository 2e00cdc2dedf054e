import LetCalc.Reporter

set_option autoImplicit false

/-! # Which places a message names

A message names the place of every path that has a line at the moment. Work on one path names one
place at most as long as the other paths are clear, and then it does not show which other paths
there are (`places_registerLine`). A reporter is idle if it is not fatal and no path has a line: this
is how work that was brought to an end, with or without an error, leaves it
(`ClearBut.idle_removeLine`, `idle_settled`). -/

namespace LetCalc

/-- Where only one entry comes to something, this is all that the entries come to. -/
theorem Table.filterMap_entries {κ ν α : Type} {t : Table κ ν} {e : κ × ν} (he : e ∈ t.entries)
    {f : κ × ν → Option α} (h : ∀ d ∈ t.entries, d.1 ≠ e.1 → f d = none) :
    t.entries.filterMap f = (f e).toList := by
  obtain ⟨before, after, hsplit⟩ := List.append_of_mem he
  have hnodup := t.nodup
  rw [hsplit, List.map_append, List.map_cons, List.perm_middle.nodup_iff, List.nodup_cons,
    List.mem_append, not_or] at hnodup
  obtain ⟨⟨hbefore, hafter⟩, -⟩ := hnodup
  rw [hsplit] at h ⊢
  have hbeforeNone : before.filterMap f = [] := by
    apply List.filterMap_eq_nil_iff.2
    intro d hd
    exact h d (List.mem_append_left _ hd) fun hc => hbefore (List.mem_map.2 ⟨d, hd, hc⟩)
  have hafterNone : after.filterMap f = [] := by
    apply List.filterMap_eq_nil_iff.2
    intro d hd
    exact h d (List.mem_append_right _ (List.mem_cons_of_mem _ hd)) fun hc =>
      hafter (List.mem_map.2 ⟨d, hd, hc⟩)
  rw [List.filterMap_append, List.filterMap_cons, hbeforeNone, hafterNone]
  cases f e <;> rfl

namespace Reporter

/-- The line being worked on under a path. -/
def lineAt (reporter : Reporter) (path : Text) : Option Origin := (reporter.traceback.get? path).join

@[simp] theorem lineAt_register (reporter : Reporter) (path : Text) (origin : Option Origin)
    (other : Text) : (reporter.register path origin).lineAt other
      = if other = path then origin else reporter.lineAt other := by
  simp only [lineAt, register, Table.get?_insert]
  split <;> rfl

@[simp] theorem lineAt_reset (reporter : Reporter) (path : Text) :
    reporter.reset.lineAt path = none := by
  simp only [lineAt, reset, Table.get?_mapValues]
  cases reporter.traceback.get? path <;> rfl

theorem snd_eq_lineAt {reporter : Reporter} {e : Text × Option Origin}
    (he : e ∈ reporter.traceback.entries) : e.2 = reporter.lineAt e.1 := by
  rw [lineAt, Table.get?_eq_some_iff.2 he]
  rfl

theorem settled_fatal (reporter : Reporter) : reporter.settled.fatal = reporter.fatal := by
  unfold settled
  split <;> rfl

/-! ## Clear paths -/

/-- No path has a line, apart from the given one perhaps. -/
def ClearBut (reporter : Reporter) (path : Text) : Prop :=
  ∀ other, other ≠ path → reporter.lineAt other = none

/-- The places that a message comes from if only the given line is being worked on. -/
def placesOf (path : Text) (origin : Origin) : List Place := (place? (path, some origin)).toList

theorem ClearBut.register {reporter : Reporter} {path : Text} (h : reporter.ClearBut path)
    (origin : Option Origin) : (reporter.register path origin).ClearBut path := by
  intro other hother
  rw [lineAt_register, if_neg hother]
  exact h other hother

theorem ClearBut.settled {reporter : Reporter} {path : Text} (h : reporter.ClearBut path) :
    reporter.settled.ClearBut path := by
  intro other hother
  unfold Reporter.settled
  split
  · exact h other hother
  · exact lineAt_reset reporter other

theorem ClearBut.places_eq {reporter : Reporter} {path : Text} (h : reporter.ClearBut path) :
    reporter.places = (place? (path, reporter.lineAt path)).toList := by
  have hother : ∀ e ∈ reporter.traceback.entries, e.1 ≠ path → place? e = none := by
    intro e he hne
    rw [place?, snd_eq_lineAt he, h e.1 hne]
    rfl
  unfold places
  by_cases hpath : path ∈ reporter.traceback.keys
  · obtain ⟨e, he, rfl⟩ := List.mem_map.1 hpath
    rw [Table.filterMap_entries he hother, ← snd_eq_lineAt he]
  · have hline : reporter.lineAt path = none := by
      rw [lineAt, Table.get?_eq_none_iff.2 hpath]
      rfl
    rw [hline]
    apply List.filterMap_eq_nil_iff.2
    intro e he
    refine hother e he ?_
    rintro rfl
    exact hpath (List.mem_map.2 ⟨e, he, rfl⟩)

theorem places_registerLine {reporter : Reporter} {path : Text} (h : reporter.ClearBut path)
    (line : Text) (number : Int) :
    (reporter.registerLine path line number).places = placesOf path ⟨line, number⟩ := by
  rw [registerLine, (h.register _).places_eq, lineAt_register, if_pos rfl]
  rfl

/-! ## Idle reporters -/

/-- The reporter goes on after errors, and no line is being worked on. -/
structure Idle (reporter : Reporter) : Prop where
  goesOn : reporter.fatal = false
  clear : ∀ path, reporter.lineAt path = none

theorem Idle.clearBut {reporter : Reporter} (h : reporter.Idle) (path : Text) :
    reporter.ClearBut path := fun other _ => h.clear other

theorem Idle.registerFile {reporter : Reporter} (h : reporter.Idle) (path : Text) :
    (reporter.registerFile path).Idle where
  goesOn := h.goesOn
  clear other := by
    rw [Reporter.registerFile, lineAt_register, h.clear]
    split <;> rfl

theorem ClearBut.idle_removeLine {reporter : Reporter} {path : Text} (h : reporter.ClearBut path)
    (hfatal : reporter.fatal = false) : (reporter.removeLine path).Idle where
  goesOn := hfatal
  clear other := by
    rw [removeLine, lineAt_register]
    split
    · rfl
    · next hother => exact h other hother

theorem idle_settled {reporter : Reporter} (hfatal : reporter.fatal = false) :
    reporter.settled.Idle := by
  have hsettled : reporter.settled = reporter.reset := if_neg (by simp [hfatal])
  rw [hsettled]
  exact ⟨hfatal, lineAt_reset reporter⟩

end Reporter

end LetCalc
