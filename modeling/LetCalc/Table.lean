set_option autoImplicit false

/-! # Tables in the order of first writing

A table is a finite map whose entries stand in the order in which their keys were first written:
writing under a known key keeps the entry's place, writing under a new one appends. No key occurs
twice, which is part of the type. `get?` is the view that the other operations are described by
(`get?_insert`, `get?_erase`, `get?_mapValues`); `keys` gives the order (`keys_insert`). Two tables
agree when they have the same entries, in whatever order (`agrees_iff`). Where the keys are numbers,
the entries can be sorted by them (`ascending_perm`, `ascending_ascends`). -/

namespace LetCalc

/-- A finite map whose entries stand in the order in which their keys were first written. -/
structure Table (κ ν : Type) where
  /-- The entries, oldest key first. -/
  entries : List (κ × ν)
  /-- No key occurs twice. -/
  nodup : (entries.map Prod.fst).Nodup
deriving DecidableEq

namespace Table

variable {κ ν : Type}

@[ext] theorem ext {t u : Table κ ν} (h : t.entries = u.entries) : t = u := by
  cases t
  cases u
  cases h
  rfl

/-! ## Operations -/

/-- The table without entries. -/
def empty : Table κ ν := ⟨[], List.nodup_nil⟩

instance : EmptyCollection (Table κ ν) := ⟨empty⟩

/-- The keys, in the order of their first writing. -/
def keys (t : Table κ ν) : List κ := t.entries.map Prod.fst

/-- The number of entries. -/
def size (t : Table κ ν) : Nat := t.entries.length

variable [DecidableEq κ]

/-- The value under `k`. -/
def get? (t : Table κ ν) (k : κ) : Option ν :=
  (t.entries.find? fun e => e.1 = k).map Prod.snd

/-- Whether there is an entry under `k`. -/
def contains (t : Table κ ν) (k : κ) : Bool := (t.get? k).isSome

/-- An entry list with `v` under `k`: in the place of the entry under `k`, or else at the end. -/
def put (k : κ) (v : ν) : List (κ × ν) → List (κ × ν)
  | [] => [(k, v)]
  | e :: rest => if e.1 = k then (k, v) :: rest else e :: put k v rest

theorem map_fst_put (k : κ) (v : ν) (es : List (κ × ν)) :
    (put k v es).map Prod.fst
      = if k ∈ es.map Prod.fst then es.map Prod.fst else es.map Prod.fst ++ [k] := by
  induction es with
  | nil => simp [put]
  | cons e rest ih =>
      by_cases h : e.1 = k
      · simp [put, h]
      · have hk : ¬ k = e.1 := fun hc => h hc.symm
        simp only [put, if_neg h, List.map_cons, ih, List.mem_cons, hk, false_or]
        split <;> simp

theorem put_of_not_mem {k : κ} (v : ν) {es : List (κ × ν)} (h : k ∉ es.map Prod.fst) :
    put k v es = es ++ [(k, v)] := by
  induction es with
  | nil => rfl
  | cons e rest ih =>
      rw [List.map_cons, List.mem_cons, not_or] at h
      rw [put, if_neg fun hc => h.1 hc.symm, ih h.2]
      rfl

theorem nodup_put (k : κ) (v : ν) {es : List (κ × ν)} (h : (es.map Prod.fst).Nodup) :
    ((put k v es).map Prod.fst).Nodup := by
  rw [map_fst_put]
  split
  · exact h
  · next hk => exact List.nodup_append.2 ⟨h, by simp, by simpa using fun a b hab hc => hk (by
      rw [List.mem_map]; exact ⟨(a, b), hab, hc⟩)⟩

/-- The table with `v` under `k`, in the place of an entry under `k` or else at the end. -/
def insert (t : Table κ ν) (k : κ) (v : ν) : Table κ ν :=
  ⟨put k v t.entries, nodup_put k v t.nodup⟩

/-- The table without the entry under `k`. -/
def erase (t : Table κ ν) (k : κ) : Table κ ν :=
  ⟨t.entries.filter fun e => e.1 ≠ k, t.nodup.sublist (List.filter_sublist.map _)⟩

/-- The table with the same keys in the same order and `f` applied to every value. -/
def mapValues {μ : Type} (f : ν → μ) (t : Table κ ν) : Table κ μ :=
  ⟨t.entries.map fun e => (e.1, f e.2), by
    simpa [List.map_map, Function.comp_def] using t.nodup⟩

/-- Whether the two tables have the same entries, in whatever order. -/
def agrees [DecidableEq ν] (t u : Table κ ν) : Bool :=
  t.size = u.size && t.entries.all fun e => u.get? e.1 = some e.2

/-! ## Look-up -/

theorem get?_eq_some_iff {t : Table κ ν} {k : κ} {v : ν} :
    t.get? k = some v ↔ (k, v) ∈ t.entries := by
  obtain ⟨es, hnd⟩ := t
  simp only [get?]
  induction es with
  | nil => simp
  | cons e rest ih =>
      obtain ⟨k', v'⟩ := e
      simp only [List.map_cons, List.nodup_cons, List.mem_map, Prod.exists] at hnd
      by_cases h : k' = k
      · subst h
        simp only [List.find?_cons, decide_true, Option.map_some, Option.some.injEq,
          List.mem_cons, Prod.mk.injEq, true_and]
        refine ⟨fun hv => Or.inl hv.symm, fun hv => ?_⟩
        rcases hv with rfl | hv
        · rfl
        · exact absurd ⟨k', v, hv, rfl⟩ hnd.1
      · have hk : ¬ k = k' := fun hc => h hc.symm
        simp only [List.find?_cons, decide_eq_false h, List.mem_cons, Prod.mk.injEq, hk, false_and,
          false_or]
        exact ih hnd.2

theorem contains_iff {t : Table κ ν} {k : κ} : t.contains k = true ↔ k ∈ t.keys := by
  simp only [contains, Option.isSome_iff_exists, get?_eq_some_iff, keys, List.mem_map,
    Prod.exists]
  exact ⟨fun ⟨v, hv⟩ => ⟨k, v, hv, rfl⟩, fun ⟨_, v, hv, hk⟩ => ⟨v, hk ▸ hv⟩⟩

theorem get?_eq_none_iff {t : Table κ ν} {k : κ} : t.get? k = none ↔ k ∉ t.keys := by
  rw [← contains_iff, contains]
  cases t.get? k <;> simp

@[simp] theorem get?_empty (k : κ) : (∅ : Table κ ν).get? k = none := rfl

@[simp] theorem get?_insert (t : Table κ ν) (k : κ) (v : ν) (k' : κ) :
    (t.insert k v).get? k' = if k' = k then some v else t.get? k' := by
  obtain ⟨es, hnd⟩ := t
  simp only [insert, get?]
  clear hnd
  induction es with
  | nil =>
      by_cases h : k' = k
      · simp [put, h]
      · simp [put, h, Ne.symm h]
  | cons e rest ih =>
      by_cases h : e.1 = k
      · by_cases h' : k' = k
        · simp [put, h, h']
        · simp [put, h, h', Ne.symm h']
      · by_cases he : e.1 = k'
        · have hk : ¬ k' = k := fun hc => h (he.trans hc)
          simp [put, he, hk]
        · simp [put, h, he, ih]

@[simp] theorem get?_erase (t : Table κ ν) (k k' : κ) :
    (t.erase k).get? k' = if k' = k then none else t.get? k' := by
  obtain ⟨es, hnd⟩ := t
  simp only [erase, get?]
  clear hnd
  induction es with
  | nil => simp
  | cons e rest ih =>
      by_cases h : e.1 = k
      · by_cases h' : k' = k
        · simp [h']
        · simpa [h, h', Ne.symm h', List.filter_cons, List.find?_cons] using ih
      · by_cases he : e.1 = k'
        · have hk : ¬ k' = k := fun hc => h (he.trans hc)
          simp [he, hk]
        · simpa [h, he, List.filter_cons, List.find?_cons] using ih

@[simp] theorem get?_mapValues {μ : Type} (f : ν → μ) (t : Table κ ν) (k : κ) :
    (t.mapValues f).get? k = (t.get? k).map f := by
  simp [mapValues, get?, List.find?_map, Function.comp_def]

/-- Writing under a key makes no difference to the entries under the other keys and their order. -/
@[simp] theorem erase_insert (t : Table κ ν) (k : κ) (v : ν) :
    (t.insert k v).erase k = t.erase k := by
  apply ext
  show (put k v t.entries).filter _ = t.entries.filter _
  induction t.entries with
  | nil => simp [put]
  | cons e rest ih =>
      by_cases h : e.1 = k
      · simp [put, h]
      · simp only [put, if_neg h, List.filter_cons, ih]

/-- What is written is an entry, and so is what was one under another key. -/
theorem mem_entries_insert {t : Table κ ν} {k : κ} {v : ν} {e : κ × ν} :
    e ∈ (t.insert k v).entries ↔ e = (k, v) ∨ e.1 ≠ k ∧ e ∈ t.entries := by
  obtain ⟨k', v'⟩ := e
  rw [← get?_eq_some_iff, ← get?_eq_some_iff, get?_insert]
  split
  · next h => simp [h, eq_comm]
  · next h => simp [h]

/-! ## Order and number of the keys -/

omit [DecidableEq κ] in
@[simp] theorem keys_empty : (∅ : Table κ ν).keys = [] := rfl

theorem keys_insert (t : Table κ ν) (k : κ) (v : ν) :
    (t.insert k v).keys = if k ∈ t.keys then t.keys else t.keys ++ [k] :=
  map_fst_put k v t.entries

/-- The keys that are written one after the other stand in the order of their first writing. -/
theorem keys_insert_eraseDups [BEq κ] [LawfulBEq κ] {t : Table κ ν} {ks : List κ}
    (h : t.keys = ks.eraseDups) (k : κ) (v : ν) :
    (t.insert k v).keys = (ks ++ [k]).eraseDups := by
  rw [keys_insert, h, List.eraseDups_append]
  by_cases hk : k ∈ ks
  · simp [List.removeAll, hk]
  · simp [List.removeAll, hk, List.eraseDups_cons]

/-- A new key goes last. -/
theorem entries_insert_of_not_mem {t : Table κ ν} {k : κ} (h : k ∉ t.keys) (v : ν) :
    (t.insert k v).entries = t.entries ++ [(k, v)] := put_of_not_mem v h

omit [DecidableEq κ] in
@[simp] theorem keys_mapValues {μ : Type} (f : ν → μ) (t : Table κ ν) :
    (t.mapValues f).keys = t.keys := by
  simp [mapValues, keys, List.map_map, Function.comp_def]

omit [DecidableEq κ] in
theorem length_keys (t : Table κ ν) : t.keys.length = t.size := by simp [keys, size]

/-! ## Agreement -/

omit [DecidableEq κ] in
theorem nodup_entries (t : Table κ ν) : t.entries.Nodup := by
  have hkeys := List.pairwise_map.1 t.nodup
  exact hkeys.imp fun hne heq => hne (congrArg Prod.fst heq)

omit [DecidableEq κ] in
/-- Since no entry occurs twice, a table that holds as many entries as another and all of the other's
    has no entries besides. -/
theorem entries_subset_of_size_eq {t u : Table κ ν} (hsize : t.size = u.size)
    (h : t.entries ⊆ u.entries) : u.entries ⊆ t.entries := by
  intro e he
  apply Classical.byContradiction
  intro hnot
  have hnodup : (e :: t.entries).Nodup := List.nodup_cons.2 ⟨hnot, t.nodup_entries⟩
  have hle := hnodup.length_le_of_subset (List.cons_subset.2 ⟨he, h⟩)
  rw [List.length_cons] at hle
  simp only [size] at hsize
  omega

theorem get?_eq_iff_mem_entries {t u : Table κ ν} :
    (∀ k, t.get? k = u.get? k) ↔ ∀ e, e ∈ t.entries ↔ e ∈ u.entries := by
  constructor
  · rintro h ⟨k, v⟩
    rw [← get?_eq_some_iff, ← get?_eq_some_iff, h]
  · intro h k
    apply Option.ext
    intro v
    rw [get?_eq_some_iff, get?_eq_some_iff, h]

/-- The order of the entries makes no difference to whether two tables agree. -/
theorem agrees_iff [DecidableEq ν] {t u : Table κ ν} :
    t.agrees u = true ↔ ∀ k, t.get? k = u.get? k := by
  have hall : (t.entries.all fun e => u.get? e.1 = some e.2) = true ↔ t.entries ⊆ u.entries := by
    simp only [List.all_eq_true, decide_eq_true_eq, get?_eq_some_iff]
    exact Iff.rfl
  rw [agrees, Bool.and_eq_true, decide_eq_true_eq, hall, get?_eq_iff_mem_entries]
  constructor
  · rintro ⟨hsize, hsubset⟩ e
    exact ⟨fun he => hsubset he, fun he => entries_subset_of_size_eq hsize hsubset he⟩
  · intro h
    have hperm := (List.perm_ext_iff_of_nodup t.nodup_entries u.nodup_entries).2 h
    exact ⟨hperm.length_eq, fun e => (h e).1⟩

/-! ## Numbered entries -/

section Ascending

variable (t : Table Int ν)

/-- The entries in ascending order of their numbers. -/
def ascending : List (Int × ν) := t.entries.mergeSort fun a b => a.1 ≤ b.1

theorem ascending_perm : t.ascending.Perm t.entries := List.mergeSort_perm ..

/-- The numbers ascend strictly, since none occurs twice. -/
theorem ascending_ascends : t.ascending.Pairwise fun a b => a.1 < b.1 := by
  have hle : t.ascending.Pairwise fun a b => a.1 ≤ b.1 := by
    have h := @List.pairwise_mergeSort _ (fun a b : Int × ν => decide (a.1 ≤ b.1))
      (fun a b c hab hbc => by simp only [decide_eq_true_eq] at hab hbc ⊢; omega)
      (fun a b => by simp only [Bool.or_eq_true, decide_eq_true_eq]; omega) t.entries
    exact h.imp of_decide_eq_true
  have hnodup : (t.ascending.map Prod.fst).Nodup :=
    (t.ascending_perm.map Prod.fst).nodup_iff.2 t.nodup
  have hne : t.ascending.Pairwise fun a b => a.1 ≠ b.1 := List.pairwise_map.1 hnodup
  exact hle.imp₂ (fun _ _ hab hn => by omega) hne

end Ascending

end Table

end LetCalc
