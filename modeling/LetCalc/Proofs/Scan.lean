import LetCalc.Scan

set_option autoImplicit false

/-! # Where scanners stop

A scanner splits its input behind a run of characters of one class. Where that is can be said
without the scanner: the rest of the text `Stops` the class, that is, it is empty or starts with a
character outside it. Two splits of one text into a run and a rest that stops it are the same split
(`append_inj_of_stops`), and no other run at the front of the text is longer
(`length_le_of_stops`). The scanners are then described on texts that are given as such splits. -/

namespace LetCalc

namespace Text

variable {accept : Char → Bool}

/-! ## Runs and what stops them -/

/-- `rest` does not go on with a character that satisfies `accept`. -/
def Stops (accept : Char → Bool) (rest : Text) : Prop := ∀ c ∈ rest.head?, accept c = false

@[simp] theorem stops_nil : Stops accept [] := by simp [Stops]

@[simp] theorem stops_cons {c : Char} {rest : Text} :
    Stops accept (c :: rest) ↔ accept c = false := by simp [Stops]

theorem stops_append_iff {front : Text} (hne : front ≠ []) {rest : Text} :
    Stops accept (front ++ rest) ↔ Stops accept front := by
  rcases front with _ | ⟨c, tail⟩
  · exact absurd rfl hne
  · simp

theorem exists_cons_of_not_stops {s : Text} (h : ¬ Stops accept s) :
    ∃ c rest, s = c :: rest ∧ accept c = true := by
  cases s with
  | nil => exact absurd stops_nil h
  | cons c rest => exact ⟨c, rest, rfl, by simpa using h⟩

theorem stops_dropWhile (accept : Char → Bool) (s : Text) : Stops accept (s.dropWhile accept) := by
  intro c hc
  have h := List.head?_dropWhile_not accept s
  rw [Option.mem_def.1 hc] at h
  exact h

theorem accept_of_mem_takeWhile {c : Char} {s : Text} (h : c ∈ s.takeWhile accept) :
    accept c = true := List.all_eq_true.1 List.all_takeWhile c h

theorem takeWhile_eq_nil_of_stops {s : Text} (h : Stops accept s) : s.takeWhile accept = [] := by
  cases s with
  | nil => rfl
  | cons c rest => rw [List.takeWhile_cons, stops_cons.1 h]; rfl

theorem dropWhile_eq_self_of_stops {s : Text} (h : Stops accept s) : s.dropWhile accept = s := by
  cases s with
  | nil => rfl
  | cons c rest => rw [List.dropWhile_cons, stops_cons.1 h]; rfl

theorem takeWhile_append_of_stops {run rest : Text} (hrun : ∀ c ∈ run, accept c = true)
    (hrest : Stops accept rest) : (run ++ rest).takeWhile accept = run := by
  rw [List.takeWhile_append_of_pos hrun, takeWhile_eq_nil_of_stops hrest, List.append_nil]

theorem dropWhile_append_of_stops {run rest : Text} (hrun : ∀ c ∈ run, accept c = true)
    (hrest : Stops accept rest) : (run ++ rest).dropWhile accept = rest := by
  rw [List.dropWhile_append_of_pos hrun, dropWhile_eq_self_of_stops hrest]

/-- Every text splits into a run and a rest that stops it. -/
theorem exists_run (accept : Char → Bool) (s : Text) :
    ∃ run rest, s = run ++ rest ∧ (∀ c ∈ run, accept c = true) ∧ Stops accept rest :=
  ⟨s.takeWhile accept, s.dropWhile accept, List.takeWhile_append_dropWhile.symm,
    fun _ => accept_of_mem_takeWhile, stops_dropWhile accept s⟩

theorem append_inj_of_stops {run rest run' rest' : Text} (hrun : ∀ c ∈ run, accept c = true)
    (hrest : Stops accept rest) (hrun' : ∀ c ∈ run', accept c = true)
    (hrest' : Stops accept rest') (h : run ++ rest = run' ++ rest') :
    run = run' ∧ rest = rest' := by
  constructor
  · rw [← takeWhile_append_of_stops hrun hrest, h, takeWhile_append_of_stops hrun' hrest']
  · rw [← dropWhile_append_of_stops hrun hrest, h, dropWhile_append_of_stops hrun' hrest']

/-- No run at the front of a text is longer than the one that is stopped. -/
theorem length_le_of_stops {run rest run' rest' : Text} (hrun : ∀ c ∈ run, accept c = true)
    (hrest : Stops accept rest) (hrun' : ∀ c ∈ run', accept c = true)
    (h : run ++ rest = run' ++ rest') : run'.length ≤ run.length := by
  have hsplit : run = run' ++ rest'.takeWhile accept := by
    rw [← takeWhile_append_of_stops hrun hrest, h, List.takeWhile_append_of_pos hrun']
  rw [hsplit, List.length_append]
  exact Nat.le_add_right _ _

/-! ## Spaces -/

/-- A run of `n` spaces. -/
def gap (n : Nat) : Text := List.replicate n ' '

@[simp] theorem gap_zero : gap 0 = [] := rfl

theorem gap_succ (n : Nat) : gap (n + 1) = ' ' :: gap n := rfl

theorem eq_space_of_mem_gap {n : Nat} {c : Char} (h : c ∈ gap n) : decide (c = ' ') = true :=
  decide_eq_true (List.eq_of_mem_replicate h)

theorem eq_gap_of_forall_eq_space {run : Text} (h : ∀ c ∈ run, decide (c = ' ') = true) :
    run = gap run.length :=
  List.eq_replicate_iff.2 ⟨rfl, fun c hc => of_decide_eq_true (h c hc)⟩

theorem exists_gap (s : Text) : ∃ n rest, s = gap n ++ rest ∧ Stops (· = ' ') rest := by
  obtain ⟨run, rest, hs, hrun, hrest⟩ := exists_run (· = ' ') s
  exact ⟨run.length, rest, by rw [← eq_gap_of_forall_eq_space hrun]; exact hs, hrest⟩

theorem gap_append_inj {m n : Nat} {rest rest' : Text} (hrest : Stops (· = ' ') rest)
    (hrest' : Stops (· = ' ') rest') (h : gap m ++ rest = gap n ++ rest') :
    m = n ∧ rest = rest' := by
  obtain ⟨hgap, hr⟩ := append_inj_of_stops (fun _ => eq_space_of_mem_gap) hrest
    (fun _ => eq_space_of_mem_gap) hrest' h
  exact ⟨by simpa [gap] using congrArg List.length hgap, hr⟩

/-- What spaces in front of `rest` do not belong to, they stop: a class without the space is
    stopped by a gap as soon as it is stopped by what follows the gap. -/
theorem stops_gap_append {n : Nat} {rest : Text} (hspace : accept ' ' = false)
    (hrest : Stops accept rest) : Stops accept (gap n ++ rest) := by
  cases n with
  | zero => exact hrest
  | succ n => exact stops_cons.2 hspace

/-! ## Names -/

/-- An ASCII letter, then letters and digits of any script. -/
def IsName : Text → Prop
  | [] => False
  | c :: rest => c.isAlpha = true ∧ ∀ d ∈ rest, isAlphanumeric d = true

theorem isAlphanumeric_of_isAlpha {c : Char} (h : c.isAlpha = true) : isAlphanumeric c = true :=
  isAlphanumeric_of_isAlphanum (by rw [Char.isAlphanum, h]; rfl)

theorem IsName.isAlphanumeric {name : Text} (h : name.IsName) :
    ∀ c ∈ name, isAlphanumeric c = true := by
  cases name with
  | nil => exact h.elim
  | cons c rest =>
      intro d hd
      rcases List.mem_cons.1 hd with rfl | hd
      · exact isAlphanumeric_of_isAlpha h.1
      · exact h.2 d hd

theorem IsName.stops_space {name : Text} (h : name.IsName) (rest : Text) :
    Stops (· = ' ') (name ++ rest) := by
  cases name with
  | nil => exact h.elim
  | cons c tail =>
      refine stops_cons.2 (decide_eq_false ?_)
      rintro rfl
      exact absurd h.1 (by decide)

/-- What starts with a letter starts with a name that cannot be made longer. -/
theorem exists_name {s : Text} (h : ¬ Stops Char.isAlpha s) :
    ∃ name rest, s = name ++ rest ∧ IsName name ∧ Stops isAlphanumeric rest := by
  obtain ⟨c, s, rfl, hc⟩ := exists_cons_of_not_stops h
  obtain ⟨run, rest, rfl, hrun, hrest⟩ := exists_run isAlphanumeric s
  exact ⟨c :: run, rest, rfl, ⟨hc, hrun⟩, hrest⟩

end Text

/-! ## Scanners on split texts -/

namespace Parser

open Text

variable {α β : Type} {accept : Char → Bool}

theorem bind_of_ok {p : Parser α} {f : α → Parser β} {s rest : Text} {a : α}
    (h : p s = .ok (a, rest)) : (p >>= f) s = f a rest := by
  show (p s >>= fun x => f x.1 x.2) = f a rest
  rw [h]
  rfl

theorem bind_of_error {p : Parser α} {f : α → Parser β} {s : Text} {failure : Failure}
    (h : p s = .error failure) : (p >>= f) s = .error failure := by
  show (p s >>= fun x => f x.1 x.2) = .error failure
  rw [h]
  rfl

theorem takeWhile_append {run rest : Text} (hrun : ∀ c ∈ run, accept c = true)
    (hrest : Stops accept rest) : takeWhile accept (run ++ rest) = .ok (run, rest) := by
  rw [takeWhile, takeWhile_append_of_stops hrun hrest, dropWhile_append_of_stops hrun hrest]

theorem takeWhile1_append {run rest what : Text} (hne : run ≠ [])
    (hrun : ∀ c ∈ run, accept c = true) (hrest : Stops accept rest) :
    takeWhile1 accept what (run ++ rest) = .ok (run, rest) := by
  rw [takeWhile1, takeWhile_append_of_stops hrun hrest, if_neg hne, takeWhile_append hrun hrest]

theorem takeWhile1_of_stops {s what : Text} (h : Stops accept s) :
    takeWhile1 accept what s = .error (.malformed what s) := by
  rw [takeWhile1, takeWhile_eq_nil_of_stops h]
  rfl

theorem spaces_gap_append {n : Nat} {rest : Text} (hrest : Stops (· = ' ') rest) :
    spaces (gap n ++ rest) = .ok (gap n, rest) :=
  takeWhile_append (fun _ => eq_space_of_mem_gap) hrest

theorem spaces1_gap_append {n : Nat} {rest : Text} (hrest : Stops (· = ' ') rest) :
    spaces1 (gap (n + 1) ++ rest) = .ok (gap (n + 1), rest) :=
  takeWhile1_append (by simp [gap_succ]) (fun _ => eq_space_of_mem_gap) hrest

theorem identifier_append {name rest : Text} (hname : name.IsName)
    (hrest : Stops isAlphanumeric rest) : identifier (name ++ rest) = .ok (name, rest) := by
  have htake := takeWhile_append hname.isAlphanumeric hrest
  cases name with
  | nil => exact hname.elim
  | cons c tail =>
      have hfirst : ((c :: tail ++ rest).head?.any Char.isAlpha) = true := hname.1
      rw [identifier, if_pos hfirst, htake]

theorem identifier_of_stops {s : Text} (h : Stops Char.isAlpha s) :
    identifier s = .error (.malformed "identifier".toList s) := by
  cases s with
  | nil => rfl
  | cons c rest =>
      have hfirst : ¬ ((c :: rest).head?.any Char.isAlpha) = true := by
        simpa using stops_cons.1 h
      rw [identifier, if_neg hfirst]
      rfl

theorem tag_append (t rest : Text) : tag t (t ++ rest) = .ok ((), rest) := by
  rw [tag, if_pos (List.isPrefixOf_iff_prefix.2 (List.prefix_append t rest)), List.drop_left]

theorem tag_of_not_prefix {t s : Text} (h : ¬ t <+: s) :
    tag t s = .error (.malformed t s) := by
  rw [tag, if_neg (fun hp => h (List.isPrefixOf_iff_prefix.1 hp))]
  rfl

end Parser

end LetCalc
