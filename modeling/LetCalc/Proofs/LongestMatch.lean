import LetCalc.Proofs.Scan

set_option autoImplicit false

/-! # Scanners take the longest match

Each scanner has a class of texts: runs of digits, runs of spaces, names. What it takes off the front
of its input is the longest text of the class that the input starts with, and what it leaves is all
that comes behind. If the input starts with no text of the class, the scanner fails, says what it
expected and leaves the input as it is. `Parser.TakesLongest` says both as equivalences, so it
leaves a scanner no choice. -/

namespace LetCalc

namespace Text

variable {InClass : Text → Prop}

/-- All characters of the text satisfy `accept`. -/
def IsRun (accept : Char → Bool) (run : Text) : Prop := ∀ c ∈ run, accept c = true

/-- `front` is the longest text of the class that `s` starts with. -/
structure IsLongest (InClass : Text → Prop) (front s : Text) : Prop where
  atFront : front <+: s
  inClass : InClass front
  longest : ∀ t, t <+: s → InClass t → t.length ≤ front.length

/-- There is one longest text at the most. -/
theorem IsLongest.unique {front front' s : Text} (h : IsLongest InClass front s)
    (h' : IsLongest InClass front' s) : front = front' := by
  have hle := h'.longest front h.atFront h.inClass
  have hge := h.longest front' h'.atFront h'.inClass
  have hprefix : front <+: front' := List.prefix_of_prefix_length_le h.atFront h'.atFront hle
  exact hprefix.eq_of_length (Nat.le_antisymm hle hge)

/-- A run that is stopped is the longest text of a class of runs. -/
theorem isLongest_of_stops {accept : Char → Bool} (hclass : ∀ t, InClass t → IsRun accept t)
    {front rest : Text} (hfront : InClass front) (hrest : Stops accept rest) :
    IsLongest InClass front (front ++ rest) where
  atFront := List.prefix_append ..
  inClass := hfront
  longest := by
    rintro t ⟨rest', ht⟩ hinClass
    exact length_le_of_stops (hclass front hfront) hrest (hclass t hinClass) ht.symm

theorem IsName.not_stops {name : Text} (h : name.IsName) (rest : Text) :
    ¬ Stops Char.isAlpha (name ++ rest) := by
  cases name with
  | nil => exact h.elim
  | cons c tail =>
      intro hstops
      simp [h.1] at hstops

end Text

namespace Parser

open Text

variable {accept : Char → Bool} {InClass : Text → Prop} {what : Text}

/-- The scanner takes the longest text of the class off the front of its input. Where there is none,
    it expects `what` and leaves all of the input. -/
structure TakesLongest (p : Parser Text) (InClass : Text → Prop) (what : Text) : Prop where
  ok_iff : ∀ {s front rest : Text},
    p s = .ok (front, rest) ↔ s = front ++ rest ∧ IsLongest InClass front s
  error_iff : ∀ {s : Text} {failure : Failure},
    p s = .error failure ↔ failure = .malformed what s ∧ ∀ t, t <+: s → ¬ InClass t

/-- On every text a scanner does one thing or the other, and the two exclude each other. -/
theorem takesLongest_of {p : Parser Text}
    (h : ∀ s, (∃ front rest, s = front ++ rest ∧ IsLongest InClass front s ∧
        p s = .ok (front, rest)) ∨
      ((∀ t, t <+: s → ¬ InClass t) ∧ p s = .error (.malformed what s))) :
    p.TakesLongest InClass what where
  ok_iff := by
    intro s front rest
    rcases h s with ⟨front', rest', hs, hlongest, hp⟩ | ⟨hnone, hp⟩
    · rw [hp]
      constructor
      · intro heq
        obtain ⟨rfl, rfl⟩ := Prod.mk.inj (Except.ok.inj heq)
        exact ⟨hs, hlongest⟩
      · rintro ⟨hsplit, hlongest'⟩
        obtain rfl := hlongest.unique hlongest'
        obtain rfl := List.append_cancel_left (hs.symm.trans hsplit)
        rfl
    · rw [hp]
      constructor
      · exact nofun
      · rintro ⟨-, hlongest⟩
        exact absurd hlongest.inClass (hnone front hlongest.atFront)
  error_iff := by
    intro s failure
    rcases h s with ⟨front, rest, -, hlongest, hp⟩ | ⟨hnone, hp⟩
    · rw [hp]
      constructor
      · exact nofun
      · rintro ⟨-, hnone⟩
        exact absurd hlongest.inClass (hnone front hlongest.atFront)
    · rw [hp]
      constructor
      · intro heq
        exact ⟨(Except.error.inj heq).symm, hnone⟩
      · rintro ⟨rfl, -⟩
        rfl

/-- The empty run is at the front of every text, so this scanner does not fail. -/
theorem takesLongest_takeWhile (accept : Char → Bool) (what : Text) :
    (takeWhile accept).TakesLongest (IsRun accept) what := by
  apply takesLongest_of
  intro s
  obtain ⟨run, rest, rfl, hrun, hrest⟩ := exists_run accept s
  exact Or.inl ⟨run, rest, rfl, isLongest_of_stops (fun _ => id) hrun hrest,
    takeWhile_append hrun hrest⟩

theorem takesLongest_takeWhile1 (accept : Char → Bool) (what : Text) :
    (takeWhile1 accept what).TakesLongest (fun t => t ≠ [] ∧ IsRun accept t) what := by
  apply takesLongest_of
  intro s
  by_cases hstops : Stops accept s
  · refine Or.inr ⟨?_, takeWhile1_of_stops hstops⟩
    rintro t ⟨rest, rfl⟩ ⟨hne, hrun⟩
    obtain ⟨c, tail, rfl⟩ := List.exists_cons_of_ne_nil hne
    have hreject := stops_cons.1 ((stops_append_iff hne).1 hstops)
    simp [hrun c (List.mem_cons_self ..)] at hreject
  · obtain ⟨run, rest, rfl, hrun, hrest⟩ := exists_run accept s
    have hne : run ≠ [] := by
      rintro rfl
      exact hstops hrest
    exact Or.inl ⟨run, rest, rfl, isLongest_of_stops (fun _ => And.right) ⟨hne, hrun⟩ hrest,
      takeWhile1_append hne hrun hrest⟩

theorem takesLongest_identifier : identifier.TakesLongest IsName "identifier".toList := by
  apply takesLongest_of
  intro s
  by_cases hstops : Stops Char.isAlpha s
  · refine Or.inr ⟨?_, identifier_of_stops hstops⟩
    rintro t ⟨rest, rfl⟩ hname
    exact hname.not_stops rest hstops
  · obtain ⟨name, rest, rfl, hname, hrest⟩ := exists_name hstops
    exact Or.inl ⟨name, rest, rfl, isLongest_of_stops (fun _ => IsName.isAlphanumeric) hname hrest,
      identifier_append hname hrest⟩

/-- A name is there if the first character is a letter, whatever comes behind it. -/
theorem identifier_ok_iff {s : Text} : (∃ name rest, identifier s = .ok (name, rest)) ↔
    ∃ c rest, s = c :: rest ∧ c.isAlpha = true := by
  constructor
  · rintro ⟨name, rest, h⟩
    obtain ⟨rfl, hlongest⟩ := takesLongest_identifier.ok_iff.1 h
    exact exists_cons_of_not_stops (hlongest.inClass.not_stops rest)
  · rintro ⟨c, rest, rfl, hletter⟩
    have hstops : ¬ Stops Char.isAlpha (c :: rest) := by simp [hletter]
    obtain ⟨name, rest', hs, hname, hrest⟩ := exists_name hstops
    exact ⟨name, rest', by rw [hs, identifier_append hname hrest]⟩

theorem tag_ok_iff {t s rest : Text} : tag t s = .ok ((), rest) ↔ s = t ++ rest := by
  constructor
  · intro h
    by_cases hprefix : t <+: s
    · obtain ⟨rest', rfl⟩ := hprefix
      rw [tag_append] at h
      obtain ⟨-, rfl⟩ := Prod.mk.inj (Except.ok.inj h)
      rfl
    · have hfails := tag_of_not_prefix hprefix
      rw [hfails] at h
      cases h
  · rintro rfl
    exact tag_append t rest

theorem tag_error_iff {t s : Text} {failure : Failure} :
    tag t s = .error failure ↔ failure = .malformed t s ∧ ¬ t <+: s := by
  by_cases hprefix : t <+: s
  · obtain ⟨rest, rfl⟩ := hprefix
    simp [tag_append]
  · have hfails := tag_of_not_prefix hprefix
    rw [hfails]
    constructor
    · intro h
      exact ⟨(Except.error.inj h).symm, hprefix⟩
    · rintro ⟨rfl, -⟩
      rfl

/-- Scanning a run splits any text without loss where the run stops, and a run that must not be empty
    is the same run, or the text stays as it is. So each scanner takes the longest digits, spaces or
    name, or fails on a text that is left as it is; a name is found exactly behind a letter and is
    never empty; and a fixed text is taken off exactly the texts that start with it. -/
theorem scanners_take_longest :
    (∀ accept s, ∃ run rest, takeWhile accept s = .ok (run, rest) ∧ run ++ rest = s ∧
      IsRun accept run ∧ Stops accept rest ∧
      ∀ what, takeWhile1 accept what s
        = if run ≠ [] then .ok (run, rest) else .error (.malformed what s)) ∧
    digits.TakesLongest (fun t => t ≠ [] ∧ IsRun Char.isDigit t) "digits".toList ∧
    (∀ s, ∃ run rest, spaces s = .ok (run, rest) ∧ s = run ++ rest ∧
      IsLongest (IsRun (· = ' ')) run s) ∧
    spaces1.TakesLongest (fun t => t ≠ [] ∧ IsRun (· = ' ') t) "whitespace".toList ∧
    identifier.TakesLongest IsName "identifier".toList ∧
    (∀ s, ((∃ name rest, identifier s = .ok (name, rest)) ↔
        ∃ c rest, s = c :: rest ∧ c.isAlpha = true) ∧
      ∀ name rest, identifier s = .ok (name, rest) → name ≠ []) ∧
    ∀ t s, (∀ rest, tag t s = .ok ((), rest) ↔ s = t ++ rest) ∧
      ∀ failure, tag t s = .error failure ↔ failure = .malformed t s ∧ ¬ t <+: s := by
  refine ⟨?_, takesLongest_takeWhile1 .., ?_, takesLongest_takeWhile1 .., takesLongest_identifier,
    ?_, fun t s => ⟨fun rest => tag_ok_iff, fun failure => tag_error_iff⟩⟩
  · intro accept s
    obtain ⟨run, rest, rfl, hrun, hrest⟩ := exists_run accept s
    refine ⟨run, rest, takeWhile_append hrun hrest, rfl, hrun, hrest, fun what => ?_⟩
    by_cases hne : run = []
    · subst hne
      exact takeWhile1_of_stops hrest
    · rw [if_pos hne]
      exact takeWhile1_append hne hrun hrest
  · intro s
    obtain ⟨run, rest, rfl, hrun, hrest⟩ := exists_run (· = ' ') s
    have hspaces : spaces (run ++ rest) = .ok (run, rest) := takeWhile_append hrun hrest
    exact ⟨run, rest, hspaces, (takesLongest_takeWhile _ []).ok_iff.1 hspaces⟩
  · refine fun s => ⟨identifier_ok_iff, ?_⟩
    rintro name rest h rfl
    exact (takesLongest_identifier.ok_iff.1 h).2.inClass

end Parser

end LetCalc
