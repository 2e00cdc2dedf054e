import LetCalc.Stmt

set_option autoImplicit false

/-! # Bindings keep the last write

Bindings are only ever stored to, looked up and asked for names. What they answer after a history of
such requests is settled by the values that were stored under the name, in their order
(`Bindings.storedUnder`): the last one is the value, and without one there is no binding
(`Bindings.replies_answer`). The names stand in the order in which they were stored first, and each of
them once (`Bindings.keys_after`). How the names came into that order makes no difference to whether
bindings are equal: they are if they answer alike under every name (`Bindings.equals_iff_alike`).
`Bindings.answers_last_write` puts this together. -/

namespace LetCalc.Bindings

/-! ## Requests -/

/-- What can be asked of bindings. -/
inductive Request where
  | store (name : Text) (n : Int)
  | lookup (name : Text)
  | contains (name : Text)
deriving DecidableEq

/-- What a request is answered. -/
inductive Reply where
  | stored
  | outcome (result : Except Failure Int)
  | contained (known : Bool)

/-- Answers a request, and gives the bindings afterwards. -/
def answer (bindings : Bindings) : Request → Reply × Bindings
  | .store name n => (.stored, bindings.store name n)
  | .lookup name => (.outcome (bindings.lookup name), bindings)
  | .contains name => (.contained (bindings.contains name), bindings)

/-- The bindings after a history of requests. -/
def after (bindings : Bindings) (history : List Request) : Bindings :=
  history.foldl (fun bindings request => (bindings.answer request).2) bindings

namespace Request

/-- The name and the value that a request stores. -/
def stored? : Request → Option (Text × Int)
  | .store name n => some (name, n)
  | .lookup _ | .contains _ => none

/-- The name that a request stores under. -/
def target? (request : Request) : Option Text := request.stored?.map Prod.fst

end Request

/-- The values that a history stores under `name`, in their order. -/
def storedUnder (name : Text) (history : List Request) : List Int :=
  (history.filterMap Request.stored?).filterMap fun s => if s.1 = name then some s.2 else none

/-- What a request comes to after a history on bindings that were empty. -/
inductive Replies (history : List Request) : Request → Reply → Prop where
  | stores {name : Text} {n : Int} : Replies history (.store name n) .stored
  | finds {name : Text} {n : Int} (h : (storedUnder name history).getLast? = some n) :
      Replies history (.lookup name) (.outcome (.ok n))
  | misses {name : Text} (h : storedUnder name history = []) :
      Replies history (.lookup name) (.outcome (.error (.unboundName name)))
  | contains {name : Text} (h : storedUnder name history ≠ []) :
      Replies history (.contains name) (.contained true)
  | lacks {name : Text} (h : storedUnder name history = []) :
      Replies history (.contains name) (.contained false)

/-! ## Values -/

variable {bindings : Bindings} {history : List Request}

theorem answer_of_stored {request : Request} {name : Text} {n : Int}
    (h : request.stored? = some (name, n)) :
    (bindings.answer request).2 = bindings.store name n := by
  cases request with
  | store => cases h; rfl
  | lookup | contains => cases h

theorem answer_of_not_stored {request : Request} (h : request.stored? = none) :
    (bindings.answer request).2 = bindings := by
  cases request with
  | store => cases h
  | lookup | contains => rfl

theorem get?_after (bindings : Bindings) (name : Text) (history : List Request) :
    (bindings.after history).get? name
      = (storedUnder name history).getLast?.or (bindings.get? name) := by
  induction history generalizing bindings with
  | nil => rfl
  | cons request rest ih =>
      show (after (bindings.answer request).2 rest).get? name = _
      rw [ih]
      cases hstored : request.stored? with
      | none => simp [storedUnder, answer_of_not_stored hstored, hstored]
      | some s =>
          obtain ⟨target, n⟩ := s
          rw [answer_of_stored hstored, store, Table.get?_insert]
          by_cases hname : name = target
          · subst hname
            simp [storedUnder, hstored, List.getLast?_cons]
          · simp [storedUnder, hstored, hname, Ne.symm hname]

theorem get?_after_empty (name : Text) (history : List Request) :
    (after ∅ history).get? name = (storedUnder name history).getLast? := by
  rw [get?_after, Table.get?_empty, Option.or_none]

/-- Every request is answered from the values stored under its name. -/
theorem replies_answer (history : List Request) (request : Request) :
    Replies history request ((after ∅ history).answer request).1 := by
  cases request with
  | store name n => exact .stores
  | lookup name =>
      have hget := get?_after_empty name history
      show Replies history _ (.outcome ((after ∅ history).lookup name))
      cases hlast : (storedUnder name history).getLast? with
      | none =>
          rw [hlast] at hget
          rw [lookup_eq_error_iff.2 ⟨rfl, hget⟩]
          exact .misses (List.getLast?_eq_none_iff.1 hlast)
      | some n =>
          rw [hlast] at hget
          rw [lookup_eq_ok_iff.2 hget]
          exact .finds hlast
  | contains name =>
      show Replies history _ (.contained ((after ∅ history).contains name))
      rw [Table.contains, get?_after_empty]
      by_cases hnone : storedUnder name history = []
      · rw [hnone]
        exact .lacks hnone
      · rw [List.getLast?_isSome.2 hnone]
        exact .contains hnone

/-! ## Names -/

/-- The names are those that were stored under, in the order in which they were first. -/
theorem keys_after {names : List Text} (h : bindings.keys = names.eraseDups)
    (history : List Request) : (bindings.after history).keys
      = (names ++ history.filterMap Request.target?).eraseDups := by
  induction history generalizing bindings names with
  | nil => simpa [after] using h
  | cons request rest ih =>
      show (after (bindings.answer request).2 rest).keys = _
      cases hstored : request.stored? with
      | none =>
          rw [answer_of_not_stored hstored, ih h]
          simp [Request.target?, hstored]
      | some s =>
          rw [answer_of_stored hstored, store, ih (Table.keys_insert_eraseDups h s.1 s.2)]
          simp [Request.target?, hstored]

/-! ## Equality -/

theorem equals_iff_alike {other : Bindings} : bindings.equals (some other) = true ↔
    ∀ name, bindings.contains name = other.contains name ∧
      bindings.lookup name = other.lookup name := by
  rw [equals, Option.any_some, Table.agrees_iff]
  constructor
  · intro h name
    rw [Table.contains, Table.contains, lookup, lookup, h]
    exact ⟨rfl, rfl⟩
  · intro h name
    obtain ⟨-, hlookup⟩ := h name
    apply Option.ext
    intro n
    rw [← lookup_eq_ok_iff, ← lookup_eq_ok_iff, hlookup]

/-- After any history of requests on bindings that were empty, whatever is asked next is answered from
    the values that were stored under its name: the last of them, or that there is none. Only storing
    changes the bindings. Their names are listed once each, in the order in which they were first
    stored, and the size is the number of names. Two such histories, whatever the order of their
    requests, come to bindings that are equal exactly if no name tells them apart; nothing else is
    equal to bindings. -/
theorem answers_last_write (history : List Request) :
    let final := after ∅ history
    (∀ request, Replies history request (final.answer request).1) ∧
    (∀ request, request.stored? = none → (final.answer request).2 = final) ∧
    final.keys = (history.filterMap Request.target?).eraseDups ∧ final.keys.Nodup ∧
    final.size = (history.filterMap Request.target?).eraseDups.length ∧
    (∀ history', final.equals (some (after ∅ history')) = true ↔
      ∀ name, final.contains name = (after ∅ history').contains name ∧
        final.lookup name = (after ∅ history').lookup name) ∧
    final.equals none = false := by
  intro final
  have hkeys : final.keys = (history.filterMap Request.target?).eraseDups := by
    have hempty : (∅ : Bindings).keys = ([] : List Text).eraseDups := rfl
    rw [keys_after hempty, List.nil_append]
  refine ⟨replies_answer history, fun _ => answer_of_not_stored, hkeys, final.nodup, ?_,
    fun _ => equals_iff_alike, rfl⟩
  rw [← Table.length_keys, hkeys]

end LetCalc.Bindings
