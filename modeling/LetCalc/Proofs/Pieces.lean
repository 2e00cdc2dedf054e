import LetCalc.Proofs.Formatting

set_option autoImplicit false

/-! # The notation for templates in pieces

The notation is made of pieces: characters of the message, of which the braces are doubled, fields
without a number, which take the arguments in turn, and fields with a number, whose digits mean what
they usually do (`FieldNumber.value_of_isDigit`, `FieldNumber.value_ofNat`). A text that is written in
pieces can be formatted if and only if the pieces are well made for the number of arguments, and then
each field has been replaced by its argument as it stands (`Template.format_written_eq_ok_iff`).
Arguments that no field refers to make no difference, neither to the message nor to a fault
(`Template.format_written_congr`). -/

namespace LetCalc.Template

/-! ## The numbers of fields -/

/-- The number in a field, in decimal digits of any script. -/
structure FieldNumber where
  digits : Text
  ne_nil : digits ≠ []
  isDigit : ∀ c ∈ digits, (DecimalDigit.value? c).isSome = true

namespace FieldNumber

/-- The number that the digits denote. -/
def value (number : FieldNumber) : Nat :=
  DecimalDigit.number (DecimalDigit.leading number.digits)

theorem foldl_leading {digits : Text} (h : ∀ c ∈ digits, c.isDigit = true) (n : Nat) :
    (DecimalDigit.leading digits).foldl (fun n d => 10 * n + d) n = Nat.ofDigitChars 10 digits n := by
  induction digits generalizing n with
  | nil => rfl
  | cons c digits ih =>
      obtain ⟨hc, hdigits⟩ := List.forall_mem_cons.1 h
      rw [DecimalDigit.leading, DecimalDigit.value?_of_isDigit hc, Nat.ofDigitChars_cons,
        ← ih hdigits]
      rfl

/-- A number in ASCII digits has its usual value. -/
theorem value_of_isDigit {number : FieldNumber} (h : ∀ c ∈ number.digits, c.isDigit = true) :
    number.value = Decimal.value number.digits := foldl_leading h 0

theorem ofNat_ne_nil {n : Nat} : Decimal.ofNat n ≠ [] := Nat.toDigits_ne_nil

theorem isDigit_ofNat {n : Nat} : ∀ c ∈ Decimal.ofNat n, c.isDigit = true :=
  fun _ => Nat.isDigit_of_mem_toDigits (by decide) (by decide)

theorem isSome_value?_ofNat {n : Nat} :
    ∀ c ∈ Decimal.ofNat n, (DecimalDigit.value? c).isSome = true := by
  intro c hc
  rw [DecimalDigit.value?_of_isDigit (isDigit_ofNat c hc)]
  rfl

/-- `n` as it is printed. -/
def ofNat (n : Nat) : FieldNumber := ⟨Decimal.ofNat n, ofNat_ne_nil, isSome_value?_ofNat⟩

theorem value_ofNat (n : Nat) : (ofNat n).value = n := by
  rw [value_of_isDigit isDigit_ofNat]
  exact Decimal.value_ofNat n

end FieldNumber

/-! ## Pieces -/

/-- A piece of the notation for templates. -/
inductive Piece where
  /-- A character of the message. -/
  | char (c : Char)
  /-- A field without a number. -/
  | field
  /-- A field with a number. -/
  | numbered (number : FieldNumber)

/-- The notation of a piece. A character of the message stands for itself, a brace is doubled. -/
def Piece.text : Piece → Text
  | .char c => if c = openingBrace ∨ c = closingBrace then [c, c] else [c]
  | .field => [openingBrace, closingBrace]
  | .numbered number => openingBrace :: (number.digits ++ [closingBrace])

/-- The number in a field. -/
def Piece.number? : Piece → Option Nat
  | .numbered number => some number.value
  | _ => none

/-- The template that is written with the given pieces. -/
def written (pieces : List Piece) : Text := pieces.flatMap Piece.text

/-- The numbers of the arguments that the fields refer to: a field refers to the argument with its
    number, and the fields without numbers take the arguments in turn, from `next` on. -/
def arguments : Nat → List Piece → List Nat
  | _, [] => []
  | next, .char _ :: rest => arguments next rest
  | next, .field :: rest => next :: arguments (next + 1) rest
  | next, .numbered number :: rest => number.value :: arguments next rest

/-- The message in which each field has been replaced by the argument that it refers to. -/
def message (args : List Text) : Nat → List Piece → Text
  | _, [] => []
  | next, .char c :: rest => c :: message args next rest
  | next, .field :: rest => args.getD next [] ++ message args (next + 1) rest
  | next, .numbered number :: rest => args.getD number.value [] ++ message args next rest

/-- The argument that the next field without a number takes. -/
def Numbering.next : Numbering → Nat
  | .automatic next => next
  | _ => 0

/-- The fields all have numbers or none has, and they go on as the fields before them. -/
def Uniform : Numbering → List Piece → Prop
  | .undecided, pieces => .field ∉ pieces ∨ ∀ piece ∈ pieces, piece.number? = none
  | .automatic _, pieces => ∀ piece ∈ pieces, piece.number? = none
  | .manual, pieces => .field ∉ pieces

/-- Where the fields before are numbered in the given way, the pieces make a message of `count`
    arguments. -/
structure WellMade (count : Nat) (numbering : Numbering) (pieces : List Piece) : Prop where
  uniform : Uniform numbering pieces
  inRange : ∀ i ∈ arguments numbering.next pieces, i < count
  bounded : ∀ piece ∈ pieces, ∀ number, piece.number? = some number → number < Nat.pow 2 63

/-! ### Formatting a piece -/

variable {args : List Text} {numbering : Numbering}

theorem formatFrom_char (c : Char) (rest : Text) :
    formatFrom args .message numbering (Piece.text (.char c) ++ rest)
      = (formatFrom args .message numbering rest).map (c :: ·) := by
  have hmap : (formatFrom args .message numbering rest >>= fun t => Except.ok (c :: t))
      = (formatFrom args .message numbering rest).map (c :: ·) := by
    cases formatFrom args .message numbering rest <;> rfl
  rw [← hmap]
  by_cases hopening : c = openingBrace
  · subst hopening
    rfl
  · by_cases hclosing : c = closingBrace
    · subst hclosing
      rfl
    · have htext : Piece.text (.char c) = [c] := if_neg (not_or.2 ⟨hopening, hclosing⟩)
      rw [htext, List.singleton_append, formatFrom, scanFrom, if_neg hopening, if_neg hclosing]
      rfl

/-- What the formatter does at a field with the given content. -/
def insertFrom (args : List Text) (numbering : Numbering) (name rest : Text) : Except Fault Text :=
  (refer numbering name).bind fun r => (argument args r.1).bind fun t =>
    (formatFrom args .message r.2 rest).map (t ++ ·)

theorem formatFrom_field (rest : Text) :
    formatFrom args .message numbering (Piece.text .field ++ rest)
      = insertFrom args numbering [] rest := rfl

/-- A digit neither closes a field nor starts anything else in it. -/
theorem not_mark_of_digit {c : Char} (h : (DecimalDigit.value? c).isSome = true) :
    c ≠ openingBrace ∧ c ≠ closingBrace ∧ c ∉ elaborations := by
  refine ⟨?_, ?_, ?_⟩
  · rintro rfl
    exact absurd h (by decide)
  · rintro rfl
    exact absurd h (by decide)
  · intro hc
    have hnone : (elaborations.all fun d => (DecimalDigit.value? d).isNone) = true := by decide
    have hc := Option.isNone_iff_eq_none.1 (List.all_eq_true.1 hnone c hc)
    rw [hc] at h
    cases h

/-- Digits are collected until the field is closed. -/
theorem formatFrom_digits {digits : Text}
    (h : ∀ c ∈ digits, (DecimalDigit.value? c).isSome = true) (name rest : Text) :
    formatFrom args (.field name) numbering (digits ++ closingBrace :: rest)
      = insertFrom args numbering (name ++ digits) rest := by
  induction digits generalizing name with
  | nil =>
      rw [List.append_nil]
      rfl
  | cons c digits ih =>
      obtain ⟨hc, hdigits⟩ := List.forall_mem_cons.1 h
      obtain ⟨hopening, hclosing, hplain⟩ := not_mark_of_digit hc
      rw [List.cons_append, formatFrom, scanFrom, if_neg hopening, if_neg hclosing, if_neg hplain]
      show formatFrom args (.field (name ++ [c])) numbering _ = _
      rw [ih hdigits, List.append_assoc, List.singleton_append]

theorem formatFrom_numbered (number : FieldNumber) (rest : Text) :
    formatFrom args .message numbering (Piece.text (.numbered number) ++ rest)
      = insertFrom args numbering number.digits rest := by
  obtain ⟨digits, hne, hdigits⟩ := number
  obtain ⟨c, digits, rfl⟩ := List.exists_cons_of_ne_nil hne
  obtain ⟨hc, hmore⟩ := List.forall_mem_cons.1 hdigits
  obtain ⟨hopening, hclosing, hplain⟩ := not_mark_of_digit hc
  have htext : Piece.text (.numbered ⟨c :: digits, hne, hdigits⟩) ++ rest
      = openingBrace :: c :: (digits ++ closingBrace :: rest) := by
    simp [Piece.text]
  rw [htext, formatFrom, scanFrom, if_pos rfl, scanFrom, if_neg hopening, if_neg hclosing,
    if_neg hplain]
  show formatFrom args (.field [c]) numbering _ = _
  rw [formatFrom_digits hmore]
  rfl

/-! ### What a field refers to -/

theorem length_leading {digits : Text}
    (h : ∀ c ∈ digits, (DecimalDigit.value? c).isSome = true) :
    (DecimalDigit.leading digits).length = digits.length := by
  induction digits with
  | nil => rfl
  | cons c digits ih =>
      obtain ⟨hc, hdigits⟩ := List.forall_mem_cons.1 h
      obtain ⟨d, hd⟩ := Option.isSome_iff_exists.1 hc
      rw [DecimalDigit.leading, hd]
      exact congrArg (· + 1) (ih hdigits)

theorem refer_field_eq_ok_iff {r : Nat × Numbering} : refer numbering [] = .ok r ↔
    numbering ≠ .manual ∧ r = (numbering.next, .automatic (numbering.next + 1)) := by
  cases numbering <;> simp [refer, Numbering.next, eq_comm]

theorem refer_numbered_eq_ok_iff (number : FieldNumber) {r : Nat × Numbering} :
    refer numbering number.digits = .ok r ↔
      (number.value < Nat.pow 2 63 ∧ (numbering = .undecided ∨ numbering = .manual))
        ∧ r = (number.value, .manual) := by
  unfold refer
  simp only [if_neg number.ne_nil, if_pos (length_leading number.isDigit)]
  show (if Nat.pow 2 63 ≤ number.value then _ else _) = _ ↔ _
  by_cases hlong : Nat.pow 2 63 ≤ number.value
  · rw [if_pos hlong]
    constructor
    · intro h
      cases h
    · rintro ⟨⟨hshort, -⟩, -⟩
      exact absurd hshort (Nat.not_lt.2 hlong)
  · rw [if_neg hlong]
    have hshort := Nat.lt_of_not_le hlong
    cases numbering with
    | undecided | manual =>
        exact ⟨fun h => ⟨⟨hshort, by simp⟩, (Except.ok.inj h).symm⟩, fun h => h.2 ▸ rfl⟩
    | automatic next => simp

theorem map_eq_ok_iff {f : Text → Text} {outcome : Except Fault Text} {m : Text} :
    outcome.map f = .ok m ↔ ∃ tail, outcome = .ok tail ∧ m = f tail := by
  cases outcome <;> simp [Except.map, eq_comm]

/-- A field is replaced if it refers to an argument and the rest can be formatted. -/
theorem insertFrom_eq_ok_iff {name rest m : Text} {allowed : Prop} {number : Nat}
    {after : Numbering}
    (hrefer : ∀ {r}, refer numbering name = .ok r ↔ allowed ∧ r = (number, after)) :
    insertFrom args numbering name rest = .ok m ↔ allowed ∧ number < args.length ∧
      ∃ tail, formatFrom args .message after rest = .ok tail ∧ m = args.getD number [] ++ tail := by
  unfold insertFrom
  cases hr : refer numbering name with
  | error fault =>
      constructor
      · intro h
        cases h
      · rintro ⟨hallowed, -⟩
        cases hr.symm.trans (hrefer.2 ⟨hallowed, rfl⟩)
  | ok r =>
      obtain ⟨hallowed, rfl⟩ := hrefer.1 hr
      by_cases hnumber : number < args.length
      · have hget := List.getElem?_eq_getElem hnumber
        have hargument : argument args number = .ok args[number] := by
          rw [argument, hget]
        have hgetD : args.getD number [] = args[number] := by
          rw [List.getD_eq_getElem?_getD, hget]
          rfl
        show (argument args number).bind _ = _ ↔ _
        rw [hargument, hgetD]
        show Except.map _ (formatFrom args .message after rest) = _ ↔ _
        rw [map_eq_ok_iff]
        exact ⟨fun h => ⟨hallowed, hnumber, h⟩, fun h => h.2.2⟩
      · have hargument : argument args number = .error (.missingArgument number) := by
          rw [argument, List.getElem?_eq_none (Nat.le_of_not_lt hnumber)]
        show (argument args number).bind _ = _ ↔ _
        rw [hargument]
        constructor
        · intro h
          cases h
        · exact fun h => absurd h.2.1 hnumber

/-! ### Well-made pieces -/

variable {count : Nat} {rest : List Piece}

theorem wellMade_nil : WellMade count numbering [] := by
  refine ⟨?_, nofun, nofun⟩
  cases numbering <;> simp [Uniform]

theorem wellMade_char {c : Char} :
    WellMade count numbering (.char c :: rest) ↔ WellMade count numbering rest := by
  have huniform : Uniform numbering (.char c :: rest) ↔ Uniform numbering rest := by
    cases numbering <;> simp [Uniform, Piece.number?]
  constructor
  · rintro ⟨hu, hinRange, hbounded⟩
    exact ⟨huniform.1 hu, hinRange, (List.forall_mem_cons.1 hbounded).2⟩
  · rintro ⟨hu, hinRange, hbounded⟩
    exact ⟨huniform.2 hu, hinRange, List.forall_mem_cons.2 ⟨nofun, hbounded⟩⟩

theorem wellMade_field : WellMade count numbering (.field :: rest) ↔
    numbering ≠ .manual ∧ numbering.next < count
      ∧ WellMade count (.automatic (numbering.next + 1)) rest := by
  have huniform : Uniform numbering (.field :: rest)
      ↔ numbering ≠ .manual ∧ Uniform (.automatic (numbering.next + 1)) rest := by
    cases numbering <;> simp [Uniform, Piece.number?]
  constructor
  · rintro ⟨hu, hinRange, hbounded⟩
    obtain ⟨hmanual, hrest⟩ := huniform.1 hu
    obtain ⟨hfirst, hothers⟩ := List.forall_mem_cons.1 hinRange
    exact ⟨hmanual, hfirst, hrest, hothers, (List.forall_mem_cons.1 hbounded).2⟩
  · rintro ⟨hmanual, hfirst, hrest, hothers, hbounded⟩
    exact ⟨huniform.2 ⟨hmanual, hrest⟩, List.forall_mem_cons.2 ⟨hfirst, hothers⟩,
      List.forall_mem_cons.2 ⟨nofun, hbounded⟩⟩

theorem wellMade_numbered {number : FieldNumber} :
    WellMade count numbering (.numbered number :: rest) ↔
      (number.value < Nat.pow 2 63 ∧ (numbering = .undecided ∨ numbering = .manual))
        ∧ number.value < count ∧ WellMade count .manual rest := by
  have huniform : Uniform numbering (.numbered number :: rest)
      ↔ (numbering = .undecided ∨ numbering = .manual) ∧ Uniform .manual rest := by
    cases numbering <;> simp [Uniform, Piece.number?]
  have hnext (hnumbering : numbering = .undecided ∨ numbering = .manual) :
      numbering.next = Numbering.next .manual := by
    rcases hnumbering with rfl | rfl <;> rfl
  constructor
  · rintro ⟨hu, hinRange, hbounded⟩
    obtain ⟨hnumbering, hrest⟩ := huniform.1 hu
    obtain ⟨hfirst, hothers⟩ := List.forall_mem_cons.1 hinRange
    obtain ⟨hshort, hmore⟩ := List.forall_mem_cons.1 hbounded
    rw [hnext hnumbering] at hothers
    exact ⟨⟨hshort _ rfl, hnumbering⟩, hfirst, hrest, hothers, hmore⟩
  · rintro ⟨⟨hshort, hnumbering⟩, hfirst, hrest, hothers, hbounded⟩
    rw [← hnext hnumbering] at hothers
    refine ⟨huniform.2 ⟨hnumbering, hrest⟩, List.forall_mem_cons.2 ⟨hfirst, hothers⟩,
      List.forall_mem_cons.2 ⟨?_, hbounded⟩⟩
    rintro number hnumber
    obtain rfl := Option.some.inj hnumber
    exact hshort

/-! ## Formatting what is written in pieces -/

theorem formatFrom_written_eq_ok_iff {pieces : List Piece} {m : Text} :
    formatFrom args .message numbering (written pieces) = .ok m ↔
      WellMade args.length numbering pieces ∧ m = message args numbering.next pieces := by
  induction pieces generalizing numbering m with
  | nil =>
      constructor
      · intro h
        obtain rfl := Except.ok.inj h
        exact ⟨wellMade_nil, rfl⟩
      · rintro ⟨-, rfl⟩
        rfl
  | cons piece rest ih =>
      rw [written, List.flatMap_cons]
      cases piece with
      | char c =>
          rw [formatFrom_char, map_eq_ok_iff, wellMade_char]
          constructor
          · rintro ⟨tail, htail, rfl⟩
            obtain ⟨hrest, rfl⟩ := ih.1 htail
            exact ⟨hrest, rfl⟩
          · rintro ⟨hrest, rfl⟩
            exact ⟨_, ih.2 ⟨hrest, rfl⟩, rfl⟩
      | field =>
          rw [formatFrom_field, insertFrom_eq_ok_iff refer_field_eq_ok_iff, wellMade_field]
          constructor
          · rintro ⟨hmanual, hnumber, tail, htail, rfl⟩
            obtain ⟨hrest, rfl⟩ := ih.1 htail
            exact ⟨⟨hmanual, hnumber, hrest⟩, rfl⟩
          · rintro ⟨⟨hmanual, hnumber, hrest⟩, rfl⟩
            exact ⟨hmanual, hnumber, _, ih.2 ⟨hrest, rfl⟩, rfl⟩
      | numbered number =>
          rw [formatFrom_numbered, insertFrom_eq_ok_iff (refer_numbered_eq_ok_iff number),
            wellMade_numbered]
          constructor
          · rintro ⟨hallowed, hnumber, tail, htail, rfl⟩
            obtain ⟨hrest, rfl⟩ := ih.1 htail
            refine ⟨⟨hallowed, hnumber, hrest⟩, ?_⟩
            rcases hallowed.2 with rfl | rfl <;> rfl
          · rintro ⟨⟨hallowed, hnumber, hrest⟩, rfl⟩
            refine ⟨hallowed, hnumber, _, ih.2 ⟨hrest, rfl⟩, ?_⟩
            rcases hallowed.2 with rfl | rfl <;> rfl

/-- Formatting succeeds for exactly the pieces that are well made, and then the arguments stand in the
    message as they are. -/
theorem format_written_eq_ok_iff {pieces : List Piece} {m : Text} :
    format args (written pieces) = .ok m ↔
      WellMade args.length .undecided pieces ∧ m = message args 0 pieces :=
  formatFrom_written_eq_ok_iff

example : written [.numbered (.ofNat 1), .char ' ', .char openingBrace, .numbered (.ofNat 0)]
    = "\x7b1\x7d \x7b\x7b\x7b0\x7d".toList := by decide

example : format ["\x7b0\x7d".toList, "\x7d".toList] "\x7b1\x7d \x7b\x7b\x7b0\x7d".toList
    = .ok "\x7d \x7b\x7b0\x7d".toList := rfl

/-! ### Arguments without a field -/

variable {other : List Text}

theorem insertFrom_congr {name rest : Text}
    (h : ∀ number after, refer numbering name = .ok (number, after) →
      other[number]? = args[number]? ∧
        formatFrom other .message after rest = formatFrom args .message after rest) :
    insertFrom other numbering name rest = insertFrom args numbering name rest := by
  unfold insertFrom
  cases hrefer : refer numbering name with
  | error fault => rfl
  | ok r =>
      obtain ⟨hget, hrest⟩ := h r.1 r.2 hrefer
      have hargument : argument other r.1 = argument args r.1 := by
        rw [argument, argument, hget]
      show (argument other r.1).bind _ = (argument args r.1).bind _
      rw [hargument, hrest]

theorem formatFrom_written_congr {pieces : List Piece}
    (h : ∀ i ∈ arguments numbering.next pieces, other[i]? = args[i]?) :
    formatFrom other .message numbering (written pieces)
      = formatFrom args .message numbering (written pieces) := by
  induction pieces generalizing numbering with
  | nil => rfl
  | cons piece rest ih =>
      rw [written, List.flatMap_cons]
      cases piece with
      | char c =>
          rw [formatFrom_char, formatFrom_char]
          exact congrArg _ (ih h)
      | field =>
          obtain ⟨hfirst, hothers⟩ := List.forall_mem_cons.1 h
          rw [formatFrom_field, formatFrom_field]
          refine insertFrom_congr fun number after hrefer => ?_
          obtain ⟨-, heq⟩ := refer_field_eq_ok_iff.1 hrefer
          obtain ⟨rfl, rfl⟩ := Prod.mk.inj heq
          exact ⟨hfirst, ih hothers⟩
      | numbered number =>
          obtain ⟨hfirst, hothers⟩ := List.forall_mem_cons.1 h
          rw [formatFrom_numbered, formatFrom_numbered]
          refine insertFrom_congr fun _ after hrefer => ?_
          obtain ⟨⟨-, hnumbering⟩, heq⟩ := (refer_numbered_eq_ok_iff number).1 hrefer
          obtain ⟨rfl, rfl⟩ := Prod.mk.inj heq
          refine ⟨hfirst, ih ?_⟩
          rcases hnumbering with rfl | rfl <;> exact hothers

/-- Arguments that no field refers to make no difference. -/
theorem format_written_congr {pieces : List Piece}
    (h : ∀ i ∈ arguments 0 pieces, other[i]? = args[i]?) :
    format other (written pieces) = format args (written pieces) := formatFrom_written_congr h

end LetCalc.Template
