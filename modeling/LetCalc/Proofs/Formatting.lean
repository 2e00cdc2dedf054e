import LetCalc.Template

set_option autoImplicit false

/-! # Formatting

A template can be read once and filled as often as wanted, or its notation can be formatted in one
pass, which looks up each argument where its field is met. Both go through the notation in the same
way, and what they make of it is the same message, or the same fault (`Template.format_eq`): filling
can be done piece by piece (`Template.scanFrom_flatMap`). So it cannot depend on the arguments, apart
from their number, whether formatting succeeds (`Template.format_map`). -/

namespace LetCalc.Template

/-! ## Formatting in one pass -/

/-- The argument with the given number. -/
def argument (args : List Text) (number : Nat) : Except Fault Text :=
  match args[number]? with
  | some t => .ok t
  | none => .error (.missingArgument number)

/-- Formats the rest of a template from the given place. -/
def formatFrom (args : List Text) : Place → Numbering → Text → Except Fault Text :=
  scanFrom (fun c => [c]) (argument args)

/-- The message that a template makes of the arguments. -/
def format (args : List Text) (s : Text) : Except Fault Text :=
  formatFrom args .message .undecided s

/-! ### Against reading and filling -/

section

variable {α β : Type} {char : Char → List α} {slot : Nat → Except Fault (List α)} (g : α → List β)

/-- A piece in front can be changed by itself. -/
theorem map_bind_append (t : List α) (tail : Except Fault (List α)) :
    (do return t ++ (← tail) : Except Fault (List α)).map (List.flatMap g)
      = do return t.flatMap g ++ (← tail.map (List.flatMap g)) := by
  cases tail with
  | error fault => rfl
  | ok u => exact congrArg Except.ok List.flatMap_append

/-- So can what stands for a field, whatever the field refers to. -/
theorem map_refer_bind (numbering : Numbering) (name : Text)
    (rest : Numbering → Except Fault (List α)) :
    (do
      let (number, numbering) ← refer numbering name
      return (← slot number) ++ (← rest numbering) : Except Fault (List α)).map (List.flatMap g)
      = do
        let (number, numbering) ← refer numbering name
        return (← (slot number).map (List.flatMap g)) ++ (← (rest numbering).map (List.flatMap g)) := by
  cases refer numbering name with
  | error fault => rfl
  | ok r =>
      show (slot r.1 >>= _).map _ = (slot r.1).map _ >>= _
      cases slot r.1 with
      | error fault => rfl
      | ok t => exact map_bind_append g t (rest r.2)

/-- What a template is made into can be changed piece by piece. -/
theorem scanFrom_flatMap (p : Place) (numbering : Numbering) (s : Text) :
    (scanFrom char slot p numbering s).map (List.flatMap g)
      = scanFrom (fun c => (char c).flatMap g) (fun number => (slot number).map (List.flatMap g))
          p numbering s := by
  fun_induction scanFrom char slot p numbering s with
  -- the end of the text, and an opening brace in a field
  | case1 | case2 | case3 | case4 | case14 => rfl
  -- a brace in the message
  | case5 _ _ ih | case6 _ _ _ ih => exact ih
  -- a doubled brace
  | case8 _ _ ih | case12 _ _ ih =>
      rw [map_bind_append, ih]
      rfl
  -- another character in the message, and behind a closing brace
  | case7 _ _ _ hopening hclosing ih =>
      rw [map_bind_append, ih, scanFrom, if_neg hopening, if_neg hclosing]
  | case13 _ _ _ hclosing =>
      rw [scanFrom, if_neg hclosing]
      rfl
  -- another character in a field
  | case10 _ _ _ hopening hclosing helaborate | case16 _ _ _ _ hopening hclosing helaborate =>
      rw [scanFrom, if_neg hopening, if_neg hclosing, if_pos helaborate]
      rfl
  | case11 _ _ _ hopening hclosing hplain ih | case17 _ _ _ _ hopening hclosing hplain ih =>
      rw [ih, scanFrom, if_neg hopening, if_neg hclosing, if_neg hplain]
  -- the end of a field
  | case9 numbering rest _ ih =>
      refine (map_refer_bind g numbering [] (scanFrom char slot .message · rest)).trans ?_
      simp only [ih]
      rfl
  | case15 name numbering rest _ ih =>
      refine (map_refer_bind g numbering name (scanFrom char slot .message · rest)).trans ?_
      simp only [ih]
      rfl

end

/-- Filling the place of an argument is looking the argument up. -/
theorem place_map_slot (args : List Text) (number : Nat) :
    ((place args.length number).map fun i => [Segment.slot i]).map
        (List.flatMap (segmentText args.get)) = argument args number := by
  unfold place argument
  by_cases h : number < args.length
  · rw [dif_pos h, List.getElem?_eq_getElem h]
    exact congrArg Except.ok (List.append_nil _)
  · rw [dif_neg h, List.getElem?_eq_none (Nat.le_of_not_lt h)]
    rfl

/-- Formatting is reading and filling. -/
theorem format_eq (args : List Text) (s : Text) :
    format args s = (read args.length s).map (fill · args.get) := by
  have hslot : (fun number => ((place args.length number).map fun i => [Segment.slot i]).map
      (List.flatMap (segmentText args.get))) = argument args := funext (place_map_slot args)
  show _ = (read args.length s).map (List.flatMap (segmentText args.get))
  rw [read, scanFrom_flatMap, hslot]
  rfl

/-- Where all arguments are changed in one way, the template that is filled is the same. -/
theorem format_map (change : Text → Text) (args : List Text) (s : Text) :
    format (args.map change) s
      = (read args.length s).map (fill · fun i => change (args.get i)) := by
  have hlength (n : Nat) (h : (args.map change).length = n) :
      format (args.map change) s
        = (read n s).map (fill · fun i => (args.map change).get (i.cast h.symm)) := by
    subst h
    exact format_eq ..
  rw [hlength args.length (List.length_map change)]
  simp

end LetCalc.Template
