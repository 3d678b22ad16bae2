import TextQuest.Proofs.Json.Reads

namespace TextQuest.Json

def Printable (s : List Char) : Prop := ∀ d ∈ s, ' ' ≤ d

instance (s : List Char) : Decidable (Printable s) := List.decidableBAll (' ' ≤ ·) s

theorem Printable.newline_not_mem {s : List Char} (printable : Printable s) : '\n' ∉ s :=
  fun within => absurd (printable '\n' within) (by decide)

theorem Printable.append {s t : List Char} (first : Printable s) (second : Printable t) :
    Printable (s ++ t) :=
  fun d within => (List.mem_append.mp within).elim (first d) (second d)

theorem Printable.cons {c : Char} {s : List Char} (first : ' ' ≤ c) (later : Printable s) :
    Printable (c :: s) :=
  List.forall_mem_cons.mpr ⟨first, later⟩

theorem Printable.bracketed {s : List Char} (printable : Printable s) {left right : Char}
    (begins : ' ' ≤ left) (ends : ' ' ≤ right) : Printable (left :: s ++ [right]) :=
  (printable.cons begins).append (.cons ends nofun)

theorem printable_separated {parts : List (List Char)} (printable : ∀ part ∈ parts, Printable part) :
    Printable (separated parts) := by
  fun_induction separated parts with
  | case1 => exact List.forall_mem_nil _
  | case2 s => exact printable s (List.mem_cons_self ..)
  | case3 s rest _ ih =>
    have later := ih fun part within => printable part (List.mem_cons_of_mem _ within)
    exact (printable s (List.mem_cons_self ..)).append (later.cons (by decide))

/-! ## Texts -/

theorem hexDigit_printable (n : Nat) : ' ' ≤ hexDigit n := by
  have small : ∀ digit < 16, ' ' ≤ Nat.digitChar digit := by decide
  exact small _ (Nat.mod_lt n (by decide))

theorem escape_printable (c : Char) : Printable (escape c) := by
  intro d within
  unfold escape at within
  split at within
  case h_8 =>
    split at within
    · simp only [List.mem_cons, List.not_mem_nil, or_false] at within
      rcases within with rfl | rfl | rfl | rfl | rfl | rfl
      · decide
      · decide
      · decide
      · decide
      · exact hexDigit_printable _
      · exact hexDigit_printable _
    · rename_i above
      obtain rfl := List.mem_singleton.mp within
      exact Char.not_lt.mp above
  all_goals
    simp only [List.mem_cons, List.not_mem_nil, or_false] at within
    rcases within with rfl | rfl <;> decide

theorem quote_printable (text : String) : Printable (quote text) := by
  have within : Printable (text.toList.flatMap escape) := fun d within => by
    obtain ⟨c, -, inside⟩ := List.mem_flatMap.mp within
    exact escape_printable c d inside
  exact within.bracketed (by decide) (by decide)

theorem hex4?_control {c : Char} (control : c < ' ') :
    hex4? '0' '0' (hexDigit (c.toNat / 16)) (hexDigit c.toNat) = some c.toNat := by
  have known : ∀ n < 32, hex4? '0' '0' (hexDigit (n / 16)) (hexDigit n) = some n := by decide
  exact known _ control

theorem spells_escape (c : Char) : SpellsChar c (escape c) := by
  unfold escape
  split
  case h_8 quote backslash _ _ _ _ _ =>
    split
    · rename_i control
      exact .code (hex4?_control control)
    · rename_i above
      exact .plain (Char.not_lt.mp above) quote backslash
  all_goals exact .letter (by decide)

theorem spells_quoted (cs : List Char) : SpellsChars cs (cs.flatMap escape) := by
  induction cs with
  | nil => exact .nil
  | cons c cs ih => exact .cons (spells_escape c) ih

structure Printed (value : Value) : Prop where
  spells : Spells value (render value)
  printable : Printable (render value)

theorem printed_text (text : String) : Printed (.text text) where
  spells := by
    rw [render]
    exact .text (spells_quoted text.toList)
  printable := by
    rw [render]
    exact quote_printable text

theorem printed_bool (value : Bool) : Printed (.bool value) := by
  cases value with
  | true => exact ⟨.yes, by decide⟩
  | false => exact ⟨.no, by decide⟩

theorem printed_null : Printed .null := ⟨.null, by decide⟩

theorem isDigit_printable {c : Char} (digit : c.isDigit = true) : ' ' ≤ c := by
  have least : '0' ≤ c := by
    simp only [Char.isDigit, Bool.and_eq_true, decide_eq_true_eq] at digit
    exact digit.1
  exact Char.le_trans (by decide) least

theorem printed_ofInt (n : Int) : Printed (.ofInt n) where
  spells := by
    rw [Value.ofInt, render, ← Numeral.text_ofInt]
    exact .number (Numeral.lawful_ofInt n)
  printable := by
    rw [Value.ofInt, render, ← Numeral.text_ofInt, Numeral.toList_text]
    have digits : Printable (Numeral.ofInt n).unsigned := fun d within => by
      have inside : d ∈ Nat.toDigits 10 n.natAbs := by
        simpa [Numeral.unsigned, Numeral.ofInt] using within
      exact isDigit_printable ((digits_toDigits n.natAbs).2 d inside)
    split
    · exact digits.cons (by decide)
    · exact digits

/-! ## Brackets -/

def Item.ofValue (value : Value) : Item := ⟨value, [], render value, []⟩

theorem renderItems_eq (values : List Value) :
    renderItems values = separated ((values.map Item.ofValue).map Item.shown) := by
  induction values with
  | nil => rfl
  | cons value values ih =>
    cases values with
    | nil => simp [renderItems, separated, Item.shown, Item.ofValue]
    | cons next values => simp [renderItems, separated, Item.shown, Item.ofValue, ih]

theorem printed_array {values : List Value} (printed : ∀ value ∈ values, Printed value) :
    Printed (.array values) where
  spells := by
    rw [render, renderItems_eq]
    by_cases none : values = []
    · subst none
      exact .emptyArray spaces_nil
    · have items : (values.map Item.ofValue).map Item.value = values := by
        rw [List.map_map]
        exact List.map_id values
      have some : values.map Item.ofValue ≠ [] := by simpa using none
      have spells := Spells.array some (List.forall_mem_map.mpr fun _ _ => ⟨spaces_nil, spaces_nil⟩)
        (List.forall_mem_map.mpr fun value within => (printed value within).spells)
      rwa [items] at spells
  printable := by
    rw [render, renderItems_eq]
    refine (printable_separated ?_).bracketed (by decide) (by decide)
    simpa [Item.shown, Item.ofValue] using fun value within => (printed value within).printable

theorem printed_strings (texts : List String) : Printed (.ofStrings texts) :=
  printed_array (List.forall_mem_map.mpr fun text _ => printed_text text)

theorem printed_name (name : String) : SpellsName name (quote name ++ [':']) := by
  have spells := SpellsName.mk spaces_nil (spells_quoted name.toList) spaces_nil
  simpa [quote] using spells

def Member.ofPair (pair : String × Value) : Member :=
  { Item.ofValue pair.2 with name := pair.1, lead := quote pair.1 ++ [':'] }

theorem Member.Spaced.ofPair (pair : String × Value) : (Member.ofPair pair).Spaced :=
  ⟨⟨spaces_nil, spaces_nil⟩, printed_name pair.1⟩

theorem renderMembers_eq (pairs : List (String × Value)) :
    renderMembers pairs = separated ((pairs.map Member.ofPair).map Member.shown) := by
  induction pairs with
  | nil => rfl
  | cons pair pairs ih =>
    cases pairs with
    | nil => simp [renderMembers, separated, Member.shown, Item.shown, Member.ofPair, Item.ofValue]
    | cons next pairs =>
      simp [renderMembers, separated, Member.shown, Item.shown, Member.ofPair, Item.ofValue, ih]

theorem printed_object {pairs : List (String × Value)} (printed : ∀ pair ∈ pairs, Printed pair.2) :
    Printed (.object pairs) where
  spells := by
    rw [render, renderMembers_eq]
    by_cases none : pairs = []
    · subst none
      exact .emptyObject spaces_nil
    · have members : (pairs.map Member.ofPair).map Member.pair = pairs := by
        rw [List.map_map]
        exact List.map_id pairs
      have some : pairs.map Member.ofPair ≠ [] := by simpa using none
      have spells := Spells.object some
        (List.forall_mem_map.mpr fun pair _ => Member.Spaced.ofPair pair)
        (List.forall_mem_map.mpr fun pair within => (printed pair within).spells)
      rwa [members] at spells
  printable := by
    rw [render, renderMembers_eq]
    refine (printable_separated ?_).bracketed (by decide) (by decide)
    rw [List.map_map]
    refine List.forall_mem_map.mpr fun pair within => ?_
    have name : Printable (quote pair.1 ++ [':']) := (quote_printable pair.1).append (by decide)
    simpa [Member.shown, Item.shown, Member.ofPair, Item.ofValue] using
      name.append (printed pair within).printable

end TextQuest.Json
