import Mathlib.Data.List.Forall2
import TextQuest.Proofs.Json.Reading

namespace TextQuest.Json

variable {α : Type} {room : Nat}

/-- A reader takes a value off the front of each of its texts that is shorter than the room. -/
def Reads (room : Nat) (reader : Reader α) (value : Value) (found : α) : Prop :=
  ∀ ⦃gap s rest : List Char⦄, Spaces gap → Spells value s → s.length < room → Ends rest →
    reader (gap ++ (s ++ rest)) = .ok (found, rest)

theorem spaces_nil : Spaces [] := nofun

theorem ends_spaces {gap : List Char} (spaced : Spaces gap) {rest : List Char} (ends : Ends rest) :
    Ends (gap ++ rest) := by
  cases gap with
  | nil => exact ends
  | cons c gap =>
    intro d t begins
    obtain ⟨rfl, -⟩ := List.cons.inj begins
    have space := spaced c (List.mem_cons_self ..)
    simp only [isSpace, Bool.or_eq_true, beq_iff_eq] at space
    rcases space with ((rfl | rfl) | rfl) | rfl <;> decide

theorem read_spelled_spaces {reader : Nat → Reader α} {value : Value} {s gap : List Char} {found : α}
    (spells : Spells value s) (spaced : Spaces gap)
    (reads : Reads ((s ++ gap).length + 1) (reader ((s ++ gap).length + 1)) value found) :
    read reader (s ++ gap) = .ok found := by
  have ends : Ends gap := by
    have ended : Ends (gap ++ []) := ends_spaces spaced nofun
    rwa [List.append_nil] at ended
  have short : s.length < (s ++ gap).length + 1 := by
    rw [List.length_append]
    omega
  have taken := reads spaces_nil spells short ends
  rw [List.nil_append] at taken
  have skipped : skip gap = [] := by
    have passed := skip_spaces spaced []
    rwa [List.append_nil] at passed
  simp only [read, taken, bind, Except.bind, skipped]
  rfl

theorem read_spelled {reader : Nat → Reader α} {value : Value} {s : List Char} {found : α}
    (spells : Spells value s) (reads : Reads (s.length + 1) (reader (s.length + 1)) value found) :
    read reader s = .ok found := by
  have taken := @read_spelled_spaces _ reader _ _ _ found spells spaces_nil
  rw [List.append_nil] at taken
  exact taken reads

/-! ## How values begin -/

structure Opens (c : Char) : Prop where
  solid : isSpace c = false
  comma : c ≠ ','
  bracket : c ≠ ']'
  brace : c ≠ '}'

theorem opens_mark {c : Char} (mark : c ∈ ['n', 't', 'f', '"', '[', '{']) : Opens c := by
  simp only [List.mem_cons, List.not_mem_nil, or_false] at mark
  rcases mark with rfl | rfl | rfl | rfl | rfl | rfl <;> exact ⟨rfl, by decide, by decide, by decide⟩

theorem opens_digit {c : Char} (digit : c.isDigit = true) : Opens c := by
  have other (d : Char) (undigit : d.isDigit = false) : c ≠ d := by
    rintro rfl
    simp [digit] at undigit
  refine ⟨?_, other _ rfl, other _ rfl, other _ rfl⟩
  simp [isSpace, other ' ' rfl, other '\t' rfl, other '\r' rfl, other '\n' rfl]

theorem Numeral.Lawful.first {numeral : Numeral} (lawful : numeral.Lawful) :
    ∃ c t, numeral.text.toList = c :: t ∧ beginsNumber c = true := by
  rw [Numeral.toList_text]
  cases numeral.negative with
  | true => exact ⟨'-', _, rfl, rfl⟩
  | false =>
    obtain ⟨some, within⟩ := lawful.whole
    cases whole : numeral.whole with
    | nil => contradiction
    | cons d ds =>
      rw [whole] at within
      refine ⟨d, _, by simp [Numeral.unsigned, whole]; rfl, ?_⟩
      simp [beginsNumber, within d (List.mem_cons_self ..)]

theorem opens_number {c : Char} (begins : beginsNumber c = true) : Opens c := by
  simp only [beginsNumber, Bool.or_eq_true, beq_iff_eq] at begins
  rcases begins with rfl | digit
  · exact ⟨rfl, by decide, by decide, by decide⟩
  · exact opens_digit digit

theorem Spells.first {value : Value} {s : List Char} (spells : Spells value s) :
    ∃ c t, s = c :: t ∧ Opens c ∧ (c = 'n' → value = .null) := by
  cases spells with
  | null => exact ⟨_, _, rfl, opens_mark (by simp), fun _ => rfl⟩
  | number lawful =>
    obtain ⟨c, t, text, begins⟩ := lawful.first
    refine ⟨c, t, text, opens_number begins, ?_⟩
    rintro rfl
    contradiction
  | _ => exact ⟨_, _, rfl, opens_mark (by simp), by simp⟩

/-! ## Plain values -/

theorem reads_bool (value : Bool) : Reads room bool (.bool value) value := by
  intro gap s rest spaced spells _ _
  rw [bool, skip_spaces spaced]
  cases spells <;> rfl

theorem reads_text (value : String) : Reads room text (.text value) value := by
  intro gap s rest spaced spells _ _
  rw [text, skip_spaces spaced]
  cases spells with
  | text chars =>
    rw [List.cons_append, List.cons_append, skip_solid rfl, List.append_assoc]
    exact textAfterQuote_chars chars rest

theorem reads_whole {kind : String} {low high n : Int} (least : low ≤ n) (most : n ≤ high)
    (bounded : -Nat.pow 2 63 ≤ low ∧ high < Nat.pow 2 64) :
    Reads room (whole kind low high) (.ofInt n) n := by
  intro gap s rest spaced spells _ ends
  obtain ⟨c, t, begins, opens⟩ := (Numeral.lawful_ofInt n).first
  rw [Numeral.text_ofInt] at begins
  have taken := number_ofInt_append (n := n) (by omega) (by omega) ends
  rw [begins, List.cons_append] at taken
  rw [whole, skip_spaces spaced, spells.toList_number, begins, List.cons_append,
    skip_solid (opens_number opens).solid]
  simp only [opens, if_true, taken, bind, Except.bind, least, most, and_self, pure, Except.pure]

theorem reads_null (content : Reader α) : Reads room (option content) .null none := by
  intro gap s rest spaced spells _ _
  rw [option, skip_spaces spaced]
  cases spells
  rfl

theorem Reads.option {content : Reader α} {value : Value} {found : α}
    (reads : Reads room content value found) (some : value ≠ .null) :
    Reads room (option content) value (.some found) := by
  intro gap s rest spaced spells short ends
  obtain ⟨c, t, begins, opens, null⟩ := spells.first
  have taken := reads spaces_nil spells short ends
  rw [begins, List.nil_append, List.cons_append] at taken
  rw [Json.option, skip_spaces spaced, begins, List.cons_append, skip_solid opens.solid]
  split
  · rename_i same
    exact absurd (null (List.cons.inj same).1) some
  · rw [taken]
    rfl

theorem reads_optional {content : Reader α} {tell : α → Value}
    (reads : ∀ found, Reads room content (tell found) found) (some : ∀ found, tell found ≠ .null)
    (value : Option α) : Reads room (option content) (value.elim .null tell) value := by
  cases value with
  | none => exact reads_null content
  | some value => exact (reads value).option (some value)

/-! ## Lists -/

theorem ends_mark {c : Char} (mark : c ∈ [',', ']', '}']) (t : List Char) : Ends (c :: t) := by
  intro d u begins
  obtain ⟨rfl, -⟩ := List.cons.inj begins
  simp only [List.mem_cons, List.not_mem_nil, or_false] at mark
  rcases mark with rfl | rfl | rfl <;> decide

inductive Parts : Bool → List Char → Prop
  | first : Parts true []
  | later {gap : List Char} (spaced : Spaces gap) : Parts false (gap ++ [','])

theorem nextItem_shown {first : Bool} {mark before : List Char} (parts : Parts first mark)
    (apart : Spaces before) {c : Char} (opens : Opens c) (t : List Char) :
    nextItem first (mark ++ (before ++ c :: t)) = .ok (some (c :: t)) := by
  unfold nextItem
  cases parts with
  | first =>
    rw [List.nil_append, skip_spaces apart, skip_solid opens.solid]
    split <;> simp_all [opens.bracket]
  | later spaced =>
    rw [List.append_assoc, skip_spaces spaced, List.singleton_append, skip_solid rfl]
    simp only [skip_spaces apart, skip_solid opens.solid]
    split <;> simp_all [opens.bracket]

theorem nextItem_end (first : Bool) {gap : List Char} (spaced : Spaces gap) (t : List Char) :
    nextItem first (gap ++ ']' :: t) = .ok none := by
  unfold nextItem
  rw [skip_spaces spaced, skip_solid rfl]
  cases first <;> rfl

def behind (close : Char) (texts : List (List Char)) (rest : List Char) : List Char :=
  if texts = [] then close :: rest else ',' :: (separated texts ++ close :: rest)

theorem ends_behind {close : Char} (closes : close ∈ [']', '}']) (texts : List (List Char))
    (rest : List Char) : Ends (behind close texts rest) := by
  unfold behind
  split
  · exact ends_mark (List.mem_cons_of_mem _ closes) _
  · exact ends_mark (List.mem_cons_self ..) _

theorem separated_behind (close : Char) (text : List Char) (texts : List (List Char))
    (rest : List Char) :
    separated (text :: texts) ++ close :: rest = text ++ behind close texts rest := by
  cases texts with
  | nil => simp [separated, behind]
  | cons next texts => simp [separated, behind]

structure Item.Readable (room : Nat) (item : Item) : Prop extends item.Spaced where
  spells : Spells item.value item.text
  short : item.text.length < room

theorem itemsFrom_shown {reader : Reader α} {items : List Item} {found : List α}
    (reads : List.Forall₂ (fun item found => Reads room reader item.value found) items found)
    (some : items ≠ []) (readable : ∀ item ∈ items, item.Readable room) (rest : List Char) {left : Nat}
    (enough : items.length ≤ left) {first : Bool} {mark : List Char} (parts : Parts first mark)
    (seen : List α) :
    ∃ gap, Spaces gap ∧
      itemsFrom reader (left + 1) first seen
          (mark ++ (separated (items.map Item.shown) ++ ']' :: rest)) =
        .ok (seen.reverse ++ found, gap ++ ']' :: rest) := by
  -- Only the first item has no comma in front, so `first` and `mark` change on the way.
  induction reads generalizing left first mark seen with
  | nil => contradiction
  | @cons item found items later reads further ih =>
    obtain ⟨left, rfl⟩ : ∃ k, left = k + 1 := ⟨left - 1, by simp at enough; omega⟩
    obtain ⟨here, others⟩ := List.forall_mem_cons.mp readable
    obtain ⟨c, t, text, opens, -⟩ := here.spells.first
    have goes : nextItem first (mark ++ (separated ((item :: items).map Item.shown) ++ ']' :: rest)) =
        .ok (.some (item.text ++ (item.after ++ behind ']' (items.map Item.shown) rest))) := by
      rw [List.map_cons, separated_behind, Item.shown, text]
      simpa using nextItem_shown parts here.before opens _
    have taken := reads spaces_nil here.spells here.short
      (ends_spaces here.after (ends_behind (List.mem_cons_self ..) (items.map Item.shown) rest))
    rw [List.nil_append] at taken
    rw [itemsFrom, goes]
    simp only [taken]
    by_cases last : items = []
    · subst last
      cases further
      refine ⟨item.after, here.after, ?_⟩
      simp [itemsFrom, behind, nextItem_end _ here.after]
    · obtain ⟨gap, apart, passed⟩ :=
        ih last others (by simpa using enough) (.later here.after) (found :: seen)
      refine ⟨gap, apart, ?_⟩
      simpa [behind, last] using passed

theorem length_le_separated {parts : List (List Char)} {part : List Char} (within : part ∈ parts) :
    part.length ≤ (separated parts).length := by
  fun_induction separated parts with
  | case1 => simp at within
  | case2 s => simp_all
  | case3 s rest _ ih =>
    rcases List.mem_cons.mp within with rfl | later
    · simp
    · have := ih later
      simp
      omega

theorem count_le_separated {parts : List (List Char)} (some : ∀ part ∈ parts, part ≠ []) :
    parts.length ≤ (separated parts).length := by
  fun_induction separated parts with
  | case1 => simp
  | case2 s => exact List.length_pos_iff.mpr (some s (by simp))
  | case3 s rest _ ih =>
    have := ih fun part within => some part (List.mem_cons_of_mem _ within)
    simp only [List.length_cons, List.length_append]
    omega

theorem length_items_le {items : List Item} (spells : ∀ item ∈ items, Spells item.value item.text) :
    items.length ≤ (separated (items.map Item.shown)).length := by
  have nonempty : ∀ part ∈ items.map Item.shown, part ≠ [] := by
    intro part within
    obtain ⟨item, inside, rfl⟩ := List.mem_map.mp within
    obtain ⟨c, t, text, -⟩ := (spells item inside).first
    simp [Item.shown, text]
  simpa using count_le_separated nonempty

theorem length_text_le {items : List Item} {item : Item} (within : item ∈ items) :
    item.text.length ≤ (separated (items.map Item.shown)).length := by
  have shown := length_le_separated (List.mem_map_of_mem (f := Item.shown) within)
  simp only [Item.shown, List.length_append] at shown
  omega

theorem readable_items {items : List Item} (spaced : ∀ item ∈ items, item.Spaced)
    (spells : ∀ item ∈ items, Spells item.value item.text)
    (fits : (separated (items.map Item.shown)).length < room) : ∀ item ∈ items, item.Readable room :=
  fun item within =>
    ⟨spaced item within, spells item within, Nat.lt_of_le_of_lt (length_text_le within) fits⟩

theorem listEnd_gap {gap : List Char} (spaced : Spaces gap) (rest : List Char) :
    listEnd (gap ++ ']' :: rest) = .ok rest := by
  rw [listEnd, skip_spaces spaced, skip_solid rfl]
  rfl

theorem list_bracket {reader : Reader α} {gap text : List Char} (spaced : Spaces gap) {found : List α}
    {after rest : List Char} (apart : Spaces after)
    (taken : itemsFrom reader room true [] text = .ok (found, after ++ ']' :: rest)) :
    list room reader (gap ++ '[' :: text) = .ok (found, rest) := by
  rw [list, skip_spaces spaced, skip_solid (c := '[') rfl]
  simp only [listAfterBracket, taken, bind, Except.bind, listEnd_gap apart, pure, Except.pure, placeBy]

theorem reads_list {reader : Reader α} {values : List Value} {found : List α}
    (reads : List.Forall₂ (Reads room reader) values found) :
    Reads room (list room reader) (.array values) found := by
  intro gap s rest spaced spells short _
  obtain ⟨left, rfl⟩ : ∃ left, room = left + 1 := ⟨room - 1, by omega⟩
  cases spells with
  | @emptyArray within apart =>
    cases reads
    have taken : itemsFrom reader (left + 1) true [] (within ++ ']' :: rest) =
        .ok ([], within ++ ']' :: rest) := by
      simp [itemsFrom, nextItem_end _ apart]
    simpa using list_bracket spaced apart taken
  | @array items some spacedItems spells =>
    rw [List.forall₂_map_left_iff] at reads
    have fits : (separated (items.map Item.shown)).length ≤ left := by
      simp only [List.length_append, List.length_cons] at short
      omega
    have enough := Nat.le_trans (length_items_le spells) fits
    obtain ⟨after, apart, taken⟩ := itemsFrom_shown reads some
      (readable_items spacedItems spells (Nat.lt_succ_of_le fits)) rest enough .first []
    simpa using list_bracket spaced apart taken

theorem reads_strings (values : List String) : Reads room (list room text) (.ofStrings values) values := by
  refine reads_list ?_
  rw [List.forall₂_map_left_iff, List.forall₂_same]
  exact fun value _ => reads_text value

end TextQuest.Json
