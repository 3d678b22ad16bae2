import TextQuest.Json.Record
import TextQuest.Proofs.Json.Passing

namespace TextQuest.Json

variable {α ρ : Type} {room : Nat}

structure Slot where
  name : String
  holds : Value → Prop
  mayMiss : Prop

/-- An object tells of slots: none is filled twice, each holds what it may, and none is missing that may
not be. What else stands in the object does not matter. -/
structure Told (slots : List Slot) (pairs : List (String × Value)) : Prop where
  once : ∀ slot ∈ slots, (pairs.map Prod.fst).count slot.name ≤ 1
  holds : ∀ slot ∈ slots, ∀ value, (slot.name, value) ∈ pairs → slot.holds value
  given : ∀ slot ∈ slots, slot.name ∈ pairs.map Prod.fst ∨ slot.mayMiss

theorem nextMember_shown {first : Bool} {mark before : List Char} (parts : Parts first mark)
    (apart : Spaces before) (t : List Char) :
    nextMember first (mark ++ (before ++ '"' :: t)) = .ok (some t) := by
  unfold nextMember
  cases parts with
  | first =>
    rw [List.nil_append, skip_spaces apart, skip_solid rfl]
    rfl
  | later spaced =>
    rw [List.append_assoc, skip_spaces spaced, List.singleton_append, skip_solid rfl]
    simp only [skip_spaces apart, skip_solid (c := '"') rfl]

theorem nextMember_end (first : Bool) {gap : List Char} (spaced : Spaces gap) (t : List Char) :
    nextMember first (gap ++ '}' :: t) = .ok none := by
  unfold nextMember
  rw [skip_spaces spaced, skip_solid rfl]
  cases first <;> rfl

theorem objectEnd_gap {gap : List Char} (spaced : Spaces gap) (rest : List Char) :
    objectEnd (gap ++ '}' :: rest) = .ok rest := by
  rw [objectEnd, skip_spaces spaced, skip_solid rfl]
  rfl

theorem colon_gap {gap : List Char} (spaced : Spaces gap) (rest : List Char) :
    colon (gap ++ ':' :: rest) = .ok rest := by
  rw [colon, skip_spaces spaced, skip_solid rfl]
  rfl

theorem SpellsName.parts {name : String} {lead : List Char} (named : SpellsName name lead) :
    ∃ before after s, Spaces before ∧ Spaces after ∧ SpellsChars name.toList s ∧
      lead = before ++ '"' :: (s ++ '"' :: (after ++ [':'])) := by
  obtain ⟨spaced, chars, apart⟩ := named
  exact ⟨_, _, _, spaced, apart, chars, by simp⟩

theorem nextMember_member {first : Bool} {mark : List Char} (parts : Parts first mark) {member : Member}
    (spaced : member.Spaced) (members : List Member) (rest : List Char) :
    ∃ name after, SpellsChars member.name.toList name ∧ Spaces after ∧
      nextMember first (mark ++ (separated ((member :: members).map Member.shown) ++ '}' :: rest)) =
        .ok (some (name ++ '"' :: (after ++ ':' :: (member.toItem.shown ++
          behind '}' (members.map Member.shown) rest)))) := by
  obtain ⟨before, after, name, spacedName, apart, chars, lead⟩ := spaced.named.parts
  refine ⟨name, after, chars, apart, ?_⟩
  rw [List.map_cons, separated_behind, Member.shown, lead]
  simpa using nextMember_shown parts spacedName _

theorem length_member_le {members : List Member} {member : Member} (within : member ∈ members) :
    member.text.length ≤ (separated (members.map Member.shown)).length := by
  have shown := length_le_separated (List.mem_map_of_mem (f := Member.shown) within)
  simp only [Member.shown, Item.shown, List.length_append] at shown
  omega

theorem length_members_le {members : List Member}
    (spells : ∀ member ∈ members, Spells member.value member.text) :
    members.length ≤ (separated (members.map Member.shown)).length := by
  have nonempty : ∀ part ∈ members.map Member.shown, part ≠ [] := by
    intro part within
    obtain ⟨member, inside, rfl⟩ := List.mem_map.mp within
    obtain ⟨c, t, text, -⟩ := (spells member inside).first
    simp [Member.shown, Item.shown, text]
  simpa using count_le_separated nonempty

structure Member.Readable (room : Nat) (member : Member) : Prop extends spaced : member.Spaced where
  spells : Spells member.value member.text
  short : member.text.length < room

theorem readable_members {members : List Member} (spaced : ∀ member ∈ members, member.Spaced)
    (spells : ∀ member ∈ members, Spells member.value member.text)
    (fits : (separated (members.map Member.shown)).length < room) :
    ∀ member ∈ members, member.Readable room :=
  fun member within =>
    ⟨spaced member within, spells member within, Nat.lt_of_le_of_lt (length_member_le within) fits⟩

theorem Reads.field {reader : Reader α} {value : Value} {found : α} {put : α → ρ → ρ}
    (reads : Reads room reader value found) (name : String) {before after : ρ}
    (puts : put found before = after) : Reads room ((Field.of name reader put).fill before) value after := by
  intro gap s rest spaced spells short ends
  simp only [Field.of, reads spaced spells short ends, bind, Except.bind, puts, pure, Except.pure]

namespace Form

variable {form : Form ρ} {part : List String → ρ}

def Fits (form : Form ρ) (room : Nat) (part : List String → ρ) (filled : List String) (name : String)
    (value : Value) : Prop :=
  match form.fields.find? (·.name = name) with
  | none => part (name :: filled) = part filled
  | some field => name ∉ filled ∧ Reads room (field.fill (part filled)) value (part (name :: filled))

def FitInto (form : Form ρ) (room : Nat) (part : List String → ρ) :
    List String → List (String × Value) → Prop
  | _, [] => True
  | filled, (name, value) :: later =>
    form.Fits room part filled name value ∧ form.FitInto room part (name :: filled) later

theorem memberInto_shown {member : Member} {filled : List String}
    (fits : form.Fits room part filled member.name member.value) (readable : member.Readable room)
    {gap rest : List Char} (apart : Spaces gap) (ends : Ends rest) :
    form.memberInto room filled member.name (part filled)
        (gap ++ ':' :: (member.toItem.shown ++ rest)) =
      .ok (part (member.name :: filled), member.after ++ rest) := by
  obtain ⟨spaced, spells, short⟩ := readable
  have behind := ends_spaces spaced.after ends
  simp only [Item.shown, List.append_assoc]
  unfold memberInto
  unfold Fits at fits
  cases known : form.fields.find? (·.name = member.name) with
  | none =>
    rw [known] at fits
    simp only [colon_gap apart, bind, Except.bind,
      pass_value spaced.before spells (Nat.le_of_lt short) behind, fits, pure, Except.pure]
  | some field =>
    rw [known] at fits
    obtain ⟨fresh, reads⟩ := fits
    have other : filled.contains member.name = false := by simpa using fresh
    simp only [other, colon_gap apart, bind, Except.bind, reads spaced.before spells short behind]
    rfl

theorem membersInto_end (incomplete : form.complete = false) (room left : Nat) (first : Bool)
    (filled : List String) (record : ρ) {gap : List Char} (apart : Spaces gap) (rest : List Char) :
    form.membersInto room (left + 1) first filled record (gap ++ '}' :: rest) =
      .ok (record, gap ++ '}' :: rest) := by
  have all : (form.fields.find? fun field => form.complete && !filled.contains field.name) = none := by
    simp [incomplete]
  simp only [membersInto, nextMember_end first apart, all]

theorem membersInto_shown (incomplete : form.complete = false) {members : List Member}
    (some : members ≠ []) {filled : List String}
    (fit : form.FitInto room part filled (members.map Member.pair))
    (readable : ∀ member ∈ members, member.Readable room) (rest : List Char) {left : Nat}
    (enough : members.length ≤ left) {first : Bool} {mark : List Char} (parts : Parts first mark) :
    ∃ gap, Spaces gap ∧
      form.membersInto room (left + 1) first filled (part filled)
          (mark ++ (separated (members.map Member.shown) ++ '}' :: rest)) =
        .ok (part ((members.map (·.name)).reverse ++ filled), gap ++ '}' :: rest) := by
  induction members generalizing left first mark filled with
  | nil => contradiction
  | cons member members ih =>
    obtain ⟨left, rfl⟩ : ∃ k, left = k + 1 := ⟨left - 1, by simp at enough; omega⟩
    obtain ⟨here, others⟩ := List.forall_mem_cons.mp readable
    obtain ⟨fits, fit⟩ := fit
    obtain ⟨name, after, chars, gap, goes⟩ := nextMember_member parts here.spaced members rest
    have taken := memberInto_shown fits here gap
      (ends_behind (List.mem_cons_of_mem _ (List.mem_cons_self ..)) (members.map Member.shown) rest)
    rw [membersInto, goes]
    simp only [textAfterQuote_chars chars, taken, bind, Except.bind, pure, Except.pure]
    by_cases last : members = []
    · subst last
      refine ⟨member.after, here.after, ?_⟩
      exact membersInto_end incomplete room left false (member.name :: filled) _ here.after rest
    · obtain ⟨gap, apart, passed⟩ := ih last fit others (by simpa using enough) (.later here.after)
      refine ⟨gap, apart, ?_⟩
      simpa [behind, last] using passed

theorem object_brace (form : Form ρ) {gap text : List Char} (spaced : Spaces gap) {found : ρ}
    {after rest : List Char} (apart : Spaces after)
    (taken : form.membersInto room room true [] form.blank text = .ok (found, after ++ '}' :: rest)) :
    form.read room (gap ++ '{' :: text) = .ok (found, rest) := by
  rw [read, skip_spaces spaced, skip_solid (c := '{') rfl]
  simp only [taken, bind, Except.bind, objectEnd_gap apart, pure, Except.pure, placeBy]

theorem reads_members (incomplete : form.complete = false) (blank : part [] = form.blank)
    {pairs : List (String × Value)} (fit : form.FitInto room part [] pairs) :
    Reads room (form.read room) (.object pairs) (part (pairs.map Prod.fst).reverse) := by
  intro gap s rest spaced spells short _
  obtain ⟨left, rfl⟩ : ∃ left, room = left + 1 := ⟨room - 1, by omega⟩
  cases spells with
  | @emptyObject within apart =>
    have taken := membersInto_end incomplete (left + 1) left true [] form.blank apart rest
    simpa [blank] using form.object_brace spaced apart taken
  | @object members some spacedMembers spells =>
    have fits : (separated (members.map Member.shown)).length ≤ left := by
      simp only [List.length_append, List.length_cons] at short
      omega
    have enough := Nat.le_trans (length_members_le spells) fits
    obtain ⟨after, apart, taken⟩ := membersInto_shown incomplete some fit
      (readable_members spacedMembers spells (Nat.lt_succ_of_le fits)) rest enough .first
    rw [blank, List.append_nil] at taken
    have names : (members.map Member.pair).map Prod.fst = members.map (·.name) := by
      rw [List.map_map]
      rfl
    rw [names]
    simpa using form.object_brace spaced apart taken

def Takes (room : Nat) (part : List String → ρ) (field : Field ρ) (slot : Slot) : Prop :=
  field.name = slot.name ∧ ∀ filled value, slot.holds value →
    Reads room (field.fill (part filled)) value (part (slot.name :: filled))

theorem takes_of {name : String} {reader : Reader α} {found : α} {put : α → ρ → ρ}
    {holds : Value → Prop} {mayMiss : Prop} (reads : ∀ value, holds value → Reads room reader value found)
    (puts : ∀ filled, put found (part filled) = part (name :: filled)) :
    Takes room part (.of name reader put) ⟨name, holds, mayMiss⟩ :=
  ⟨rfl, fun filled value held => (reads value held).field name (puts filled)⟩

theorem takes_value {name : String} {reader : Reader α} {value : Value} {found : α} {put : α → ρ → ρ}
    {mayMiss : Prop} (reads : Reads room reader value found)
    (puts : ∀ filled, put found (part filled) = part (name :: filled)) :
    Takes room part (.of name reader put) ⟨name, (· = value), mayMiss⟩ :=
  takes_of (fun _ same => same ▸ reads) puts

theorem exists_mem_right {γ δ : Type} {relation : γ → δ → Prop} {left : List γ} {right : List δ}
    (related : List.Forall₂ relation left right) {one : γ} (within : one ∈ left) :
    ∃ other ∈ right, relation one other := by
  induction related with
  | nil => simp at within
  | cons first _ ih =>
    rcases List.mem_cons.mp within with rfl | later
    · exact ⟨_, List.mem_cons_self .., first⟩
    · obtain ⟨other, inside, relates⟩ := ih later
      exact ⟨other, List.mem_cons_of_mem _ inside, relates⟩

theorem exists_mem_left {γ δ : Type} {relation : γ → δ → Prop} {left : List γ} {right : List δ}
    (related : List.Forall₂ relation left right) {other : δ} (within : other ∈ right) :
    ∃ one ∈ left, relation one other :=
  exists_mem_right related.flip within

theorem fitInto_told {slots : List Slot} (takes : List.Forall₂ (Takes room part) form.fields slots)
    (others : ∀ name filled, (∀ slot ∈ slots, name ≠ slot.name) → part (name :: filled) = part filled)
    {pairs : List (String × Value)} (told : Told slots pairs) : form.FitInto room part [] pairs := by
  suffices fit : ∀ front back, pairs = front ++ back →
      form.FitInto room part (front.map Prod.fst).reverse back from fit [] pairs rfl
  intro front back whole
  induction back generalizing front with
  | nil => trivial
  | cons pair back ih =>
    obtain ⟨name, value⟩ := pair
    refine ⟨?_, by simpa using ih (front ++ [(name, value)]) (by simpa using whole)⟩
    unfold Fits
    split
    · rename_i unknown
      refine others _ _ fun slot within same => ?_
      obtain ⟨field, inside, named, -⟩ := exists_mem_left takes within
      simpa [named, same] using List.find?_eq_none.mp unknown field inside
    · rename_i field known
      have named : field.name = name := by simpa using List.find?_some known
      obtain ⟨slot, inside, same, takes⟩ := exists_mem_right takes (List.mem_of_find?_eq_some known)
      obtain rfl : slot.name = name := same.symm.trans named
      refine ⟨fun earlier => ?_, takes _ value (told.holds slot inside value (by simp [whole]))⟩
      have once := told.once slot inside
      have before : 0 < (front.map Prod.fst).count slot.name :=
        List.count_pos_iff.mpr (List.mem_reverse.mp earlier)
      simp only [whole, List.map_append, List.map_cons, List.count_append, List.count_cons_self] at once
      omega

theorem reads_told {slots : List Slot} {whole : ρ} (incomplete : form.complete = false)
    (blank : part [] = form.blank) (takes : List.Forall₂ (Takes room part) form.fields slots)
    (others : ∀ name filled, (∀ slot ∈ slots, name ≠ slot.name) → part (name :: filled) = part filled)
    (ends : ∀ filled, (∀ slot ∈ slots, slot.name ∈ filled ∨ slot.mayMiss) → part filled = whole)
    {pairs : List (String × Value)} (told : Told slots pairs) :
    Reads room (form.read room) (.object pairs) whole := by
  have given : part (pairs.map Prod.fst).reverse = whole :=
    ends _ fun slot within => (told.given slot within).imp_left List.mem_reverse.mpr
  rw [← given]
  exact reads_members incomplete blank (fitInto_told takes others told)

end Form
end TextQuest.Json
