import TextQuest.Proofs.Json.Reads

namespace TextQuest.Json

def passWithin (left : Nat) (bracket : Bracket) (around : List Bracket) (s : List Char) :
    Except Break (List Char) :=
  match bracket.lead s with
  | .error found => .error found
  | .ok s => passFrom left (bracket :: around) s

def passOn (left : Nat) (opened : List Bracket) (s : List Char) : Except Break (List Char) :=
  match passClosing opened s with
  | .error found => .error found
  | .ok ([], s) => .ok s
  | .ok (bracket :: around, s) => passWithin left bracket around s

/-- A text is passed over wherever a value can stand: what is reached after it with enough room is
reached from before it with room for the text besides. -/
def Passes (s : List Char) : Prop :=
  ∀ ⦃gap rest : List Char⦄ ⦃opened : List Bracket⦄ ⦃enough : Nat⦄ ⦃out : List Char⦄, Spaces gap →
    Ends rest → (∀ left, enough ≤ left → passOn left opened rest = .ok out) →
      ∀ left, enough + s.length ≤ left → passFrom left opened (gap ++ (s ++ rest)) = .ok out

theorem passFrom_succ (left : Nat) (opened : List Bracket) (s : List Char) :
    passFrom (left + 1) opened s =
      match passBeginning opened s with
      | .error found => .error found
      | .ok ([], s) => .ok s
      | .ok (bracket :: around, s) => passWithin left bracket around s := by
  rw [passFrom]
  rfl

theorem passes_once {s : List Char} (some : s ≠ [])
    (begins : ∀ gap rest opened, Spaces gap → Ends rest →
      passBeginning opened (gap ++ (s ++ rest)) = passClosing opened rest) : Passes s := by
  intro gap rest opened enough out spaced ends goes left room
  have length := List.length_pos_iff.mpr some
  obtain ⟨left, rfl⟩ : ∃ k, left = k + 1 := ⟨left - 1, by omega⟩
  rw [passFrom_succ, begins gap rest opened spaced ends]
  exact goes left (by omega)

theorem passes_plain {c : Char} {t : List Char} (opens : Opens c) (list : c ≠ '[') (object : c ≠ '{')
    (passes : ∀ rest, Ends rest → passPlain (c :: t ++ rest) = .ok rest) : Passes (c :: t) := by
  refine passes_once (List.cons_ne_nil c t) fun gap rest opened spaced ends => ?_
  have plain := passes rest ends
  rw [List.cons_append] at plain ⊢
  unfold passBeginning
  rw [skip_spaces spaced, skip_solid opens.solid]
  split
  · simp_all
  · simp_all
  · simp [plain, bind, Except.bind]

theorem passes_mark {c : Char} {t : List Char} (mark : c ∈ ['n', 't', 'f', '"'])
    (passes : ∀ rest, Ends rest → passPlain (c :: t ++ rest) = .ok rest) : Passes (c :: t) := by
  refine passes_plain (opens_mark ?_) ?_ ?_ passes
  · exact List.mem_append_left ['[', '{'] mark
  · rintro rfl
    simp at mark
  · rintro rfl
    simp at mark

theorem passPlain_number {numeral : Numeral} (lawful : numeral.Lawful) {rest : List Char}
    (ends : Ends rest) : passPlain (numeral.text.toList ++ rest) = .ok rest := by
  obtain ⟨c, t, text, begins⟩ := lawful.first
  have taken := numeral_append .malformedNumber lawful ends
  rw [text, List.cons_append] at taken ⊢
  have other (d : Char) (apart : beginsNumber d = false) : c ≠ d := by
    rintro rfl
    simp [begins] at apart
  simp [passPlain, other 'n' rfl, other 't' rfl, other 'f' rfl, other '"' rfl, begins, taken, Except.map]

/-! ## Brackets -/

theorem passClosing_comma (bracket : Bracket) (around : List Bracket) {gap : List Char}
    (spaced : Spaces gap) (rest : List Char) :
    passClosing (bracket :: around) (gap ++ ',' :: rest) = .ok (bracket :: around, rest) := by
  rw [passClosing, skip_spaces spaced, skip_solid rfl]
  rfl

theorem passClosing_close (bracket : Bracket) (around : List Bracket) {gap : List Char}
    (spaced : Spaces gap) (rest : List Char) :
    passClosing (bracket :: around) (gap ++ bracket.close :: rest) = passClosing around rest := by
  cases bracket with
  | list => rw [passClosing, skip_spaces spaced, skip_solid rfl]; rfl
  | object => rw [passClosing, skip_spaces spaced, skip_solid rfl]; rfl

structure Led (bracket : Bracket) (entry : List Char × Item) : Prop where
  leads : ∀ more, bracket.lead (entry.1 ++ more) = .ok (entry.2.shown ++ more)
  spaced : entry.2.Spaced
  passes : Passes entry.2.text
  within : entry.2.text.length ≤ entry.1.length

theorem passWithin_entries {bracket : Bracket} {entries : List (List Char × Item)}
    (led : ∀ entry ∈ entries, Led bracket entry) (some : entries ≠ []) {around : List Bracket}
    {rest : List Char} {enough : Nat} {out : List Char}
    (goes : ∀ left, enough ≤ left → passOn left around rest = .ok out) {left : Nat}
    (room : enough + (separated (entries.map Prod.fst)).length ≤ left) :
    passWithin left bracket around (separated (entries.map Prod.fst) ++ bracket.close :: rest) =
      .ok out := by
  induction entries generalizing left with
  | nil => contradiction
  | cons entry entries ih =>
    obtain ⟨leads, spaced, passes, within⟩ := led entry (List.mem_cons_self ..)
    have closes : bracket.close ∈ [']', '}'] := by cases bracket <;> decide
    -- Behind a value comes the next one, or the bracket closes and what is around it goes on.
    have after (left : Nat) (fits : enough + (separated (entries.map Prod.fst)).length ≤ left) :
        passOn left (bracket :: around)
          (entry.2.after ++ behind bracket.close (entries.map Prod.fst) rest) = .ok out := by
      by_cases none : entries.map Prod.fst = []
      · rw [behind, if_pos none, passOn, passClosing_close bracket around spaced.after]
        exact goes left (by omega)
      · rw [behind, if_neg none, passOn, passClosing_comma bracket around spaced.after]
        exact ih (fun other within => led other (List.mem_cons_of_mem _ within)) (by simpa using none) fits
    rw [List.map_cons, separated_behind, passWithin, leads]
    simp only [Item.shown, List.append_assoc]
    refine passes spaced.before
      (ends_spaces spaced.after (ends_behind closes (entries.map Prod.fst) rest)) after left ?_
    cases entries with
    | nil => simp [separated] at room ⊢; omega
    | cons next entries => simp [separated] at room ⊢; omega

theorem skip_skip (s : List Char) : skip (skip s) = skip s := by
  induction s with
  | nil => rfl
  | cons c t ih =>
    cases space : isSpace c with
    | true => simpa [skip, space] using ih
    | false => simp [skip, space]

theorem passWithin_skip (left : Nat) (bracket : Bracket) (around : List Bracket) (s : List Char) :
    passWithin (left + 1) bracket around (skip s) = passWithin (left + 1) bracket around s := by
  cases bracket with
  | list =>
    have same : passBeginning (.list :: around) (skip s) = passBeginning (.list :: around) s := by
      simp only [passBeginning, skip_skip]
    simp only [passWithin, Bracket.lead, passFrom_succ, same]
  | object => simp only [passWithin, Bracket.lead, skip_skip]

def Bracket.opening : Bracket → Char
  | list => '['
  | object => '{'

theorem passBeginning_bracket (bracket : Bracket) (opened : List Bracket) {gap within : List Char}
    (spaced : Spaces gap) {c : Char} {t : List Char} (text : skip within = c :: t) :
    passBeginning opened (gap ++ bracket.opening :: within) =
      if c = bracket.close then passClosing opened t else .ok (bracket :: opened, c :: t) := by
  cases bracket with
  | list => simp [passBeginning, skip_spaces spaced, Bracket.opening, skip_solid, isSpace, text]
  | object => simp [passBeginning, skip_spaces spaced, Bracket.opening, skip_solid, isSpace, text]

theorem passes_empty (bracket : Bracket) {within : List Char} (apart : Spaces within) :
    Passes (bracket.opening :: within ++ [bracket.close]) := by
  refine passes_once (by simp) fun gap rest opened spaced _ => ?_
  have text : skip (within ++ bracket.close :: rest) = bracket.close :: rest := by
    rw [skip_spaces apart]
    cases bracket <;> rfl
  simpa using passBeginning_bracket bracket opened spaced text

theorem passes_entries (bracket : Bracket) {entries : List (List Char × Item)}
    (led : ∀ entry ∈ entries, Led bracket entry) (some : entries ≠ [])
    (more : ∀ rest, ∃ c t, skip (separated (entries.map Prod.fst) ++ rest) = c :: t ∧ c ≠ bracket.close) :
    Passes (bracket.opening :: separated (entries.map Prod.fst) ++ [bracket.close]) := by
  intro gap rest opened enough out spaced ends goes left room
  obtain ⟨left, rfl⟩ : ∃ k, left = k + 1 + 1 := ⟨left - 2, by simp at room; omega⟩
  obtain ⟨c, t, text, unclosed⟩ := more (bracket.close :: rest)
  have enters := passBeginning_bracket bracket opened spaced text
  rw [if_neg unclosed] at enters
  have passed : passWithin (left + 1) bracket opened
      (separated (entries.map Prod.fst) ++ bracket.close :: rest) = .ok out :=
    passWithin_entries led some goes (by simp at room; omega)
  rw [← passWithin_skip, text] at passed
  rw [passFrom_succ]
  simpa [enters] using passed

theorem skip_separated {before : List Char} (spaced : Spaces before) {c : Char} (solid : isSpace c = false)
    (t : List Char) (texts : List (List Char)) (rest : List Char) :
    ∃ later, skip (separated ((before ++ c :: t) :: texts) ++ rest) = c :: later := by
  cases texts with
  | nil =>
    rw [separated, List.append_assoc, skip_spaces spaced]
    exact ⟨_, skip_solid solid _⟩
  | cons next texts =>
    rw [separated_cons _ (List.cons_ne_nil next texts), List.append_assoc, List.append_assoc,
      skip_spaces spaced]
    exact ⟨_, skip_solid solid _⟩

theorem lead_name {name : String} {lead : List Char} (named : SpellsName name lead) (rest : List Char) :
    Bracket.object.lead (lead ++ rest) = .ok rest := by
  obtain ⟨spaced, chars, apart⟩ := named
  simp [Bracket.lead, skip_spaces spaced, skip_solid, isSpace, passText_chars chars, bind, Except.bind,
    colon, skip_spaces apart]

theorem SpellsName.begins {name : String} {lead : List Char} (named : SpellsName name lead) :
    ∃ before t, Spaces before ∧ lead = before ++ '"' :: t := by
  obtain ⟨spaced, -, -⟩ := named
  exact ⟨_, _, spaced, by simp; rfl⟩

theorem passes_items {items : List Item} (some : items ≠ []) (spaced : ∀ item ∈ items, item.Spaced)
    (spells : ∀ item ∈ items, Spells item.value item.text) (passes : ∀ item ∈ items, Passes item.text) :
    Passes ('[' :: separated (items.map Item.shown) ++ [']']) := by
  have shown : (items.map fun item => (item.shown, item)).map Prod.fst = items.map Item.shown := by
    rw [List.map_map]
    rfl
  have led : ∀ entry ∈ items.map fun item => (item.shown, item), Led .list entry :=
    List.forall_mem_map.mpr fun item within =>
      ⟨fun _ => rfl, spaced item within, passes item within, by simp [Item.shown]; omega⟩
  have whole := passes_entries .list led (by simpa using some) fun rest => by
    rw [shown]
    cases items with
    | nil => contradiction
    | cons item items =>
      have here : item ∈ item :: items := List.mem_cons_self ..
      obtain ⟨c, t, text, opens, -⟩ := (spells item here).first
      obtain ⟨later, skipped⟩ := skip_separated (spaced item here).before opens.solid
        (t ++ item.after) (items.map Item.shown) rest
      refine ⟨c, later, ?_, opens.bracket⟩
      rw [List.map_cons, Item.shown, text, List.append_assoc]
      exact skipped
  rw [shown] at whole
  exact whole

theorem passes_members {members : List Member} (some : members ≠ [])
    (spaced : ∀ member ∈ members, member.Spaced) (passes : ∀ member ∈ members, Passes member.text) :
    Passes ('{' :: separated (members.map Member.shown) ++ ['}']) := by
  have shown : (members.map fun member => (member.shown, member.toItem)).map Prod.fst =
      members.map Member.shown := by
    rw [List.map_map]
    rfl
  have led : ∀ entry ∈ members.map fun member => (member.shown, member.toItem), Led .object entry := by
    refine List.forall_mem_map.mpr fun member within => ⟨fun more => ?_, ?_, passes member within, ?_⟩
    · rw [Member.shown, List.append_assoc]
      exact lead_name (spaced member within).named _
    · exact (spaced member within).toSpaced
    · simp [Member.shown, Item.shown]
      omega
  have whole := passes_entries .object led (by simpa using some) fun rest => by
    rw [shown]
    cases members with
    | nil => contradiction
    | cons member members =>
      obtain ⟨before, name, gap, lead⟩ := (spaced member (List.mem_cons_self ..)).named.begins
      obtain ⟨later, skipped⟩ := skip_separated gap (c := '"') rfl
        (name ++ member.toItem.shown) (members.map Member.shown) rest
      refine ⟨'"', later, ?_, by decide⟩
      rw [List.map_cons, Member.shown, lead, List.append_assoc]
      exact skipped
  rw [shown] at whole
  exact whole

theorem Spells.passes {value : Value} {s : List Char} (spells : Spells value s) : Passes s := by
  induction spells with
  | null => exact passes_mark (by simp) fun _ _ => rfl
  | yes => exact passes_mark (by simp) fun _ _ => rfl
  | no => exact passes_mark (by simp) fun _ _ => rfl
  | number lawful =>
    obtain ⟨c, t, text, begins⟩ := lawful.first
    have passes (rest : List Char) (ends : Ends rest) := passPlain_number lawful ends
    rw [text] at passes ⊢
    refine passes_plain (opens_number begins) ?_ ?_ passes
    · rintro rfl
      contradiction
    · rintro rfl
      contradiction
  | text chars =>
    refine passes_mark (by simp) fun rest _ => ?_
    simpa [passPlain] using passText_chars chars rest
  | emptyArray apart => exact passes_empty .list apart
  | array some spaced spells ih => exact passes_items some spaced spells ih
  | emptyObject apart => exact passes_empty .object apart
  | object some spaced _ ih => exact passes_members some spaced ih

theorem pass_value {value : Value} {room : Nat} {gap s rest : List Char} (spaced : Spaces gap)
    (spells : Spells value s) (short : s.length ≤ room) (ends : Ends rest) :
    pass room (gap ++ (s ++ rest)) = .ok rest := by
  have goes (left : Nat) (_ : 0 ≤ left) : passOn left [] rest = .ok rest := rfl
  exact spells.passes spaced ends goes room (by omega)

end TextQuest.Json
