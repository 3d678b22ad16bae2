import TextQuest.Proofs.Ron.Lexeme

namespace TextQuest.Ron
open Text

variable {α β : Type}

def Takes (reader : Reader α) (s : List Char) (found : α) : Prop :=
  ∀ rest, Ends rest → reader (s ++ rest) = some (found, rest)

/-! ## What follows a value, and how values begin -/

theorem ends_of {c : Char} (mark : isRawChar c = false) (rest : List Char) : Ends (c :: rest) := by
  intro d t begins
  cases begins
  exact mark

theorem ends_blanks {gap rest : List Char} (blanks : Blanks gap) (ends : Ends rest) : Ends (gap ++ rest) := by
  cases blanks with
  | nil => exact ends
  | blank isBlank =>
    refine ends_of ?_ _
    simp only [List.mem_cons, List.not_mem_nil, or_false] at isBlank
    rcases isBlank with rfl | rfl | rfl | rfl <;> rfl
  | line => exact ends_of rfl _
  | block => exact ends_of rfl _

structure Opens (c : Char) : Prop where
  solid : Solid c
  parenthesis : c ≠ ')'
  bracket : c ≠ ']'
  hash : c ≠ '#'

theorem opens_of_isRawChar {c : Char} (raw : isRawChar c = true) : Opens c := by
  have other (d : Char) (mark : isRawChar d = false) : c ≠ d := by
    rintro rfl
    simp [mark] at raw
  refine ⟨⟨?_, other _ rfl⟩, other _ rfl, other _ rfl, other _ rfl⟩
  simp only [List.mem_cons, List.not_mem_nil, or_false, not_or]
  exact ⟨other _ rfl, other _ rfl, other _ rfl, other _ rfl⟩

theorem SpellsWord.begins {name : String} {s : List Char} (spells : SpellsWord name s) :
    ∃ c t, s = c :: t ∧ isWordChar c = true := by
  cases spells with
  | plain _ begins => exact ⟨_, _, rfl, isWordChar_of_isWordStart begins⟩
  | raw => exact ⟨_, _, rfl, rfl⟩

theorem exists_opens_of_raw {s : List Char} (some : s ≠ []) (raw : ∀ c ∈ s, isRawChar c = true) :
    ∃ c t, s = c :: t ∧ Opens c := by
  obtain ⟨c, t, rfl⟩ := List.exists_cons_of_ne_nil some
  exact ⟨c, t, rfl, opens_of_isRawChar (raw c (List.mem_cons_self ..))⟩

theorem SpellsNatural.ne_nil {n : Nat} {s : List Char} (spells : SpellsNatural n s) : s ≠ [] := by
  cases spells with
  | decimal digits => exact List.ne_nil_of_length_pos digits.length_pos
  | _ => exact List.cons_ne_nil _ _

theorem SpellsSingle.ne_nil {x : Float32} {s : List Char} (spells : SpellsSingle x s) : s ≠ [] := by
  cases spells with
  | numeral spells =>
    obtain ⟨c, inside, -⟩ := exists_digit spells
    exact List.ne_nil_of_mem inside
  | _ => exact List.cons_ne_nil _ _

theorem Spells.begins {depth : Nat} {shape : Shape} {value : Value} {s : List Char}
    (spells : Spells depth shape value s) : ∃ c t, s = c :: t ∧ Opens c := by
  cases spells with
  | text spells =>
    cases spells with
    | quoted => exact ⟨_, _, rfl, ⟨by decide, by decide⟩, by decide, by decide, by decide⟩
    | raw => exact ⟨_, _, rfl, opens_of_isRawChar rfl⟩
  | natural spells => exact exists_opens_of_raw spells.ne_nil spells.raw
  | single spells => exact exists_opens_of_raw spells.ne_nil (raw_single spells)
  | variant spells =>
    obtain ⟨c, t, rfl, wordly⟩ := spells.begins
    exact ⟨c, t, rfl, opens_of_isRawChar (isRawChar_of_isWordChar wordly)⟩
  | list => exact ⟨_, _, rfl, ⟨by decide, by decide⟩, by decide, by decide, by decide⟩
  | record titled =>
    cases titled with
    | untitled => exact ⟨_, _, rfl, ⟨by decide, by decide⟩, by decide, by decide, by decide⟩
    | titled spells =>
      obtain ⟨c, t, rfl, wordly⟩ := spells.begins
      exact ⟨c, _, rfl, opens_of_isRawChar (isRawChar_of_isWordChar wordly)⟩

/-! ## Items -/

section Item

variable {item : Reader α} {close c : Char} {t before after : List Char} {found : α}

theorem itemsUpTo_comma (takes : Takes item (c :: t) found) (lead : Blanks before) (solid : Solid c)
    (further : c ≠ close) (behind : Blanks after) (room : Nat) (seen : List α) (rest : List Char) :
    itemsUpTo item close (room + 1) true seen (before ++ (c :: t ++ (after ++ ',' :: rest))) =
      itemsUpTo item close room true (found :: seen) rest := by
  have taken := takes (after ++ ',' :: rest) (ends_blanks behind (ends_of rfl _))
  have comma : Solid ',' := ⟨by decide, by decide⟩
  rw [List.cons_append] at taken ⊢
  simp [itemsUpTo, skip_blanks lead, skip_solid solid, further, taken, skip_blanks behind, skip_solid comma]

theorem itemsUpTo_last (takes : Takes item (c :: t) found) (lead : Blanks before) (solid : Solid c)
    (further : c ≠ close) (behind : Blanks after) (room : Nat) (seen : List α) {rest : List Char}
    (ends : Ends (close :: rest)) (closing : Solid close) (noComma : close ≠ ',') :
    itemsUpTo item close (room + 1) true seen (before ++ (c :: t ++ (after ++ close :: rest))) =
      itemsUpTo item close room false (found :: seen) (close :: rest) := by
  have taken := takes (after ++ close :: rest) (ends_blanks behind ends)
  rw [List.cons_append] at taken ⊢
  simp [itemsUpTo, skip_blanks lead, skip_solid solid, further, taken, skip_blanks behind,
    skip_solid closing, noComma]

end Item

theorem itemsUpTo_close (item : Reader α) {close : Char} (solid : Solid close) (room : Nat) (ready : Bool)
    (seen : List α) {gap : List Char} (blanks : Blanks gap) (rest : List Char) :
    itemsUpTo item close (room + 1) ready seen (gap ++ close :: rest) = some (seen.reverse, rest) := by
  simp [itemsUpTo, skip_blanks blanks, skip_solid solid]

theorem itemsUpTo_listed {item : Reader α} {close : Char} (closes : close = ')' ∨ close = ']')
    {texts : List (List Char)} {found : List α} (takes : List.Forall₂ (Takes item) texts found)
    (opens : ∀ text ∈ texts, ∃ c t, text = c :: t ∧ Opens c) {s : List Char} (listed : Listed texts s)
    (rest : List Char) {room : Nat} (enough : texts.length < room) (seen : List α) :
    itemsUpTo item close room true seen (s ++ close :: rest) = some (seen.reverse ++ found, rest) := by
  have solid : Solid close := by rcases closes with rfl | rfl <;> exact ⟨by decide, by decide⟩
  have ends : Ends (close :: rest) := by rcases closes with rfl | rfl <;> exact ends_of rfl _
  have further {c : Char} (opens : Opens c) : c ≠ close := by
    rcases closes with rfl | rfl
    · exact opens.parenthesis
    · exact opens.bracket
  induction listed generalizing found room seen with
  | nil blanks =>
    obtain ⟨room, rfl⟩ : ∃ k, room = k + 1 := ⟨room - 1, by omega⟩
    cases takes
    simpa using itemsUpTo_close item solid room true seen blanks rest
  | @last text before after lead behind =>
    obtain ⟨room, rfl⟩ : ∃ k, room = k + 2 := ⟨room - 2, by simp at enough; omega⟩
    obtain ⟨c, t, rfl, first⟩ := opens text (List.mem_singleton_self _)
    obtain _ | @⟨_, value, _, _, taken, none⟩ := takes
    cases none
    have noComma : close ≠ ',' := by rcases closes with rfl | rfl <;> decide
    have closing := itemsUpTo_close item solid room false (value :: seen) .nil rest
    rw [List.append_assoc, List.append_assoc, itemsUpTo_last taken lead first.solid (further first) behind
      (room + 1) seen ends solid noComma]
    simpa using closing
  | @cons text before after later texts lead behind _ ih =>
    obtain ⟨room, rfl⟩ : ∃ k, room = k + 1 := ⟨room - 1, by omega⟩
    obtain ⟨⟨c, t, rfl, first⟩, others⟩ := List.forall_mem_cons.mp opens
    obtain _ | ⟨taken, takes⟩ := takes
    have shown : before ++ (c :: t ++ (after ++ ',' :: later)) ++ close :: rest =
        before ++ (c :: t ++ (after ++ ',' :: (later ++ close :: rest))) := by simp
    rw [shown, itemsUpTo_comma taken lead first.solid (further first) behind]
    simpa using ih takes others (by simpa using enough) (_ :: seen)

theorem Listed.length_le {texts : List (List Char)} (some : ∀ text ∈ texts, text ≠ []) {s : List Char}
    (listed : Listed texts s) : texts.length ≤ s.length := by
  induction listed with
  | nil => simp
  | last =>
    have := List.length_pos_iff.mpr (some _ (List.mem_singleton_self _))
    simp only [List.length_singleton, List.length_append]
    omega
  | cons _ _ _ ih =>
    have := ih fun text inside => some text (List.mem_cons_of_mem _ inside)
    simp only [List.length_cons, List.length_append]
    omega

theorem bracketed_listed {item : Reader α} {close : Char} (closes : close = ')' ∨ close = ']')
    {texts : List (List Char)} {found : List α} (takes : List.Forall₂ (Takes item) texts found)
    (opens : ∀ text ∈ texts, ∃ c t, text = c :: t ∧ Opens c) {s : List Char} (listed : Listed texts s)
    (rest : List Char) : bracketed item close (s ++ close :: rest) = some (found, rest) := by
  have some : ∀ text ∈ texts, text ≠ [] := by
    intro text inside
    obtain ⟨c, t, rfl, -⟩ := opens text inside
    exact List.cons_ne_nil _ _
  have enough : texts.length < (s ++ close :: rest).length + 1 := by
    have := listed.length_le some
    simp only [List.length_append, List.length_cons]
    omega
  exact itemsUpTo_listed closes takes opens listed rest enough []

/-! ## Values -/

theorem value_eq (bare : Bool) (depth : Nat) (shape : Shape) :
    ∃ deeper, value bare depth shape = valueOf bare deeper shape ∧
      (0 < depth → deeper.within.isSome) := by
  match depth with
  | 0 => exact ⟨_, rfl, nofun⟩
  | 1 => exact ⟨_, rfl, fun _ => rfl⟩
  | depth + 2 => exact ⟨_, rfl, fun _ => rfl⟩

theorem takes_list {bare : Bool} {depth : Nat} {shape : Shape} {items : List Item}
    (takes : ∀ item ∈ items, Takes (value bare depth shape) item.text item.value)
    (opens : ∀ item ∈ items, ∃ c t, item.text = c :: t ∧ Opens c) {s : List Char}
    (listed : Listed (items.map Item.text) s) :
    Takes (value bare (depth + 2) (.list shape)) ('[' :: (s ++ [']'])) (.list (items.map Item.value)) := by
  intro rest _
  have all : List.Forall₂ (Takes (value bare depth shape)) (items.map Item.text) (items.map Item.value) := by
    rw [List.forall₂_map_left_iff, List.forall₂_map_right_iff, List.forall₂_same]
    exact takes
  have within := bracketed_listed (.inr rfl) all (by simpa using opens) listed rest
  have shown : '[' :: (s ++ [']']) ++ rest = '[' :: (s ++ ']' :: rest) := by simp
  rw [shown, value]
  simp [valueOf, expect, Deeper.container, within]

theorem goesOn_word {name : String} {s : List Char} (spells : SpellsWord name s) (rest : List Char) :
    goesOn (s ++ rest) = true := by
  obtain ⟨c, t, rfl, wordly⟩ := spells.begins
  simp [goesOn, wordly]

theorem recordName_title {name : String} {title : List Char} (titled : SpellsTitle name title)
    (rest : List Char) :
    ((recordName name (title ++ '(' :: rest)).bind skip).bind (expect ['(']) = some rest := by
  cases titled with
  | untitled =>
    have plain : goesOn ('(' :: rest) = false := rfl
    simp [recordName, plain, skip_solid (c := '(') ⟨by decide, by decide⟩, expect]
  | titled spells blanks =>
    rw [List.append_assoc]
    have ends : Ends ('(' :: rest) := ends_of rfl _
    simp [recordName, goesOn_word spells, word_append spells (ends_blanks blanks ends), skip_blanks blanks,
      skip_solid (c := '(') ⟨by decide, by decide⟩, expect]

theorem entry_lead {reader : String → Reader α} {name : String} {lead : List Char}
    (leads : SpellsLead name lead) {c : Char} {t : List Char} (solid : Solid c) {found : α}
    {rest : List Char} (taken : reader name (c :: t) = some (found, rest)) :
    entry word reader (lead ++ c :: t) = some ((name, found), rest) := by
  cases leads with
  | @mk word before after spells lead behind =>
    have shown : word ++ (before ++ ':' :: after) ++ c :: t =
        word ++ (before ++ ':' :: (after ++ c :: t)) := by simp
    have colon : Ends (':' :: (after ++ c :: t)) := ends_of rfl _
    rw [shown]
    simp [entry, word_append spells (ends_blanks lead colon), skip_blanks lead,
      skip_solid (c := ':') ⟨by decide, by decide⟩, skip_blanks behind, skip_solid solid, taken]

theorem SpellsLead.begins {name : String} {lead : List Char} (leads : SpellsLead name lead) :
    ∃ c t, lead = c :: t ∧ Opens c := by
  cases leads with
  | mk spells =>
    obtain ⟨c, t, rfl, wordly⟩ := spells.begins
    exact ⟨c, _, rfl, opens_of_isRawChar (isRawChar_of_isWordChar wordly)⟩

theorem takes_field {readers : Readers} {asked : List (String × Shape)} {member : Member}
    (shaped : asked.lookup member.name = some member.shape) (leads : SpellsLead member.name member.lead)
    (takes : Takes (readers.value member.shape) member.text member.value)
    (opens : ∃ c t, member.text = c :: t ∧ Opens c) :
    Takes (field asked readers) member.shown (some member.pair) := by
  intro rest ends
  obtain ⟨c, t, text, first⟩ := opens
  have taken := takes rest ends
  rw [text, List.cons_append] at taken
  rw [Member.shown, List.append_assoc, text, List.cons_append, field]
  rw [@entry_lead _ _ _ _ leads _ _ first.solid (some member.value) rest]
  · rfl
  · simp [shaped, taken]

theorem takes_record {bare : Bool} {depth : Nat} {name : String} {asked : List (String × Shape)}
    {members : List Member} {title s : List Char} (titled : SpellsTitle name title)
    (distinct : (members.map (·.name)).Nodup)
    (shaped : ∀ member ∈ members, asked.lookup member.name = some member.shape)
    (leads : ∀ member ∈ members, SpellsLead member.name member.lead)
    (takes : ∀ member ∈ members, Takes (value bare depth member.shape) member.text member.value)
    (opens : ∀ member ∈ members, ∃ c t, member.text = c :: t ∧ Opens c)
    (listed : Listed (members.map Member.shown) s) :
    Takes (value bare (depth + 2) (.record name asked)) (title ++ '(' :: (s ++ [')']))
      (.record (members.map Member.pair)) := by
  intro rest _
  have all : List.Forall₂ (Takes (field asked ⟨value bare depth, pass bare depth⟩))
      (members.map Member.shown) (members.map fun member => some member.pair) := by
    rw [List.forall₂_map_left_iff, List.forall₂_map_right_iff, List.forall₂_same]
    exact fun member inside =>
      takes_field (shaped member inside) (leads member inside) (takes member inside) (opens member inside)
  have first : ∀ text ∈ members.map Member.shown, ∃ c t, text = c :: t ∧ Opens c := by
    intro text inside
    obtain ⟨member, listed, rfl⟩ := List.mem_map.mp inside
    obtain ⟨c, t, lead, opens⟩ := (leads member listed).begins
    exact ⟨c, t ++ member.text, by rw [Member.shown, lead, List.cons_append], opens⟩
  have within := bracketed_listed (.inl rfl) all first listed rest
  have shown : title ++ '(' :: (s ++ [')']) ++ rest = title ++ '(' :: (s ++ ')' :: rest) := by simp
  have names : (members.map Member.pair).map (·.1) = members.map (·.name) := by
    simp [Member.pair]
  have taken : fields asked ⟨some ⟨value bare (depth + 1), pass bare (depth + 1)⟩,
      some ⟨value bare depth, pass bare depth⟩⟩ (s ++ ')' :: rest) =
      some (members.map Member.pair, rest) := by
    simp [fields, Deeper.container, within, names, distinct]
  obtain ⟨_, start, opened⟩ := Option.bind_eq_some_iff.mp (recordName_title titled (s ++ ')' :: rest))
  obtain ⟨_, named, skipped⟩ := Option.bind_eq_some_iff.mp start
  rw [shown, value]
  simp [valueOf, named, skipped, opened, taken]

theorem takes_value (bare : Bool) {depth : Nat} {shape : Shape} {found : Value} {s : List Char}
    (spells : Spells depth shape found s) : Takes (value bare depth shape) s found := by
  induction spells with
  | @text depth text s spells =>
    intro rest _
    obtain ⟨deeper, same, -⟩ := value_eq bare depth .text
    simp [same, valueOf, text_append spells]
  | @natural depth bound n s spells small =>
    intro rest ends
    obtain ⟨deeper, same, -⟩ := value_eq bare depth (.natural bound)
    simp [same, valueOf, natural_append spells small ends]
  | @single depth x s spells =>
    intro rest ends
    obtain ⟨deeper, same, -⟩ := value_eq bare depth .single
    simp [same, valueOf, single_append spells ends]
  | @variant depth name s spells =>
    intro rest ends
    obtain ⟨deeper, same, within⟩ := value_eq bare (depth + 1) .variant
    obtain ⟨readers, within⟩ := Option.isSome_iff_exists.mp (within (by omega))
    simp [same, valueOf, within, word_append spells ends]
  | @list depth shape items s shaped spells listed ih =>
    refine takes_list (fun item inside => ?_) (fun item inside => (spells item inside).begins) listed
    rw [← shaped item inside]
    exact ih item inside
  | record titled distinct shaped leads spells listed ih =>
    exact takes_record titled distinct shaped leads ih (fun member inside => (spells member inside).begins)
      listed

/-! ## Documents -/

theorem SpellsExtensions.begins {names : List Char} (spells : SpellsExtensions names) :
    ∃ c t, names = c :: t ∧ isWordChar c = true := by
  cases spells with
  | last _ spells | comma _ spells | cons _ spells =>
    obtain ⟨c, t, rfl, wordly⟩ := spells.begins
    exact ⟨c, _, rfl, wordly⟩

theorem skip_word {c : Char} (wordly : isWordChar c = true) (rest : List Char) :
    skip (c :: rest) = some (c :: rest) :=
  skip_solid (opens_of_isRawChar (isRawChar_of_isWordChar wordly)).solid rest

theorem extensionNames_append {names : List Char} (spells : SpellsExtensions names) (rest : List Char)
    (room : Nat) (enough : names.length < room) :
    ∃ extensions, extensionNames room (names ++ ')' :: rest) = some (extensions, ')' :: rest) := by
  have close : Ends (')' :: rest) := ends_of rfl _
  have passed : skip (')' :: rest) = some (')' :: rest) := skip_solid ⟨by decide, by decide⟩ rest
  induction spells generalizing room with
  | @last name word gap known spells blanks =>
    obtain ⟨room, rfl⟩ : ∃ k, room = k + 1 := ⟨room - 1, by omega⟩
    obtain ⟨extension, known⟩ := Option.isSome_iff_exists.mp known
    refine ⟨[extension], ?_⟩
    rw [List.append_assoc]
    simp [extensionNames, word_append spells (ends_blanks blanks close), known, skip_blanks blanks, passed]
  | @comma name word gap behind known spells blanks trailing =>
    obtain ⟨room, rfl⟩ : ∃ k, room = k + 1 := ⟨room - 1, by omega⟩
    obtain ⟨extension, known⟩ := Option.isSome_iff_exists.mp known
    have comma : Ends (',' :: (behind ++ ')' :: rest)) := ends_of rfl _
    have ended : goesOn (')' :: rest) = false := rfl
    refine ⟨[extension], ?_⟩
    simp [extensionNames, word_append spells (ends_blanks blanks comma), known, skip_blanks blanks,
      skip_solid (c := ',') ⟨by decide, by decide⟩, skip_blanks trailing, passed, ended]
  | @cons name word gap behind later known spells blanks trailing further ih =>
    obtain ⟨room, rfl⟩ : ∃ k, room = k + 1 := ⟨room - 1, by omega⟩
    obtain ⟨extension, known⟩ := Option.isSome_iff_exists.mp known
    obtain ⟨more, taken⟩ := ih room (by simp at enough; omega)
    obtain ⟨c, t, rfl, wordly⟩ := further.begins
    have comma : Ends (',' :: (behind ++ (c :: t ++ ')' :: rest))) := ends_of rfl _
    have shown : word ++ (gap ++ ',' :: (behind ++ c :: t)) ++ ')' :: rest =
        word ++ (gap ++ ',' :: (behind ++ (c :: t ++ ')' :: rest))) := by simp
    have onward : goesOn (c :: t ++ ')' :: rest) = true := by simp [goesOn, wordly]
    have first : skip (c :: t ++ ')' :: rest) = some (c :: t ++ ')' :: rest) := skip_word wordly _
    refine ⟨extension :: more, ?_⟩
    rw [shown]
    simp only [extensionNames, word_append spells (ends_blanks blanks comma), known, skip_blanks blanks,
      skip_solid (c := ',') ⟨by decide, by decide⟩, skip_blanks trailing, first, onward, if_true, taken,
      Option.bind_eq_bind, Option.bind_some, Option.pure_def]

theorem skip_attributes {text : List Char} (spells : SpellsAttributes text) {c : Char} (solid : Solid c)
    (t : List Char) : skip (text ++ c :: t) = some (text ++ c :: t) := by
  cases spells with
  | nil => exact skip_solid solid t
  | cons => exact skip_solid ⟨by decide, by decide⟩ _

theorem attributes_append {text : List Char} (spells : SpellsAttributes text) {c : Char} (opens : Opens c)
    (t : List Char) (room : Nat) (enough : text.length < room) :
    ∃ extensions, attributes room (text ++ c :: t) = some (extensions, c :: t) := by
  induction spells generalizing room with
  | nil =>
    obtain ⟨room, rfl⟩ : ∃ k, room = k + 1 := ⟨room - 1, by omega⟩
    refine ⟨[], ?_⟩
    rw [List.nil_append, attributes]
    · rfl
    · simp [opens.hash]
  | @cons g₁ g₂ g₃ g₄ g₅ g₆ g₇ names later b₁ b₂ b₃ b₄ b₅ b₆ b₇ spells further ih =>
    obtain ⟨room, rfl⟩ : ∃ k, room = k + 1 := ⟨room - 1, by omega⟩
    obtain ⟨more, rest⟩ := ih room (by simp at enough; omega)
    obtain ⟨d, letters, begins, wordly⟩ := spells.begins
    have passed {gap : List Char} (blanks : Blanks gap) {c : Char} (mark : c ∈ ['!', '[', 'e', '(', ')', ']'])
        (t : List Char) : skip (gap ++ c :: t) = some (c :: t) := by
      rw [skip_blanks blanks]
      simp only [List.mem_cons, List.not_mem_nil, or_false] at mark
      rcases mark with rfl | rfl | rfl | rfl | rfl | rfl <;> exact skip_solid ⟨by decide, by decide⟩ t
    have first (t : List Char) : skip (g₅ ++ (names ++ t)) = some (names ++ t) := by
      rw [skip_blanks b₅, begins]
      exact skip_word wordly _
    have last : skip (g₇ ++ (later ++ c :: t)) = some (later ++ c :: t) := by
      rw [skip_blanks b₇, skip_attributes further opens.solid]
    let behind := g₆ ++ ']' :: (g₇ ++ (later ++ c :: t))
    obtain ⟨extensions, taken⟩ :=
      extensionNames_append spells behind (names ++ ')' :: behind).length (by simp)
    have shown : '#' :: (g₁ ++ '!' :: (g₂ ++ '[' :: (g₃ ++ "enable".toList ++ (g₄ ++ '(' ::
          (g₅ ++ (names ++ ')' :: (g₆ ++ ']' :: (g₇ ++ later)))))))) ++ c :: t =
        '#' :: (g₁ ++ '!' :: (g₂ ++ '[' :: (g₃ ++ 'e' :: ("nable".toList ++ (g₄ ++ '(' ::
          (g₅ ++ (names ++ ')' :: behind))))))) := by simp [behind]
    have enable (t : List Char) : expect "enable".toList ('e' :: ("nable".toList ++ t)) = some t :=
      expect_append "enable".toList t
    refine ⟨extensions ++ more, ?_⟩
    rw [shown, attributes]
    simp only [passed b₁ (c := '!') (by simp), passed b₂ (c := '[') (by simp),
      passed b₃ (c := 'e') (by simp), passed b₄ (c := '(') (by simp), passed b₆ (c := ']') (by simp),
      first, last, enable, taken, rest, expect, if_true, Option.bind_eq_bind, Option.bind_some,
      Option.pure_def, behind]

theorem skip_trailing {trailing : List Char} (behind : Trailing trailing) : skip trailing = some [] := by
  have comment {text : List Char} (single : '\n' ∉ text) : skipFrom .line text = some [] := by
    induction text with
    | nil => rfl
    | cons c text ih =>
      obtain ⟨other, single⟩ := not_or.mp (List.mem_cons.not.mp single)
      rw [skipFrom, if_neg (Ne.symm other), ih single]
  cases behind with
  | blanks blanks =>
    rw [← List.append_nil trailing, skip_blanks blanks]
    rfl
  | line blanks single =>
    rw [skip_blanks blanks, skip, skipFrom]
    exact comment single

theorem ends_trailing {trailing : List Char} (behind : Trailing trailing) : Ends trailing := by
  cases behind with
  | blanks blanks =>
    rw [← List.append_nil trailing]
    exact ends_blanks blanks nofun
  | line blanks => exact ends_blanks blanks (ends_of rfl _)

theorem parse?_document {shape : Shape} {value : Value} {s : List Char}
    (document : Document shape value s) : parse? shape s = some value := by
  cases document with
  | @mk gap attributes s trailing lead enabled spells behind =>
    obtain ⟨c, t, rfl, opens⟩ := spells.begins
    have start : skip (gap ++ (attributes ++ (c :: t ++ trailing))) =
        some (attributes ++ c :: (t ++ trailing)) := by
      rw [skip_blanks lead]
      exact skip_attributes enabled opens.solid _
    obtain ⟨extensions, taken⟩ := attributes_append enabled opens (t ++ trailing)
      ((attributes ++ c :: (t ++ trailing)).length + 1)
      (by simp only [List.length_append, List.length_cons]; omega)
    have found := takes_value (extensions.contains .implicitSome) spells trailing (ends_trailing behind)
    rw [List.cons_append] at found
    simp only [parse?, start, taken, found, skip_trailing behind, Option.bind_eq_bind, Option.bind_some]
    rfl

theorem list?_map {read? : Value → Option α} (tell : α → Value)
    (reads : ∀ item, read? (tell item) = some item) (items : List α) :
    Value.list? read? (.list (items.map tell)) = some items := by
  have all : (items.map tell).mapM read? = some items := by
    induction items with
    | nil => rfl
    | cons item items ih => simp [reads, ih]
  exact all

end TextQuest.Ron
