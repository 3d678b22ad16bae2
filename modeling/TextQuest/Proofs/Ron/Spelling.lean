import TextQuest.Proofs.Decimal.Rounding
import TextQuest.Proofs.Decimal.Spelling
import TextQuest.Ron.Decode

namespace TextQuest.Ron
open Text Decimal

/-! ## Between tokens -/

inductive Comment : List Char → Prop
  | done : Comment ['*', '/']
  | nested {inner rest : List Char} (within : Comment inner) (further : Comment rest) :
    Comment ('/' :: '*' :: (inner ++ rest))
  | other {c : Char} {rest : List Char} (opensNone : c = '/' → rest.head? ≠ some '*')
      (closesNone : c = '*' → rest.head? ≠ some '/') (further : Comment rest) : Comment (c :: rest)

inductive Blanks : List Char → Prop
  | nil : Blanks []
  | blank {c : Char} {rest : List Char} (isBlank : c ∈ [' ', '\t', '\r', '\n']) (further : Blanks rest) :
    Blanks (c :: rest)
  | line {text rest : List Char} (single : '\n' ∉ text) (further : Blanks rest) :
    Blanks ('/' :: '/' :: (text ++ '\n' :: rest))
  | block {comment rest : List Char} (within : Comment comment) (further : Blanks rest) :
    Blanks ('/' :: '*' :: (comment ++ rest))

inductive Trailing : List Char → Prop
  | blanks {gap : List Char} (blanks : Blanks gap) : Trailing gap
  | line {gap text : List Char} (blanks : Blanks gap) (single : '\n' ∉ text) :
    Trailing (gap ++ '/' :: '/' :: text)

/-! ## Words and texts -/

inductive SpellsWord (name : String) : List Char → Prop
  | plain {c : Char} {rest : List Char} (whole : name.toList = c :: rest) (begins : isWordStart c = true)
      (unmarked : c = 'r' → rest ≠ []) (within : ∀ d ∈ rest, isWordChar d = true) :
    SpellsWord name (c :: rest)
  | raw (some : name.toList ≠ []) (within : ∀ c ∈ name.toList, isRawChar c = true) :
    SpellsWord name ('r' :: '#' :: name.toList)

inductive SpellsDigits (base : Nat) : Nat → List Char → Prop
  | first {c : Char} {digit : Nat} (is : digit? c = some digit) (small : digit < base) :
    SpellsDigits base digit [c]
  | next {n : Nat} {s : List Char} {c : Char} {digit : Nat} (front : SpellsDigits base n s)
      (is : digit? c = some digit) (small : digit < base) : SpellsDigits base (base * n + digit) (s ++ [c])
  | underscore {n : Nat} {s : List Char} (front : SpellsDigits base n s) : SpellsDigits base n (s ++ ['_'])

def letterEscapes : List (Char × Char) :=
  [('\'', '\''), ('"', '"'), ('\\', '\\'), ('n', '\n'), ('r', '\r'), ('t', '\t'), ('0', '\x00')]

inductive SpellsChar (c : Char) : List Char → Prop
  | plain (quote : c ≠ '"') (backslash : c ≠ '\\') : SpellsChar c [c]
  | letter {letter : Char} (known : (letter, c) ∈ letterEscapes) : SpellsChar c ['\\', letter]
  | byte {high low : Char} {upper lower : Nat} (first : digit? high = some upper)
      (second : digit? low = some lower) (code : c.toNat = upper * 16 + lower) :
    SpellsChar c ['\\', 'x', high, low]
  | code {digits : List Char} (few : digits.length ≤ 6) (dense : '_' ∉ digits)
      (code : SpellsDigits 16 c.toNat digits) : SpellsChar c ('\\' :: 'u' :: '{' :: (digits ++ ['}']))

inductive SpellsChars : List Char → List Char → Prop
  | nil : SpellsChars [] []
  | cons {c : Char} {rest s t : List Char} (first : SpellsChar c s) (later : SpellsChars rest t) :
    SpellsChars (c :: rest) (s ++ t)

inductive SpellsText (text : String) : List Char → Prop
  | quoted {s : List Char} (chars : SpellsChars text.toList s) : SpellsText text ('"' :: (s ++ ['"']))
  | raw {hashes : List Char} (marks : ∀ c ∈ hashes, c = '#') (apart : ¬ '"' :: hashes <:+: text.toList) :
    SpellsText text ('r' :: (hashes ++ '"' :: (text.toList ++ '"' :: hashes)))

/-! ## Numbers -/

inductive SpellsNatural (n : Nat) : List Char → Prop
  | decimal {s : List Char} (digits : SpellsDigits 10 n s) : SpellsNatural n s
  | hexadecimal {s : List Char} (digits : SpellsDigits 16 n s) : SpellsNatural n ('0' :: 'x' :: s)
  | octal {s : List Char} (digits : SpellsDigits 8 n s) : SpellsNatural n ('0' :: 'o' :: s)
  | binary {s : List Char} (digits : SpellsDigits 2 n s) : SpellsNatural n ('0' :: 'b' :: s)

inductive SpellsSingle : Float32 → List Char → Prop
  | infinite : SpellsSingle (Float32.ofBits 0x7f800000) ['i', 'n', 'f']
  | positive : SpellsSingle (Float32.ofBits 0x7f800000) ['+', 'i', 'n', 'f']
  | negative : SpellsSingle (Float32.ofBits 0xff800000) ['-', 'i', 'n', 'f']
  | numeral {x : Float32} {numeral : Numeral} {s : List Char} (spells : SpellsNumeral numeral s)
      (rounds : numeral.RoundsTo x) : SpellsSingle x s

/-! ## Values -/

inductive Listed : List (List Char) → List Char → Prop
  | nil {gap : List Char} (blanks : Blanks gap) : Listed [] gap
  | last {item before after : List Char} (lead : Blanks before) (behind : Blanks after) :
    Listed [item] (before ++ (item ++ after))
  | cons {item before after rest : List Char} {items : List (List Char)} (lead : Blanks before)
      (behind : Blanks after) (further : Listed items rest) :
    Listed (item :: items) (before ++ (item ++ (after ++ ',' :: rest)))

structure Item where
  shape : Shape
  value : Value
  text : List Char

structure Member extends Item where
  name : String
  lead : List Char

def Member.shown (member : Member) : List Char := member.lead ++ member.text

def Member.pair (member : Member) : String × Value := (member.name, member.value)

inductive SpellsLead (name : String) : List Char → Prop
  | mk {word before after : List Char} (spells : SpellsWord name word) (lead : Blanks before)
      (behind : Blanks after) : SpellsLead name (word ++ (before ++ ':' :: after))

inductive SpellsTitle (name : String) : List Char → Prop
  | untitled : SpellsTitle name []
  | titled {word gap : List Char} (spells : SpellsWord name word) (blanks : Blanks gap) :
    SpellsTitle name (word ++ gap)

/-- The texts of values of a shape that reach at most so many levels deep. -/
inductive Spells : Nat → Shape → Value → List Char → Prop
  | text {depth : Nat} {text : String} {s : List Char} (spells : SpellsText text s) :
    Spells depth .text (.text text) s
  | natural {depth bound n : Nat} {s : List Char} (spells : SpellsNatural n s) (small : n < bound) :
    Spells depth (.natural bound) (.natural n) s
  | single {depth : Nat} {x : Float32} {s : List Char} (spells : SpellsSingle x s) :
    Spells depth .single (.single x) s
  | variant {depth : Nat} {name : String} {s : List Char} (spells : SpellsWord name s) :
    Spells (depth + 1) .variant (.variant name) s
  | list {depth : Nat} {shape : Shape} {items : List Item} {s : List Char}
      (shaped : ∀ item ∈ items, item.shape = shape)
      (spells : ∀ item ∈ items, Spells depth item.shape item.value item.text)
      (listed : Listed (items.map Item.text) s) :
    Spells (depth + 2) (.list shape) (.list (items.map Item.value)) ('[' :: (s ++ [']']))
  | record {depth : Nat} {name : String} {asked : List (String × Shape)} {members : List Member}
      {title s : List Char} (titled : SpellsTitle name title)
      (distinct : (members.map (·.name)).Nodup)
      (shaped : ∀ member ∈ members, asked.lookup member.name = some member.shape)
      (leads : ∀ member ∈ members, SpellsLead member.name member.lead)
      (spells : ∀ member ∈ members, Spells depth member.shape member.value member.text)
      (listed : Listed (members.map Member.shown) s) :
    Spells (depth + 2) (.record name asked) (.record (members.map Member.pair))
      (title ++ '(' :: (s ++ [')']))

/-! ## Documents -/

inductive SpellsExtensions : List Char → Prop
  | last {name : String} {word gap : List Char} (known : (Extension.ofWord? name).isSome)
      (spells : SpellsWord name word) (blanks : Blanks gap) : SpellsExtensions (word ++ gap)
  | comma {name : String} {word gap behind : List Char} (known : (Extension.ofWord? name).isSome)
      (spells : SpellsWord name word) (blanks : Blanks gap) (trailing : Blanks behind) :
    SpellsExtensions (word ++ (gap ++ ',' :: behind))
  | cons {name : String} {word gap behind rest : List Char} (known : (Extension.ofWord? name).isSome)
      (spells : SpellsWord name word) (blanks : Blanks gap) (trailing : Blanks behind)
      (further : SpellsExtensions rest) : SpellsExtensions (word ++ (gap ++ ',' :: (behind ++ rest)))

inductive SpellsAttributes : List Char → Prop
  | nil : SpellsAttributes []
  | cons {g₁ g₂ g₃ g₄ g₅ g₆ g₇ names rest : List Char} (b₁ : Blanks g₁) (b₂ : Blanks g₂) (b₃ : Blanks g₃)
      (b₄ : Blanks g₄) (b₅ : Blanks g₅) (b₆ : Blanks g₆) (b₇ : Blanks g₇)
      (spells : SpellsExtensions names) (further : SpellsAttributes rest) :
    SpellsAttributes ('#' :: (g₁ ++ '!' :: (g₂ ++ '[' :: (g₃ ++ "enable".toList ++ (g₄ ++ '(' ::
      (g₅ ++ (names ++ ')' :: (g₆ ++ ']' :: (g₇ ++ rest)))))))))

inductive Document (shape : Shape) (value : Value) : List Char → Prop
  | mk {gap attributes s trailing : List Char} (lead : Blanks gap)
      (enabled : SpellsAttributes attributes) (spells : Spells nestingLimit shape value s)
      (behind : Trailing trailing) : Document shape value (gap ++ (attributes ++ (s ++ trailing)))

/-! ## As documents are mostly written -/

theorem digit?_digitChar {n : Nat} (small : n < 10) : digit? n.digitChar = some n := by
  revert n
  decide

theorem spellsDigits_toDigits (n : Nat) : SpellsDigits 10 n (Nat.toDigits 10 n) := by
  induction n using Nat.strongRecOn with
  | _ n ih =>
    by_cases small : n < 10
    · rw [Nat.toDigits_of_lt_base small]
      exact .first (digit?_digitChar small) small
    · have last : n % 10 < 10 := Nat.mod_lt n (by decide)
      have next := SpellsDigits.next (ih (n / 10) (by omega)) (digit?_digitChar last) last
      rw [Nat.div_add_mod] at next
      rwa [Nat.toDigits_of_base_le (by decide) (by omega)]

theorem spellsWord_of {name : String} {c : Char} {rest : List Char} (whole : name.toList = c :: rest)
    (letters : (isWordStart c = true ∧ c ≠ 'r') ∧ rest.all isWordChar = true) :
    SpellsWord name name.toList := by
  obtain ⟨⟨begins, unmarked⟩, within⟩ := letters
  rw [whole]
  exact .plain whole begins (fun marked => absurd marked unmarked) (List.all_eq_true.mp within)

theorem blanks_of {gap : List Char} (blank : gap.all (· ∈ [' ', '\t', '\r', '\n']) = true) :
    Blanks gap := by
  induction gap with
  | nil => exact .nil
  | cons c gap ih =>
    rw [List.all_cons, Bool.and_eq_true, decide_eq_true_eq] at blank
    exact .blank blank.1 (ih blank.2)

theorem comment_of {text : List Char} (plain : text.all (fun c => c ≠ '/' ∧ c ≠ '*') = true) :
    Comment (text ++ ['*', '/']) := by
  induction text with
  | nil => exact .done
  | cons c text ih =>
    rw [List.all_cons, Bool.and_eq_true, decide_eq_true_eq] at plain
    obtain ⟨⟨slash, star⟩, plain⟩ := plain
    exact .other (fun same => absurd same slash) (fun same => absurd same star) (ih plain)

def Item.named (item : Item) (name : String) : Member := ⟨item, name, name.toList ++ [':', ' ']⟩

theorem lead_named (item : Item) {name : String} (word : SpellsWord name name.toList) :
    SpellsLead name (item.named name).lead :=
  .mk word .nil (.blank (by decide) .nil)

theorem spells_field {depth : Nat} {title name : String} {asked : List (String × Shape)} (item : Item)
    (spells : Spells depth item.shape item.value item.text) (word : SpellsWord name name.toList)
    (shaped : asked.lookup name = some item.shape) :
    Spells (depth + 2) (.record title asked) (.record [(name, item.value)])
      ('(' :: ((item.named name).shown ++ [')'])) := by
  have listed : Listed [(item.named name).shown] ([] ++ ((item.named name).shown ++ [])) := .last .nil .nil
  rw [List.append_nil, List.nil_append] at listed
  exact @Spells.record depth title asked [item.named name] [] _ .untitled (List.nodup_singleton _)
    (List.forall_mem_singleton.mpr shaped) (List.forall_mem_singleton.mpr (lead_named item word))
    (List.forall_mem_singleton.mpr spells) listed

end TextQuest.Ron
