import TextQuest.Json.Printer
import TextQuest.Json.Number
import TextQuest.Json.Quoted

namespace TextQuest.Json

def Spaces (s : List Char) : Prop := ∀ c ∈ s, isSpace c = true

def letterEscapes : List (Char × Char) :=
  [('"', '"'), ('\\', '\\'), ('/', '/'), ('b', '\x08'), ('f', '\x0c'), ('n', '\n'), ('r', '\r'),
    ('t', '\t')]

inductive SpellsChar (c : Char) : List Char → Prop
  | plain (printable : ' ' ≤ c) (quote : c ≠ '"') (backslash : c ≠ '\\') : SpellsChar c [c]
  | letter {letter : Char} (known : (letter, c) ∈ letterEscapes) : SpellsChar c ['\\', letter]
  | code {d₁ d₂ d₃ d₄ : Char} (code : hex4? d₁ d₂ d₃ d₄ = some c.toNat) :
    SpellsChar c ['\\', 'u', d₁, d₂, d₃, d₄]
  | pair {d₁ d₂ d₃ d₄ e₁ e₂ e₃ e₄ : Char} {high low : Nat} (first : hex4? d₁ d₂ d₃ d₄ = some high)
      (second : hex4? e₁ e₂ e₃ e₄ = some low) (isHigh : 0xd800 ≤ high ∧ high ≤ 0xdbff)
      (isLow : 0xdc00 ≤ low ∧ low ≤ 0xdfff)
      (joined : c.toNat = 0x10000 + (high - 0xd800) * 0x400 + (low - 0xdc00)) :
    SpellsChar c ['\\', 'u', d₁, d₂, d₃, d₄, '\\', 'u', e₁, e₂, e₃, e₄]

inductive SpellsChars : List Char → List Char → Prop
  | nil : SpellsChars [] []
  | cons {c : Char} {rest s t : List Char} (first : SpellsChar c s) (later : SpellsChars rest t) :
    SpellsChars (c :: rest) (s ++ t)

def Digits (s : List Char) : Prop := s ≠ [] ∧ ∀ c ∈ s, c.isDigit = true

/-- How a number may be written: no zero in front of other digits, and digits behind a point and behind
the mark of an exponent. -/
structure Numeral.Lawful (numeral : Numeral) : Prop where
  whole : Digits numeral.whole
  leading : numeral.whole.head? = some '0' → numeral.whole = ['0']
  fraction : ∀ c ∈ numeral.fraction, c.isDigit = true
  exponent : numeral.mark = [] ∧ numeral.exponent = [] ∨
    (∃ letter ∈ ['e', 'E'], ∃ sign ∈ [[], ['+'], ['-']], numeral.mark = letter :: sign) ∧
      Digits numeral.exponent

inductive SpellsName (name : String) : List Char → Prop
  | mk {before s after : List Char} (spaced : Spaces before) (spells : SpellsChars name.toList s)
      (apart : Spaces after) : SpellsName name (before ++ '"' :: s ++ '"' :: after ++ [':'])

structure Item where
  value : Value
  before : List Char
  text : List Char
  after : List Char

def Item.shown (item : Item) : List Char := item.before ++ item.text ++ item.after

structure Item.Spaced (item : Item) : Prop where
  before : Spaces item.before
  after : Spaces item.after

structure Member extends Item where
  name : String
  lead : List Char

def Member.shown (member : Member) : List Char := member.lead ++ member.toItem.shown

def Member.pair (member : Member) : String × Value := (member.name, member.value)

structure Member.Spaced (member : Member) : Prop extends member.toItem.Spaced where
  named : SpellsName member.name member.lead

def separated : List (List Char) → List Char
  | [] => []
  | [s] => s
  | s :: rest => s ++ ',' :: separated rest

inductive Spells : Value → List Char → Prop
  | null : Spells .null ['n', 'u', 'l', 'l']
  | yes : Spells (.bool true) ['t', 'r', 'u', 'e']
  | no : Spells (.bool false) ['f', 'a', 'l', 's', 'e']
  | number {numeral : Numeral} (lawful : numeral.Lawful) :
    Spells (.number numeral.text) numeral.text.toList
  | text {text : String} {s : List Char} (chars : SpellsChars text.toList s) :
    Spells (.text text) ('"' :: s ++ ['"'])
  | emptyArray {gap : List Char} (spaced : Spaces gap) : Spells (.array []) ('[' :: gap ++ [']'])
  | array {items : List Item} (some : items ≠ []) (spaced : ∀ item ∈ items, item.Spaced)
      (spells : ∀ item ∈ items, Spells item.value item.text) :
    Spells (.array (items.map Item.value)) ('[' :: separated (items.map Item.shown) ++ [']'])
  | emptyObject {gap : List Char} (spaced : Spaces gap) : Spells (.object []) ('{' :: gap ++ ['}'])
  | object {members : List Member} (some : members ≠ []) (spaced : ∀ member ∈ members, member.Spaced)
      (spells : ∀ member ∈ members, Spells member.value member.text) :
    Spells (.object (members.map Member.pair))
      ('{' :: separated (members.map Member.shown) ++ ['}'])

theorem separated_cons (s : List Char) {rest : List (List Char)} (some : rest ≠ []) :
    separated (s :: rest) = s ++ ',' :: separated rest := by
  cases rest with
  | nil => contradiction
  | cons t rest => rfl

end TextQuest.Json
