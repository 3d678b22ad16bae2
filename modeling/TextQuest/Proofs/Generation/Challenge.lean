import Std.Data.String.ToNat
import TextQuest.Generation.Challenge
import TextQuest.Proofs.Decimal.Spelling

/-!
The language of challenge tokens. A name may have dashes and even levels in it, but a level has none, so the
last dash of a token is the one before its level.
-/
namespace TextQuest.Generation

namespace Challenge
open Text Decimal

/-! ## The last dash -/

theorem takeWhile_dashless {last : List Char} (dashless : '-' ∉ last) {rest : List Char}
    (ends : EndsRun (· != '-') rest) : (last.reverse ++ rest).takeWhile (· != '-') = last.reverse := by
  have within : ∀ c ∈ last.reverse, (c != '-') = true := by
    intro c inside
    exact bne_iff_ne.mpr fun dash => dashless (dash ▸ List.mem_reverse.mp inside)
  exact (takeWhile_run within ends).1

theorem splitLastDash_append (name : List Char) {last : List Char} (dashless : '-' ∉ last) :
    splitLastDash (name ++ '-' :: last) = some (name, last) := by
  have ends : EndsRun (· != '-') ('-' :: name.reverse) := by
    intro c t begins
    obtain ⟨rfl, -⟩ := List.cons.inj begins
    rfl
  have found : ((name ++ '-' :: last).reverse.takeWhile (· != '-')).reverse = last := by
    rw [List.reverse_append, List.reverse_cons, List.append_assoc, List.singleton_append,
      takeWhile_dashless dashless ends, List.reverse_reverse]
  have split : (name ++ '-' :: last).length - last.length - 1 = name.length := by
    simp
    omega
  have more : last.length ≠ (name ++ '-' :: last).length := by
    simp
    omega
  simp only [splitLastDash, found, if_neg more, split, List.take_left]

theorem splitLastDash_dashless {text : List Char} (dashless : '-' ∉ text) : splitLastDash text = none := by
  have whole : text.reverse.takeWhile (· != '-') = text.reverse := by
    have ends : EndsRun (· != '-') [] := nofun
    have taken := takeWhile_dashless dashless ends
    rwa [List.append_nil] at taken
  simp [splitLastDash, whole]

theorem splitLastDash_eq_some {text name last : List Char} :
    splitLastDash text = some (name, last) ↔ text = name ++ '-' :: last ∧ '-' ∉ last := by
  constructor
  · intro split
    by_cases dash : '-' ∈ text
    · obtain ⟨after, before, shown, fresh⟩ :=
        List.eq_append_cons_of_mem (List.mem_reverse.mpr dash)
      have parted : text = before.reverse ++ '-' :: after.reverse := by
        rw [← List.reverse_reverse text, shown]
        simp
      have dashless : '-' ∉ after.reverse := by simpa using fresh
      rw [parted, splitLastDash_append _ dashless] at split
      obtain ⟨rfl, rfl⟩ : before.reverse = name ∧ after.reverse = last := by simpa using split
      exact ⟨parted, dashless⟩
    · rw [splitLastDash_dashless dash] at split
      cases split
  · rintro ⟨rfl, dashless⟩
    exact splitLastDash_append name dashless

/-! ## Printed tokens -/

def levelText (level : Nat) : List Char := "level".toList ++ (toString level).toList

theorem spellsWhole_toString (n : Nat) : SpellsWhole n (toString n).toList := by
  have spells : SpellsWhole (Nat.ofDigitChars 10 (Nat.toDigits 10 n) 0) (Nat.toDigits 10 n) :=
    .bare Nat.toDigits_ne_nil fun _ => Nat.isDigit_of_mem_toDigits (by decide) (by decide)
  rwa [Nat.ofDigitChars_ten_toDigits, ← Nat.toList_repr] at spells

theorem dash_not_mem_level {level : Nat} {number : List Char} (whole : SpellsWhole level number) :
    '-' ∉ "level".toList ++ number := by
  have digit {digits : List Char} (within : Digits digits) : '-' ∉ digits :=
    fun inside => absurd (within '-' inside) (by decide)
  intro within
  rcases List.mem_append.mp within with word | inside
  · revert word
    decide
  · cases whole with
    | bare _ digits => exact digit digits inside
    | plus _ digits =>
      rcases List.mem_cons.mp inside with sign | inside
      · revert sign
        decide
      · exact digit digits inside

theorem toList_token (challenge : Challenge) :
    challenge.token.toList = "tw-".toList ++ (challenge.name.toList ++ '-' :: levelText challenge.level) := by
  simp [token, levelText]

theorem token_inj {a b : Challenge} : a.token = b.token ↔ a = b := by
  refine ⟨fun same => ?_, congrArg token⟩
  have parts : a.name.toList ++ '-' :: levelText a.level = b.name.toList ++ '-' :: levelText b.level := by
    have texts := congrArg String.toList same
    rw [toList_token, toList_token] at texts
    exact List.append_cancel_left texts
  have dashless (level : Nat) : '-' ∉ levelText level := dash_not_mem_level (spellsWhole_toString level)
  have split := congrArg splitLastDash parts
  rw [splitLastDash_append _ (dashless a.level), splitLastDash_append _ (dashless b.level)] at split
  obtain ⟨names, levels⟩ : a.name.toList = b.name.toList ∧ levelText a.level = levelText b.level := by
    simpa using split
  have level : a.level = b.level :=
    Nat.repr_injective (String.toList_inj.mp (List.append_cancel_left levels))
  obtain ⟨name, number⟩ := a
  obtain rfl : name = b.name := String.toList_inj.mp names
  obtain rfl : number = b.level := level
  rfl

/-! ## The language -/

inductive Spells : Challenge → String → Prop
  | mk {name : String} {level : Nat} {number : List Char} (whole : SpellsWhole level number)
      (positive : 0 < level) (small : level < UInt32.size) :
    Spells ⟨name, level⟩ ("tw-" ++ name ++ "-level" ++ String.ofList number)

theorem level?_eq_some {text : List Char} {level : Nat} :
    level? text = some level ↔ ∃ number, text = "level".toList ++ number ∧ SpellsWhole level number ∧
      0 < level ∧ level < UInt32.size := by
  simp only [level?, bind, Option.bind_eq_some_iff, expect_eq_some, natural?_eq_some]
  constructor
  · rintro ⟨number, shown, found, whole, bounded⟩
    split at bounded
    · obtain rfl := Option.some.inj bounded
      rename_i range
      exact ⟨number, shown, whole, range⟩
    · cases bounded
  · rintro ⟨number, shown, whole, range⟩
    exact ⟨number, shown, level, whole, if_pos range⟩

theorem parts?_eq_some {token : String} {challenge : Challenge} :
    parts? token.toList = some challenge ↔ challenge.name ≠ "" ∧ Spells challenge token := by
  simp only [parts?, bind, Option.bind_eq_some_iff, expect_eq_some, Prod.exists, splitLastDash_eq_some,
    level?_eq_some]
  constructor
  · rintro ⟨rest, begins, name, last, ⟨rfl, dashless⟩, level, ⟨number, rfl, whole, positive, small⟩, named⟩
    split at named
    · cases named
    · rename_i nonempty
      obtain rfl := Option.some.inj named
      have shown : token = "tw-" ++ String.ofList name ++ "-level" ++ String.ofList number := by
        rw [← String.toList_inj, begins]
        simp
      refine ⟨?_, shown ▸ .mk whole positive small⟩
      simpa using nonempty
  · rintro ⟨nonempty, ⟨whole, positive, small⟩⟩
    rename_i name level number
    have unempty : ¬name.toList.isEmpty = true := by simpa using nonempty
    refine ⟨_, by simp; rfl, name.toList, "level".toList ++ number, ⟨by simp, dash_not_mem_level whole⟩,
      level, ⟨number, rfl, whole, positive, small⟩, ?_⟩
    simp [unempty]

theorem name_ne_empty {name : String} (listed : name ∈ known) : name ≠ "" := by
  rintro rfl
  revert listed
  decide

theorem parse_of_spells {token : String} {challenge : Challenge} (named : challenge.name ≠ "")
    (spells : Spells challenge token) :
    parse token = if known.contains challenge.name then .ok challenge
      else .error (.unknownChallenge challenge.name known) := by
  simp only [parse, parts?_eq_some.mpr ⟨named, spells⟩]

theorem parse_of_not_spells {token : String}
    (other : ¬∃ challenge : Challenge, challenge.name ≠ "" ∧ Spells challenge token) :
    parse token = .error (.malformedChallenge token) := by
  have unread : parts? token.toList = none :=
    Option.eq_none_iff_forall_ne_some.mpr fun challenge read =>
      other ⟨challenge, parts?_eq_some.mp read⟩
  simp only [parse, unread]

theorem parse_eq_ok {token : String} {challenge : Challenge} :
    parse token = .ok challenge ↔ challenge.name ∈ known ∧ Spells challenge token := by
  constructor
  · intro parsed
    by_cases shape : ∃ found : Challenge, found.name ≠ "" ∧ Spells found token
    · obtain ⟨found, named, spells⟩ := shape
      rw [parse_of_spells named spells] at parsed
      split at parsed
      · rename_i listed
        obtain rfl := Except.ok.inj parsed
        exact ⟨List.contains_iff_mem.mp listed, spells⟩
      · cases parsed
    · rw [parse_of_not_spells shape] at parsed
      cases parsed
  · rintro ⟨listed, spells⟩
    rw [parse_of_spells (name_ne_empty listed) spells, if_pos (List.contains_iff_mem.mpr listed)]

theorem parse_eq_unknown {token name : String} {names : List String} :
    parse token = .error (.unknownChallenge name names) ↔
      name ≠ "" ∧ name ∉ known ∧ names = known ∧ ∃ level, Spells ⟨name, level⟩ token := by
  constructor
  · intro parsed
    by_cases shape : ∃ found : Challenge, found.name ≠ "" ∧ Spells found token
    · obtain ⟨found, named, spells⟩ := shape
      rw [parse_of_spells named spells] at parsed
      split at parsed
      · cases parsed
      · rename_i unlisted
        obtain ⟨rfl, rfl⟩ := MakeError.unknownChallenge.inj (Except.error.inj parsed)
        exact ⟨named, fun listed => unlisted (List.contains_iff_mem.mpr listed), rfl, found.level, spells⟩
    · rw [parse_of_not_spells shape] at parsed
      cases parsed
  · rintro ⟨named, unlisted, rfl, level, spells⟩
    rw [parse_of_spells named spells, if_neg fun listed => unlisted (List.contains_iff_mem.mp listed)]

theorem parse_eq_malformed {token : String} :
    parse token = .error (.malformedChallenge token) ↔
      ¬∃ challenge : Challenge, challenge.name ≠ "" ∧ Spells challenge token := by
  refine ⟨fun parsed shape => ?_, parse_of_not_spells⟩
  obtain ⟨found, named, spells⟩ := shape
  rw [parse_of_spells named spells] at parsed
  split at parsed <;> cases parsed

theorem spells_token {challenge : Challenge} (positive : 0 < challenge.level)
    (small : challenge.level < UInt32.size) : Spells challenge challenge.token := by
  have spells := @Spells.mk challenge.name _ _ (spellsWhole_toString challenge.level) positive small
  rwa [String.ofList_toList] at spells

theorem Spells.level_range {challenge : Challenge} {token : String} (spells : Spells challenge token) :
    0 < challenge.level ∧ challenge.level < UInt32.size := by
  obtain ⟨-, positive, small⟩ := spells
  exact ⟨positive, small⟩

end Challenge

open Challenge

/-- A token is parsed as the challenge that it spells if the name of this is known, and refused with the
name that it spells if that is not; all other tokens are malformed. Printing a challenge and parsing it
gives it back. -/
theorem tokens_parsed_as_spelled :
    (∀ token challenge, parse token = .ok challenge ↔ challenge.name ∈ known ∧ Spells challenge token) ∧
    (∀ token name names, parse token = .error (.unknownChallenge name names) ↔
      name ≠ "" ∧ name ∉ known ∧ names = known ∧ ∃ level, Spells ⟨name, level⟩ token) ∧
    (∀ token, parse token = .error (.malformedChallenge token) ↔
      ¬∃ challenge : Challenge, challenge.name ≠ "" ∧ Spells challenge token) ∧
    (∀ challenge : Challenge, challenge.name ∈ known → 0 < challenge.level →
      challenge.level < UInt32.size → parse challenge.token = .ok challenge) ∧
    ∀ token challenge, parse token = .ok challenge → parse challenge.token = .ok challenge := by
  have printed : ∀ challenge : Challenge, challenge.name ∈ known → 0 < challenge.level →
      challenge.level < UInt32.size → parse challenge.token = .ok challenge :=
    fun challenge listed positive small => parse_eq_ok.mpr ⟨listed, spells_token positive small⟩
  refine ⟨fun _ _ => parse_eq_ok, fun _ _ _ => parse_eq_unknown, fun _ => parse_eq_malformed, printed, ?_⟩
  intro token challenge parsed
  obtain ⟨listed, spells⟩ := parse_eq_ok.mp parsed
  exact printed challenge listed spells.level_range.1 spells.level_range.2

theorem cooking_tokens_parsed :
    let largest : Challenge := ⟨"coin_collector", 4294967295⟩
    let seventh : Challenge := ⟨"cooking", 7⟩
    parse largest.token = .ok largest ∧ parse "tw-cooking-level+007" = .ok seventh ∧
      parse seventh.token = .ok seventh ∧
      parse "tw-cooking-level1-level2" = .error (.unknownChallenge "cooking-level1" known) := by
  intro largest seventh
  obtain ⟨spelled, unknown, -, printed, again⟩ := tokens_parsed_as_spelled
  have digits {ds : List Char} (within : ds.all Char.isDigit = true) : Decimal.Digits ds :=
    List.all_eq_true.mp within
  have read : parse "tw-cooking-level+007" = .ok seventh :=
    (spelled _ _).mpr ⟨by decide,
      .mk (.plus (List.cons_ne_nil '0' ['0', '7']) (digits rfl)) (by decide) (by decide)⟩
  refine ⟨printed largest (by decide) (by decide) (by decide), read, again _ _ read, ?_⟩
  exact (unknown _ _ _).mpr ⟨by decide, by decide, rfl, 2,
    .mk (.bare (List.cons_ne_nil '2' []) (digits rfl)) (by decide) (by decide)⟩

end TextQuest.Generation
