import TextQuest.Proofs.Bridge.Answer
import TextQuest.Proofs.Json.Game
import TextQuest.Proofs.Text.Utf8

namespace TextQuest.Bridge

open Json

namespace Response

def slots (response : Response) : List Slot :=
  [⟨"ok", (· = .bool response.ok), response.ok = false⟩,
    ⟨"error", (· = response.error.elim .null .text), response.error = none⟩,
    ⟨"state", fun value => response.state.elim (value = .null) (·.ToldBy value), response.state = none⟩,
    ⟨"reward", (· = response.reward.elim .null Reward.toJson), response.reward = none⟩,
    ⟨"done", (· = response.done.elim .null .bool), response.done = none⟩,
    ⟨"commands", (· = response.commands.elim .null .ofStrings), response.commands = none⟩]

/-- A text tells a response: an object that has all of it but defaults, in any order. -/
inductive ToldBy (response : Response) : List Char → Prop
  | mk {before s after : List Char} {pairs : List (String × Value)} (spaced : Spaces before)
      (spells : Spells (.object pairs) s) (apart : Spaces after) (told : Told response.slots pairs) :
    ToldBy response (before ++ s ++ after)

def part (response : Response) (filled : List String) : Response where
  ok := held filled "ok" response.ok false
  error := held filled "error" response.error none
  state := held filled "state" response.state none
  reward := held filled "reward" response.reward none
  done := held filled "done" response.done none
  commands := held filled "commands" response.commands none

theorem part_given {response : Response} {filled : List String}
    (given : ∀ slot ∈ response.slots, slot.name ∈ filled ∨ slot.mayMiss) :
    response.part filled = response := by
  simp only [slots, List.forall_mem_cons] at given
  obtain ⟨ok, error, state, reward, done, commands, -⟩ := given
  simp only [part, held_given, *]

theorem part_other {response : Response} {name : String} (filled : List String)
    (other : ∀ slot ∈ response.slots, name ≠ slot.name) :
    response.part (name :: filled) = response.part filled := by
  simp only [slots, List.forall_mem_cons] at other
  simp [part, held_other, Ne.symm, other]

theorem reads_state {state : Option GameState} (sized : ∀ told ∈ state, told.Sized) {value : Value}
    (told : state.elim (value = .null) (·.ToldBy value)) (room : Nat) :
    Reads room (option (GameState.read room)) value state := by
  cases state with
  | none => exact told ▸ reads_null _
  | some state =>
    refine (GameState.reads (sized state rfl) told room).option ?_
    obtain ⟨pairs, rfl, -⟩ := told
    nofun

theorem takes_slots {response : Response} (sized : ∀ state ∈ response.state, state.Sized) (room : Nat) :
    List.Forall₂ (Form.Takes room response.part) (form room).fields response.slots := by
  refine .cons (Form.takes_value (reads_bool response.ok) ?_) <|
    .cons (Form.takes_value (reads_optional reads_text nofun response.error) ?_) <|
    .cons (Form.takes_of (fun _ told => reads_state sized told room) ?_) <|
    .cons (Form.takes_value (reads_optional (Reward.reads · room) nofun response.reward) ?_) <|
    .cons (Form.takes_value (reads_optional reads_bool nofun response.done) ?_) <|
    .cons (Form.takes_value (reads_optional reads_strings nofun response.commands) ?_) .nil
  all_goals
    intro filled
    simp [part, held_other]

theorem reads {response : Response} (sized : ∀ state ∈ response.state, state.Sized)
    {pairs : List (String × Value)} (told : Told response.slots pairs) (room : Nat) :
    Reads room ((form room).read room) (.object pairs) response :=
  Form.reads_told rfl (by simp [part, form]) (takes_slots sized room) (fun _ filled => part_other filled)
    (fun _ => part_given) told

theorem isBlank_of_isSpace {c : Char} (space : isSpace c = true) : Text.isBlank c = true := by
  simp only [isSpace, Bool.or_eq_true, beq_iff_eq] at space
  rcases space with ((rfl | rfl) | rfl) | rfl <;> decide

theorem spells_object {pairs : List (String × Value)} {s : List Char} (spells : Spells (.object pairs) s) :
    ∃ within, s = '{' :: within ++ ['}'] := by
  cases spells with
  | emptyObject spaced => exact ⟨_, rfl⟩
  | object some spaced spells => exact ⟨_, rfl⟩

theorem trimChars_told {before s after : List Char} {pairs : List (String × Value)}
    (blank : ∀ c ∈ before, Text.isBlank c = true) (spells : Spells (.object pairs) s)
    (apart : ∀ c ∈ after, Text.isBlank c = true) : Text.trimChars (before ++ s ++ after) = s := by
  apply Text.trimChars_blanks blank apart
  obtain ⟨within, rfl⟩ := spells_object spells
  constructor
  · intro c first
    cases first
    rfl
  · intro c last
    rw [List.getLast?_concat] at last
    cases last
    rfl

theorem ToldBy.tells {response : Response} {text : String} (told : response.ToldBy text.toList)
    (sized : ∀ state ∈ response.state, state.Sized) :
    Tells (Text.encode text ++ [0x0a]) (text.toList ++ ['\n']) response := by
  have isText : Text.decode? (Text.encode text ++ [0x0a]) = some (text.toList ++ ['\n']) := by
    have whole := Text.decode?_encode (text ++ "\n")
    have feed : Text.encode "\n" = [0x0a] := by
      rw [Text.encode_eq_flatMap]
      decide
    rwa [Text.encode_append, String.toList_append, feed] at whole
  generalize text.toList = shown at told isText ⊢
  obtain ⟨spaced, spells, apart, told⟩ := told
  rename_i before s after pairs
  have ended : Spaces (after ++ ['\n']) := fun c within => by
    rcases List.mem_append.mp within with inside | last
    · exact apart c inside
    · exact List.mem_singleton.mp last ▸ rfl
  have trimmed := trimChars_told (fun c within => isBlank_of_isSpace (spaced c within)) spells
    fun c within => isBlank_of_isSpace (ended c within)
  rw [← List.append_assoc] at trimmed
  refine ⟨isText, ?_, ?_⟩
  · obtain ⟨within, rfl⟩ := spells_object spells
    exact ⟨'{', by simp, rfl⟩
  · rw [trimmed]
    exact read_spelled spells (reads sized told _)

end Response
end TextQuest.Bridge
