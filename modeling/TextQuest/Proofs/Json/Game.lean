import TextQuest.Json.Game
import TextQuest.Proofs.Json.Members

namespace TextQuest

open Json

/-! ## Parts of records -/

namespace Json

def held {α : Type} (filled : List String) (name : String) (whole blank : α) : α :=
  if name ∈ filled then whole else blank

variable {α : Type} {filled : List String} {name other : String} {whole blank : α}

@[simp] theorem held_nil : held [] name whole blank = blank := by simp [held]

@[simp] theorem held_same : held (name :: filled) name whole blank = whole := by simp [held]

theorem held_other (apart : name ≠ other) :
    held (other :: filled) name whole blank = held filled name whole blank := by
  simp [held, apart]

theorem held_given (given : name ∈ filled ∨ whole = blank) : held filled name whole blank = whole := by
  rcases given with read | rfl
  · simp [held, read]
  · simp [held]

end Json

/-! ## States -/

namespace GameState

structure Sized (state : GameState) : Prop where
  moves : state.moves < Nat.pow 2 32
  score : -Nat.pow 2 31 ≤ state.score ∧ state.score < Nat.pow 2 31
  maxScore : -Nat.pow 2 31 ≤ state.maxScore ∧ state.maxScore < Nat.pow 2 31

def slots (state : GameState) : List Slot :=
  [⟨"description", (· = .text state.description), state.description = ""⟩,
    ⟨"inventory", (· = .text state.inventory), state.inventory = ""⟩,
    ⟨"feedback", (· = .text state.feedback), state.feedback = ""⟩,
    ⟨"objective", (· = .text state.objective), state.objective = ""⟩,
    ⟨"admissible_commands", (· = .ofStrings state.admissibleCommands), state.admissibleCommands = []⟩,
    ⟨"policy_commands", (· = .ofStrings state.policyCommands), state.policyCommands = []⟩,
    ⟨"nb_moves", (· = .ofInt state.moves), state.moves = 0⟩,
    ⟨"score", (· = .ofInt state.score), state.score = 0⟩,
    ⟨"max_score", (· = .ofInt state.maxScore), state.maxScore = 0⟩,
    ⟨"won", (· = .bool state.won), state.won = false⟩,
    ⟨"lost", (· = .bool state.lost), state.lost = false⟩]

/-- A value tells a state: an object that has all of it but defaults, in any order. -/
def ToldBy (state : GameState) (value : Value) : Prop :=
  ∃ pairs, value = .object pairs ∧ Told state.slots pairs

def part (state : GameState) (filled : List String) : GameState where
  description := held filled "description" state.description ""
  inventory := held filled "inventory" state.inventory ""
  feedback := held filled "feedback" state.feedback ""
  objective := held filled "objective" state.objective ""
  admissibleCommands := held filled "admissible_commands" state.admissibleCommands []
  policyCommands := held filled "policy_commands" state.policyCommands []
  moves := held filled "nb_moves" state.moves 0
  score := held filled "score" state.score 0
  maxScore := held filled "max_score" state.maxScore 0
  won := held filled "won" state.won false
  lost := held filled "lost" state.lost false

theorem part_given {state : GameState} {filled : List String}
    (given : ∀ slot ∈ state.slots, slot.name ∈ filled ∨ slot.mayMiss) : state.part filled = state := by
  simp only [slots, List.forall_mem_cons] at given
  obtain ⟨description, inventory, feedback, objective, admissible, policy, moves, score, maxScore, won,
    lost, -⟩ := given
  simp only [part, held_given, *]

theorem part_other {state : GameState} {name : String} (filled : List String)
    (other : ∀ slot ∈ state.slots, name ≠ slot.name) : state.part (name :: filled) = state.part filled := by
  simp only [slots, List.forall_mem_cons] at other
  simp [part, held_other, Ne.symm, other]

theorem reads_nat32 {n : Nat} {room : Nat} (small : n < Nat.pow 2 32) :
    Reads room nat32 (.ofInt n) n := by
  have most : (n : Int) ≤ Nat.pow 2 32 - 1 := by simp only [Nat.pow_eq] at *; omega
  have reads : Reads room (whole "u32" 0 (Nat.pow 2 32 - 1)) (.ofInt n) n :=
    reads_whole (Int.natCast_nonneg n) most (by decide)
  intro gap s rest spaced spells short ends
  simp only [nat32, reads spaced spells short ends, bind, Except.bind, pure, Except.pure, Int.toNat_natCast]

theorem reads_int32 {n : Int} {room : Nat} (sized : -Nat.pow 2 31 ≤ n ∧ n < Nat.pow 2 31) :
    Reads room int32 (.ofInt n) n :=
  reads_whole sized.1 (by omega) (by decide)

theorem takes_slots {state : GameState} (sized : state.Sized) (room : Nat) :
    List.Forall₂ (Form.Takes room state.part) (form room).fields state.slots := by
  refine .cons (Form.takes_value (reads_text state.description) ?_) <|
    .cons (Form.takes_value (reads_text state.inventory) ?_) <|
    .cons (Form.takes_value (reads_text state.feedback) ?_) <|
    .cons (Form.takes_value (reads_text state.objective) ?_) <|
    .cons (Form.takes_value (reads_strings state.admissibleCommands) ?_) <|
    .cons (Form.takes_value (reads_strings state.policyCommands) ?_) <|
    .cons (Form.takes_value (reads_nat32 sized.moves) ?_) <|
    .cons (Form.takes_value (reads_int32 sized.score) ?_) <|
    .cons (Form.takes_value (reads_int32 sized.maxScore) ?_) <|
    .cons (Form.takes_value (reads_bool state.won) ?_) <|
    .cons (Form.takes_value (reads_bool state.lost) ?_) .nil
  all_goals
    intro filled
    simp [part, held_other]

theorem reads {state : GameState} (sized : state.Sized) {value : Value} (told : state.ToldBy value)
    (room : Nat) : Reads room (read room) value state := by
  obtain ⟨pairs, rfl, told⟩ := told
  exact Form.reads_told rfl (by simp [part, form]) (takes_slots sized room)
    (fun _ filled => part_other filled) (fun _ => part_given) told

end GameState

theorem Reward.reads (reward : Reward) (room : Nat) : Reads room Reward.read reward.toJson reward := by
  have small : -Nat.pow 2 63 ≤ reward.value ∧ reward.value ≤ Nat.pow 2 63 - 1 := by
    cases reward <;> decide
  have whole : Reads room int64 reward.toJson reward.value := reads_whole small.1 small.2 (by decide)
  intro gap s rest spaced spells short ends
  simp only [Reward.read, mapped, whole spaced spells short ends, bind, Except.bind,
    Reward.ofSignal_value, Except.mapError, pure, Except.pure]

end TextQuest
