import Mathlib.Data.List.Forall2
import TextQuest.Neural.Single
import TextQuest.Proofs.Agent.Choice
import TextQuest.Proofs.Sorted

namespace TextQuest.Neural

def wordsRead (state : GameState) : List String := state.textFields.flatMap tokens

def SameWords (state other : GameState) : Prop := ∀ word, word ∈ wordsRead state ↔ word ∈ wordsRead other

def SameCommandWords (command other : String) : Prop := ∀ word, word ∈ tokens command ↔ word ∈ tokens other

theorem mem_map_congr {α β : Type} {items others : List α} (f : α → β)
    (same : ∀ a, a ∈ items ↔ a ∈ others) (b : β) : b ∈ items.map f ↔ b ∈ others.map f := by
  simp only [List.mem_map, same]

theorem mem_observationWords (state : GameState) (word : UInt64) :
    word ∈ observationWords state ↔ word ∈ (wordsRead state).map hashText :=
  mem_map_congr hashText (fun _ => List.mem_eraseDups) word

/-! ## Features of words -/

variable {count : Nat} {seen other : List UInt64}

theorem observationIndices_congr (same : ∀ word, word ∈ seen ↔ word ∈ other) :
    observationIndices count seen = observationIndices count other := by
  refine sortedOnce_congr (mem_map_congr _ fun word => ?_)
  simp only [List.mem_append, same]

theorem commandIndices_congr {command text : List UInt64} (same : ∀ word, word ∈ seen ↔ word ∈ other)
    (alike : ∀ word, word ∈ command ↔ word ∈ text) :
    commandIndices count seen command = commandIndices count other text := by
  refine sortedOnce_congr fun place => ?_
  simp only [List.mem_append, List.mem_flatMap, List.mem_cons, List.mem_map, same, alike]

variable {R : Type} [Scalar R]

theorem observationFeatures_congr (same : ∀ word, word ∈ seen ↔ word ∈ other) :
    (observationFeatures count seen : Features R) = observationFeatures count other :=
  congrArg Features.ofIndices (observationIndices_congr same)

theorem commandFeatures_congr {command text : String} (same : ∀ word, word ∈ seen ↔ word ∈ other)
    (alike : SameCommandWords command text) :
    (commandFeatures count seen command : Features R) = commandFeatures count other text :=
  congrArg Features.ofIndices (commandIndices_congr same (mem_map_congr hashText alike))

/-! ## What a learner makes of them -/

theorem SameWords.observationWords {state other : GameState} (same : SameWords state other) (word : UInt64) :
    word ∈ Neural.observationWords state ↔ word ∈ Neural.observationWords other := by
  rw [mem_observationWords, mem_observationWords]
  exact mem_map_congr hashText same word

namespace Learner

variable {state other : GameState}

theorem valueOf_congr (learner : Learner R) (same : SameWords state other) :
    learner.valueOf state = learner.valueOf other := by
  simp only [valueOf, observe, observationFeatures_congr same.observationWords]

theorem candidates_congr (learner : Learner R) (same : SameWords state other)
    (alike : List.Forall₂ SameCommandWords state.admissibleCommands other.admissibleCommands) :
    learner.candidates state = learner.candidates other := by
  unfold candidates
  dsimp only
  generalize state.admissibleCommands = commands, other.admissibleCommands = texts at alike
  induction alike with
  | nil => rfl
  | cons here _ later =>
    rw [List.map_cons, List.map_cons, commandFeatures_congr same.observationWords here, later]

structure ChoosesLike (learner twin : Learner R) : Prop where
  count : learner.config.featureDim = twin.config.featureDim
  policy : learner.params.policy = twin.params.policy
  training : learner.training = twin.training
  random : learner.training = true → learner.random = twin.random

theorem ChoosesLike.sample {learner twin : Learner R} (alike : learner.ChoosesLike twin) (probs : List R) :
    (learner.sample probs).1 = (twin.sample probs).1 := by
  rw [sample_fst, sample_fst, ← alike.training]
  split
  · rename_i training
    rw [alike.random training]
  · rfl

theorem ChoosesLike.choose {learner twin : Learner R} (alike : learner.ChoosesLike twin)
    (same : SameWords state other)
    (commands : List.Forall₂ SameCommandWords state.admissibleCommands other.admissibleCommands)
    (amount told : R) : (learner.choose state amount).1 = (twin.choose other told).1 := by
  have probs : learner.probabilities (learner.candidates state) =
      twin.probabilities (twin.candidates other) := by
    rw [learner.candidates_congr same commands]
    simp only [probabilities, candidates, alike.count, alike.policy]
  rw [choose_fst, choose_fst, probs, alike.sample]

theorem ChoosesLike.decide {learner twin : Learner R} (alike : learner.ChoosesLike twin)
    (same : SameWords state other) (commands : state.admissibleCommands = other.admissibleCommands)
    (reward told : Reward) (done ended : Bool) :
    (Agent.neural.decide ⟨state, reward, done⟩ learner).result =
      (Agent.neural.decide ⟨other, told, ended⟩ twin).result := by
  have chosen := alike.choose same
    (commands ▸ List.forall₂_same.mpr fun _ _ _ => Iff.rfl) (Agent.amount reward) (Agent.amount told)
  cases offered : state.admissibleCommands with
  | nil => simp only [Agent.neural, offered, ← commands]
  | cons first rest => simp only [Agent.neural, offered, ← commands, chosen]

end Learner

/-- States whose texts hold the same words are worth the same to a learner; it finds commands that are made
of the same words equally likely in them, and takes the same one of the same commands. -/
theorem decisions_depend_on_words {R : Type} [Scalar R] (learner : Learner R) {state other : GameState}
    (same : SameWords state other) :
    learner.valueOf state = learner.valueOf other ∧
    (List.Forall₂ SameCommandWords state.admissibleCommands other.admissibleCommands →
      learner.probabilities (learner.candidates state) =
        learner.probabilities (learner.candidates other)) ∧
    (state.admissibleCommands = other.admissibleCommands →
      ∀ twin : Learner R, learner.ChoosesLike twin → ∀ reward told done ended,
        (Agent.neural.decide ⟨state, reward, done⟩ learner).result =
          (Agent.neural.decide ⟨other, told, ended⟩ twin).result) := by
  refine ⟨learner.valueOf_congr same, fun alike => ?_, fun commands twin alike => ?_⟩
  · rw [learner.candidates_congr same alike]
  · exact alike.decide same commands

theorem kitchens_are_alike :
    let learner : Learner Float32 := Learner.setTraining true (.new .standard)
    let commands := ["take coin", "go"]
    let kitchen : GameState :=
      { description := "A bright kitchen!", objective := "Find 1 coin.", admissibleCommands := commands }
    let other : GameState :=
      { inventory := "COIN, coin", feedback := "find (a) 1", objective := "Bright Kitchen",
        admissibleCommands := commands }
    let reworded : GameState := { other with admissibleCommands := ["Coin: take coin", "go"] }
    learner.valueOf kitchen = learner.valueOf other ∧
      learner.probabilities (learner.candidates kitchen) =
        learner.probabilities (learner.candidates reworded) ∧
      (Agent.neural.decide ⟨kitchen, .neutral, false⟩ learner).result =
        (Agent.neural.decide ⟨other, .positive, false⟩ learner).result := by
  intro learner commands kitchen other reworded
  have same : SameWords kitchen other := by
    have forth : ∀ word ∈ wordsRead kitchen, word ∈ wordsRead other := by decide +kernel
    have back : ∀ word ∈ wordsRead other, word ∈ wordsRead kitchen := by decide +kernel
    exact fun word => ⟨forth word, back word⟩
  have alike : SameCommandWords "take coin" "Coin: take coin" := by
    have forth : ∀ word ∈ tokens "take coin", word ∈ tokens "Coin: take coin" := by decide +kernel
    have back : ∀ word ∈ tokens "Coin: take coin", word ∈ tokens "take coin" := by decide +kernel
    exact fun word => ⟨forth word, back word⟩
  have sameReworded : SameWords kitchen reworded := same
  obtain ⟨value, -, decided⟩ := decisions_depend_on_words learner same
  exact ⟨value, (decisions_depend_on_words learner sameReworded).2.1 (.cons alike (.cons (fun _ => .rfl) .nil)),
    decided rfl learner ⟨rfl, rfl, rfl, fun _ => rfl⟩ .neutral .positive false false⟩

end TextQuest.Neural
