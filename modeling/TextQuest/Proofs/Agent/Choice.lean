import TextQuest.Agent.Neural
import TextQuest.Agent.Random

namespace TextQuest

namespace Random

theorem drawBelow_lt {α : Type} {draw : α → Nat × α} {width bound : Nat} (positive : 0 < bound)
    (words : ∀ g, (draw g).1 < Nat.pow 2 width) (tries : Nat) (g : α) :
    (drawBelow draw width bound tries g).1 < bound := by
  have scaled (g : α) : (draw g).1 * bound / Nat.pow 2 width < bound :=
    Nat.div_lt_of_lt_mul (Nat.mul_lt_mul_of_pos_right (words g) positive)
  induction tries generalizing g with
  | zero => exact scaled g
  | succ tries ih =>
    simp only [drawBelow]
    split
    · exact scaled g
    · exact ih _

theorem Generator.below_lt (g : Generator) {bound : Nat} (positive : 0 < bound) :
    (g.below bound).1 < bound :=
  drawBelow_lt positive (fun g => g.nextLong.1.toNat_lt) patience g

end Random

namespace Neural

variable {R : Type} [Scalar R]

theorem argmaxFrom_lt {values : List R} {best : Nat × R} {index bound : Nat} (within : best.1 < bound)
    (length : index + values.length ≤ bound) : argmaxFrom best index values < bound := by
  induction values generalizing best index with
  | nil => exact within
  | cons value rest ih =>
    rw [List.length_cons] at length
    refine ih ?_ (by omega)
    split
    · simp only
      omega
    · exact within

theorem argmax_lt {values : List R} (nonempty : values ≠ []) : argmax values < values.length :=
  argmaxFrom_lt (List.length_pos_iff.mpr nonempty) (Nat.le_of_eq (Nat.zero_add _))

theorem pick_lt (target : R) {probs : List R} (nonempty : probs ≠ []) :
    pick target probs < probs.length := by
  fun_induction pick target probs with
  | case1 => contradiction
  | case2 => simp
  | case3 => simp
  | case4 target p rest more _ ih => exact Nat.succ_lt_succ (ih more)

theorem length_softmax (scores : List R) : (softmax scores).length = scores.length := by
  simp [softmax]

namespace Learner

theorem sample_fst (learner : Learner R) (probs : List R) :
    (learner.sample probs).1 =
      if learner.training then pick (Scalar.fraction learner.random.next.1) probs else argmax probs := by
  unfold sample
  split <;> rfl

theorem sample_lt (learner : Learner R) {probs : List R} (nonempty : probs ≠ []) :
    (learner.sample probs).1 < probs.length := by
  rw [sample_fst]
  split
  · exact pick_lt _ nonempty
  · exact argmax_lt nonempty

theorem choose_fst (learner : Learner R) (state : GameState) (amount : R) :
    (learner.choose state amount).1 =
      (learner.sample (learner.probabilities (learner.candidates state))).1 := by
  unfold choose
  dsimp only
  split <;> rfl

theorem choose_lt (learner : Learner R) {state : GameState} (amount : R)
    (offered : state.admissibleCommands ≠ []) :
    (learner.choose state amount).1 < state.admissibleCommands.length := by
  have length : (learner.probabilities (learner.candidates state)).length =
      state.admissibleCommands.length := by
    simp [probabilities, length_softmax, candidates]
  have nonempty : learner.probabilities (learner.candidates state) ≠ [] := by
    rw [← List.length_pos_iff, length]
    exact List.length_pos_iff.mpr offered
  rw [choose_fst, ← length]
  exact learner.sample_lt nonempty

end Learner
end Neural

namespace Agent

/-- An agent that asks nothing of the session, and always takes one of the commands on offer. -/
structure Willing {α : Type} (agent : Agent α) : Prop where
  prepares : ∀ state, agent.prepare state = .done (.ok (), state)
  takes : ∀ observation state, observation.state.admissibleCommands ≠ [] →
    ∃ command ∈ observation.state.admissibleCommands,
      (agent.decide observation state).result = .ok command

theorem getD_mem {first : String} {rest : List String} {index : Nat}
    (bound : index < (first :: rest).length) : (first :: rest).getD index first ∈ first :: rest := by
  rw [List.getD_eq_getElem?_getD, List.getElem?_eq_getElem bound]
  exact List.getElem_mem bound

theorem random_willing : random.Willing where
  prepares _ := rfl
  takes observation g offered := by
    cases commands : observation.state.admissibleCommands with
    | nil => contradiction
    | cons first rest =>
      refine ⟨_, getD_mem (g.below_lt (Nat.succ_pos rest.length)), ?_⟩
      simp [random, commands]

theorem neural_willing {R : Type} [Neural.Scalar R] : (neural : Agent (Neural.Learner R)).Willing where
  prepares _ := rfl
  takes observation learner offered := by
    have bound := learner.choose_lt (amount observation.reward) offered
    cases commands : observation.state.admissibleCommands with
    | nil => contradiction
    | cons first rest =>
      rw [commands] at bound
      refine ⟨_, getD_mem bound, ?_⟩
      simp [neural, commands]

end Agent
end TextQuest
