import Mathlib.Algebra.BigOperators.Fin
import Mathlib.Algebra.Field.Rat
import Mathlib.Algebra.Order.Field.Basic
import Mathlib.Algebra.Order.Ring.Rat
import Mathlib.Tactic.NormNum
import Mathlib.Tactic.Ring
import TextQuest.Neural.Single
import TextQuest.Proofs.Neural.Bounds

namespace TextQuest.Neural

/-! ## Weights that no decision has -/

section Untouched

variable {R : Type} [Scalar R]

theorem Features.get_addTo_of_not_mem {features : Features R} {i : Nat} (absent : i ∉ features.indices)
    (coefficient : R) (weights : Weights R) :
    (features.addTo coefficient weights).get i = weights.get i := by
  unfold addTo
  dsimp only
  generalize features.indices = indices at absent
  induction indices generalizing weights with
  | nil => rfl
  | cons j rest ih =>
    obtain ⟨other, absent⟩ := not_or.mp (mt List.mem_cons.mpr absent)
    rw [List.foldl_cons, ih _ absent, Weights.get_add, if_neg fun same => other same.1.symm]

theorem Params.get_policy_learn {decision : Decision R} {i : Nat}
    (absent : ∀ candidate ∈ decision.candidates, i ∉ candidate.indices) (config : Config R) (total : R)
    (params : Params R) : (params.learn config decision total).policy.get i = params.policy.get i := by
  unfold learn
  dsimp only
  have unlisted : ∀ entry ∈ (decision.candidates.zip decision.probs).zipIdx, i ∉ entry.1.1.indices := by
    rintro ⟨⟨candidate, p⟩, j⟩ member
    exact absent candidate (List.of_mem_zip (List.fst_mem_of_mem_zipIdx member)).1
  generalize params.policy = weights
  generalize (decision.candidates.zip decision.probs).zipIdx = entries at unlisted
  induction entries generalizing weights with
  | nil => rfl
  | cons entry later ih =>
    obtain ⟨here, unlisted⟩ := List.forall_mem_cons.mp unlisted
    rw [List.foldl_cons, ih _ unlisted, Features.get_addTo_of_not_mem here]

theorem Params.get_value_learn {decision : Decision R} {i : Nat} (absent : i ∉ decision.observation.indices)
    (config : Config R) (total : R) (params : Params R) :
    (params.learn config decision total).value.get i = params.value.get i :=
  Features.get_addTo_of_not_mem absent _ _

theorem Params.update_keeps {α : Type} (read : Params R → α) {config : Config R}
    {decisions : List (Decision R)}
    (keeps : ∀ decision ∈ decisions, ∀ total params, read (params.learn config decision total) = read params)
    (total : R) (params : Params R) : read (params.update config decisions total) = read params := by
  induction decisions generalizing total params with
  | nil => rfl
  | cons decision earlier ih =>
    obtain ⟨here, keeps⟩ := List.forall_mem_cons.mp keeps
    rw [update, ih keeps, here]

end Untouched

/-! ## Returns -/

section Returns

variable {K : Type} [Field K]

def decisionAt {R : Type} (buffer : List (Decision R)) (k : Fin buffer.length) : Decision R := buffer[k.rev]

theorem decisionAt_last {R : Type} (latest : Decision R) (buffer : List (Decision R)) :
    decisionAt (latest :: buffer) (Fin.last buffer.length) = latest := by
  simp [decisionAt]

theorem decisionAt_castSucc {R : Type} (latest : Decision R) {buffer : List (Decision R)}
    (k : Fin buffer.length) : decisionAt (latest :: buffer) k.castSucc = decisionAt buffer k := by
  simp [decisionAt, Fin.rev_castSucc]

def discounted (gamma bootstrap : K) (buffer : List (Decision K)) (k : Fin buffer.length) : K :=
  (∑ l with k ≤ l, gamma ^ (l - k : Nat) * (decisionAt buffer l).reward) +
    gamma ^ (buffer.length - k : Nat) * bootstrap

variable {buffer : List (Decision K)} (latest : Decision K) (gamma bootstrap : K)

theorem discounted_cons (k : Fin (buffer.length + 1)) :
    discounted gamma bootstrap (latest :: buffer) k =
      (∑ l : Fin buffer.length,
          if k ≤ l.castSucc then gamma ^ (l - k : Nat) * (decisionAt buffer l).reward else 0) +
        gamma ^ (buffer.length - k : Nat) * latest.reward +
        gamma ^ (buffer.length + 1 - k : Nat) * bootstrap := by
  have parted : (∑ l : Fin (buffer.length + 1) with k ≤ l,
      gamma ^ (l - k : Nat) * (decisionAt (latest :: buffer) l).reward) = _ :=
    (Finset.sum_filter _ _).trans (Fin.sum_univ_castSucc _)
  refine congrArg (· + _) (parted.trans ?_)
  simp only [decisionAt_castSucc, decisionAt_last, Fin.val_castSucc, Fin.val_last, if_pos (Fin.le_last k)]

theorem discounted_last : discounted gamma bootstrap (latest :: buffer) (Fin.last buffer.length) =
    latest.reward + gamma * bootstrap := by
  have before (l : Fin buffer.length) : ¬Fin.last buffer.length ≤ l.castSucc := by simp
  rw [discounted_cons]
  simp [before]

theorem discounted_castSucc (k : Fin buffer.length) :
    discounted gamma bootstrap (latest :: buffer) k.castSucc =
      discounted gamma (latest.reward + gamma * bootstrap) buffer k := by
  have later : buffer.length + 1 - k = (buffer.length - k) + 1 := Nat.succ_sub k.isLt.le
  rw [discounted_cons, discounted, Finset.sum_filter]
  simp only [Fin.castSucc_le_castSucc_iff, Fin.val_castSucc, later, pow_succ]
  ring

end Returns

/-! ## Exact arithmetic -/

variable {K : Type} [Field K] [LinearOrder K]

/-- What a learner computes with beyond the operations of an ordered field. -/
structure Beyond (K : Type) where
  sqrt : K → K
  exp : K → K
  ln : K → K
  lowest : K
  shown : K → String

def leastNormal : K := (2 ^ 126)⁻¹

theorem leastNormal_pos [IsStrictOrderedRing K] : (0 : K) < leastNormal := inv_pos.mpr (pow_pos two_pos 126)

@[reducible]
def unrounded (beyond : Beyond K) : Scalar K where
  add a b := a + b
  sub a b := a - b
  mul a b := a * b
  div a b := a / b
  neg a := -a
  zero := 0
  one := 1
  ofNat n := n
  fraction word := (word >>> 8).toNat / 2 ^ 24
  sqrt := beyond.sqrt
  exp := beyond.exp
  ln := beyond.ln
  larger := max
  less a b := decide (a < b)
  lowest := beyond.lowest
  leastPositive := leastNormal
  shown := beyond.shown

def Weights.read (weights : Weights K) (i : Nat) : K := weights.entries.getD i 0

def Features.share (features : Features K) (i : Nat) : K :=
  if i ∈ features.indices then features.scale else 0

def Decision.prob (decision : Decision K) (j : Nat) : K := decision.probs.getD j 0

def Decision.uncertainty (ln : K → K) (decision : Decision K) : K :=
  -(decision.probs.map fun p => p * ln p).sum

def Decision.valueGradient (total : K) (decision : Decision K) (i : Nat) : K :=
  (total - decision.value) * decision.observation.share i

def Decision.policyGradient (ln : K → K) (entropyCoef total : K) (decision : Decision K) (i : Nat) : K :=
  ∑ j : Fin decision.candidates.length,
    ((total - decision.value) * ((if j = decision.chosen then 1 else 0) - decision.prob j) -
      entropyCoef * decision.prob j * (ln (decision.prob j) + decision.uncertainty ln)) *
    (decision.candidates.get j).share i

variable (beyond : Beyond K)

/-! ### Adding features to weights -/

theorem read_add {j : Nat} {weights : Weights K} (bound : j < weights.size) (amount : K) (i : Nat) :
    (@Weights.add K (unrounded beyond) j amount weights).read i =
      weights.read i + if i = j then amount else 0 := by
  have added : (@Weights.add K (unrounded beyond) j amount weights).read i =
      if j = i ∧ j < weights.size then weights.read j + amount else weights.read i :=
    @Weights.get_add K (unrounded beyond) j i amount weights
  rw [added]
  by_cases same : i = j
  · simp [same, bound]
  · simp [same, Ne.symm same]

theorem read_foldl_add {indices : List Nat} (distinct : indices.Nodup) {weights : Weights K}
    (below : ∀ j ∈ indices, j < weights.size) (amount : K) (i : Nat) :
    (indices.foldl (fun weights j => @Weights.add K (unrounded beyond) j amount weights) weights).read i =
      weights.read i + if i ∈ indices then amount else 0 := by
  induction indices generalizing weights with
  | nil => simp
  | cons j rest ih =>
    obtain ⟨fresh, distinct⟩ := List.nodup_cons.mp distinct
    obtain ⟨bound, below⟩ := List.forall_mem_cons.mp below
    have within : ∀ k ∈ rest, k < (@Weights.add K (unrounded beyond) j amount weights).size := by
      rwa [@Weights.size_add K (unrounded beyond)]
    rw [List.foldl_cons, ih distinct within, read_add beyond bound]
    by_cases same : i = j
    · simp [same, fresh]
    · simp [same]

theorem read_addTo {features : Features K} {weights : Weights K} (fits : features.Fits weights.size)
    (coefficient : K) (i : Nat) :
    (@Features.addTo K (unrounded beyond) features coefficient weights).read i =
      weights.read i + coefficient * features.share i := by
  have distinct : features.indices.Nodup := fits.increasing.imp Nat.ne_of_lt
  have added := read_foldl_add beyond distinct fits.below (coefficient * features.scale) i
  rw [Features.share, mul_ite, mul_zero]
  exact added

theorem size_addTo {features : Features K} {weights : Weights K} (fits : features.Fits weights.size)
    (coefficient : K) :
    (@Features.addTo K (unrounded beyond) features coefficient weights).size = weights.size :=
  (@Features.addTo?_eq K (unrounded beyond) features weights coefficient fits).2

/-! ### Learning from one decision -/

theorem read_candidates (coefficient : K → Nat → K) {candidates : List (Features K)} {probs : List K}
    (length : probs.length = candidates.length) {weights : Weights K}
    (fits : ∀ candidate ∈ candidates, candidate.Fits weights.size) (first i : Nat) :
    (((candidates.zip probs).zipIdx first).foldl (fun weights ((candidate, p), j) =>
        @Features.addTo K (unrounded beyond) candidate (coefficient p j) weights) weights).read i =
      weights.read i +
        ∑ j : Fin candidates.length,
          coefficient (probs.getD j 0) (first + j) * (candidates.get j).share i := by
  induction candidates generalizing probs weights first with
  | nil => simp
  | cons candidate candidates ih =>
    cases probs with
    | nil => cases length
    | cons p probs =>
      obtain ⟨here, fits⟩ := List.forall_mem_cons.mp fits
      have later : ∀ other ∈ candidates,
          other.Fits (@Features.addTo K (unrounded beyond) candidate (coefficient p first) weights).size := by
        rwa [size_addTo beyond here]
      have goesOn := ih (Nat.succ.inj length) later (first + 1)
      rw [List.zip_cons_cons, List.zipIdx_cons, List.foldl_cons, goesOn, read_addTo beyond here]
      simp [Fin.sum_univ_succ, add_assoc, Nat.add_comm]

theorem entropy_unrounded [IsStrictOrderedRing K] {decision : Decision K}
    (likely : ∀ p ∈ decision.probs, leastNormal ≤ p) :
    @entropy K (unrounded beyond) decision.probs = decision.uncertainty beyond.ln := by
  have positive : decision.probs.filter (fun p => decide (0 < p)) = decision.probs :=
    List.filter_eq_self.mpr fun p member =>
      decide_eq_true (lt_of_lt_of_le leastNormal_pos (likely p member))
  have summed (terms : List K) : @Scalar.sum K (unrounded beyond) terms = terms.sum :=
    List.sum_eq_foldl.symm
  change -@Scalar.sum K (unrounded beyond) ((decision.probs.filter fun p => decide (0 < p)).map
    fun p => p * beyond.ln p) = _
  rw [positive, summed, Decision.uncertainty]

theorem policyCoefficient_unrounded (config : Config K) (advantage uncertainty : K) {p : K}
    (likely : leastNormal ≤ p) (chosen : Bool) :
    @Params.policyCoefficient K (unrounded beyond) config advantage uncertainty p chosen =
      config.learningRate * (advantage * ((if chosen then 1 else 0) - p) -
        config.entropyCoef * p * (beyond.ln p + uncertainty)) := by
  have computed : @Params.policyCoefficient K (unrounded beyond) config advantage uncertainty p chosen =
      config.learningRate * (advantage * ((if chosen then 1 else 0) - p) +
        config.entropyCoef * (-p * (beyond.ln (max p leastNormal) + uncertainty))) := rfl
  rw [computed, max_eq_left likely]
  ring

theorem read_value_learn (config : Config K) {decision : Decision K} {params : Params K} {count : Nat}
    (sized : params.Sized count) (fits : decision.Fits count) (total : K) (i : Nat) :
    (@Params.learn K (unrounded beyond) config decision total params).value.read i =
      params.value.read i + config.learningRate * config.valueCoef * decision.valueGradient total i := by
  have added := read_addTo beyond (sized.value ▸ fits.observation)
    (config.learningRate * config.valueCoef * (total - decision.value)) i
  rw [Decision.valueGradient, ← mul_assoc]
  exact added

theorem read_policy_learn [IsStrictOrderedRing K] (config : Config K) {decision : Decision K}
    {params : Params K} {count : Nat} (sized : params.Sized count) (fits : decision.Fits count)
    (likely : ∀ p ∈ decision.probs, leastNormal ≤ p) (total : K) (i : Nat) :
    (@Params.learn K (unrounded beyond) config decision total params).policy.read i =
      params.policy.read i +
        config.learningRate * decision.policyGradient beyond.ln config.entropyCoef total i := by
  have candidates := read_candidates beyond
    (fun p j => @Params.policyCoefficient K (unrounded beyond) config (total - decision.value)
      (@entropy K (unrounded beyond) decision.probs) p (j == decision.chosen))
    fits.probs (sized.policy ▸ fits.candidates) 0 i
  refine candidates.trans (congrArg _ ?_)
  rw [Decision.policyGradient, Finset.mul_sum]
  refine Finset.sum_congr rfl fun j _ => ?_
  have bound : j < decision.probs.length := by
    rw [fits.probs]
    exact j.isLt
  have listed : decision.probs.getD j 0 ∈ decision.probs := by
    rw [List.getD_eq_getElem?_getD, List.getElem?_eq_getElem bound]
    exact List.getElem_mem bound
  rw [policyCoefficient_unrounded beyond config _ _ (likely _ listed), entropy_unrounded beyond likely, mul_assoc]
  simp [Decision.prob]

/-! ### Learning from all decisions -/

/-- Whatever is read off the weights gains from an update what it gains from each decision with its
discounted return. -/
theorem gain_update (config : Config K) {count : Nat} (read : Params K → K) {gain : Decision K → K → K}
    {buffer : List (Decision K)}
    (gains : ∀ decision ∈ buffer, ∀ total params, params.Sized count →
      read (@Params.learn K (unrounded beyond) config decision total params) = read params + gain decision total)
    (fits : ∀ decision ∈ buffer, decision.Fits count) {params : Params K} (sized : params.Sized count)
    (bootstrap : K) :
    read (@Params.update K (unrounded beyond) config buffer bootstrap params) =
      read params +
        ∑ k, gain (decisionAt buffer k) (discounted config.gamma bootstrap buffer k) := by
  induction buffer generalizing params bootstrap with
  | nil => exact (add_zero _).symm
  | cons latest earlier ih =>
    obtain ⟨gained, gains⟩ := List.forall_mem_cons.mp gains
    obtain ⟨here, fits⟩ := List.forall_mem_cons.mp fits
    -- The latest decision is learned from first, and the earlier ones go on from its return.
    let total := latest.reward + config.gamma * bootstrap
    let learned := @Params.learn K (unrounded beyond) config latest total params
    have stillSized : learned.Sized count :=
      (@Params.learn?_eq K (unrounded beyond) count config latest params sized here total).2
    have parted : (∑ k : Fin (earlier.length + 1), gain (decisionAt (latest :: earlier) k)
          (discounted config.gamma bootstrap (latest :: earlier) k)) =
        (∑ k, gain (decisionAt earlier k) (discounted config.gamma total earlier k)) +
          gain latest total := by
      rw [Fin.sum_univ_castSucc]
      simp only [decisionAt_castSucc, decisionAt_last, discounted_castSucc, discounted_last, total]
    calc read (@Params.update K (unrounded beyond) config earlier total learned)
        = read learned + ∑ k, gain (decisionAt earlier k) (discounted config.gamma total earlier k) :=
          ih gains fits stillSized total
      _ = read params + ((∑ k, gain (decisionAt earlier k) (discounted config.gamma total earlier k)) +
            gain latest total) := by
          rw [gained total params sized, add_assoc, add_comm (gain latest total)]
      _ = _ := congrArg _ parted.symm

/-- An update leaves the weights of features that no decision has, and no decision to learn from. In exact
arithmetic the critic's weights grow by the advantage of each decision over its value, and those of the
actor by the advantage times the gradient of the logarithm of the probability of what was chosen, and by
the gradient of the uncertainty. -/
theorem update_follows_gradient :
    (∀ (R : Type) [Scalar R] (learner : Learner R) (bootstrap : R),
      let after := learner.update bootstrap
      after.buffer = [] ∧
      (∀ i, (∀ decision ∈ learner.buffer, ∀ candidate ∈ decision.candidates, i ∉ candidate.indices) →
        after.params.policy.get i = learner.params.policy.get i) ∧
      ∀ i, (∀ decision ∈ learner.buffer, i ∉ decision.observation.indices) →
        after.params.value.get i = learner.params.value.get i) ∧
    ∀ (K : Type) [Field K] [LinearOrder K] [IsStrictOrderedRing K] (beyond : Beyond K) (learner : Learner K)
      (bootstrap : K) (count : Nat), learner.params.Sized count →
      (∀ decision ∈ learner.buffer, decision.Fits count) →
      (∀ decision ∈ learner.buffer, ∀ p ∈ decision.probs, leastNormal ≤ p) →
      let config := learner.config
      let after := @Learner.update K (unrounded beyond) bootstrap learner
      let step := decisionAt learner.buffer
      let total := discounted config.gamma bootstrap learner.buffer
      ∀ i,
        after.params.value.read i = learner.params.value.read i +
          config.learningRate * config.valueCoef * ∑ k, (step k).valueGradient (total k) i ∧
        after.params.policy.read i = learner.params.policy.read i +
          config.learningRate * ∑ k, (step k).policyGradient beyond.ln config.entropyCoef (total k) i := by
  constructor
  · intro R _ learner bootstrap
    refine ⟨rfl, fun i absent => ?_, fun i absent => ?_⟩
    · exact Params.update_keeps (fun params => params.policy.get i)
        (fun decision member => Params.get_policy_learn (absent decision member) _) bootstrap learner.params
    · exact Params.update_keeps (fun params => params.value.get i)
        (fun decision member => Params.get_value_learn (absent decision member) _) bootstrap learner.params
  · intro K _ _ _ beyond learner bootstrap count sized fits likely config after step total i
    have value := gain_update beyond config (fun params => params.value.read i)
      (fun decision member total _ sized =>
        read_value_learn beyond config sized (fits decision member) total i) fits sized bootstrap
    have policy := gain_update beyond config (fun params => params.policy.read i)
      (fun decision member total _ sized =>
        read_policy_learn beyond config sized (fits decision member) (likely decision member) total i)
      fits sized bootstrap
    rw [Finset.mul_sum, Finset.mul_sum]
    exact ⟨value, policy⟩

theorem two_decisions_learned :
    let beyond : Beyond ℚ := ⟨id, id, fun p => p - 1, 0, fun _ => ""⟩
    let config : Config ℚ := ⟨3, 1 / 2, 1 / 2, 1, 2, 2, 0, 0⟩
    let first : Decision ℚ := ⟨[⟨[0, 1], 1 / 2⟩, ⟨[1], 1⟩], [1 / 2, 1 / 2], 0, ⟨[0, 2], 1⟩, 1, 1⟩
    let second : Decision ℚ := ⟨[⟨[2], 1⟩], [1], 0, ⟨[0], 1⟩, 0, 2⟩
    let learner : Learner ℚ := { @Learner.new ℚ (unrounded beyond) config with buffer := [second, first] }
    let after := @Learner.update ℚ (unrounded beyond) 4 learner
    let single : Learner Float32 :=
      { Learner.new .standard with buffer := [⟨[⟨[0], 1⟩], [1], 0, ⟨[1], 1⟩, 0, 1⟩] }
    after.params.value.read 0 = 6 ∧ after.params.policy.read 1 = -1 / 4 ∧
      (single.update 1).params.policy.get 1 = single.params.policy.get 1 := by
  intro beyond config first second learner after single
  have sized : learner.params.Sized 3 := ⟨rfl, rfl⟩
  have placed {indices : List Nat} (increasing : indices.Pairwise (· < ·)) (below : ∀ i ∈ indices, i < 3)
      (scale : ℚ) : Features.Fits ⟨indices, scale⟩ 3 := ⟨increasing, below⟩
  have fits : ∀ decision ∈ learner.buffer, decision.Fits 3 := by
    simp only [learner, List.forall_mem_cons]
    refine ⟨⟨by decide, rfl, by decide, ?_, placed (by decide) (by decide) 1⟩,
      ⟨by decide, rfl, by decide, ?_, placed (by decide) (by decide) 1⟩, List.forall_mem_nil _⟩
    · exact List.forall_mem_singleton.mpr (placed (by decide) (by decide) 1)
    · exact List.forall_mem_cons.mpr ⟨placed (by decide) (by decide) _,
        List.forall_mem_singleton.mpr (placed (by decide) (by decide) 1)⟩
  have likely : ∀ decision ∈ learner.buffer, ∀ p ∈ decision.probs, leastNormal ≤ p := by
    norm_num [learner, first, second, leastNormal]
  have learned := update_follows_gradient.2 ℚ beyond learner 4 3 sized fits likely
  have untouched := (update_follows_gradient.1 Float32 single 1).2.1 1
  have earlier : discounted (1 / 2) 4 learner.buffer (0 : Fin 2) = 3 := by
    simp [discounted, learner, Fin.sum_univ_two, decisionAt, first, second]
    norm_num
  have later : discounted (1 / 2) 4 learner.buffer (1 : Fin 2) = 4 := by
    simp [discounted, Finset.sum_filter, learner, Fin.sum_univ_two, decisionAt, first, second]
    norm_num
  have value : first.valueGradient 3 0 = 2 ∧ second.valueGradient 4 0 = 4 := by
    constructor
    · norm_num [Decision.valueGradient, Features.share, first]
    · simp [Decision.valueGradient, Features.share, second]
  have policy : first.policyGradient beyond.ln 1 3 1 = -1 / 2 ∧ second.policyGradient beyond.ln 1 4 1 = 0 := by
    constructor
    · simp [Decision.policyGradient, Features.share, Decision.prob, Decision.uncertainty,
        Fin.sum_univ_two, first, beyond]
      norm_num
    · simp [Decision.policyGradient, Features.share, second]
  refine ⟨(learned 0).1.trans ?_, (learned 1).2.trans ?_, untouched (by simp [single])⟩
  · have grown : (∑ k : Fin 2, (decisionAt learner.buffer k).valueGradient
        (discounted (1 / 2) 4 learner.buffer k) 0) = 6 := by
      rw [Fin.sum_univ_two, earlier, later]
      exact (congrArg₂ _ value.1 value.2).trans (by norm_num)
    exact (congrArg (fun total => (0 : ℚ) + 1 / 2 * 2 * total) grown).trans (by norm_num)
  · have grown : (∑ k : Fin 2, (decisionAt learner.buffer k).policyGradient beyond.ln 1
        (discounted (1 / 2) 4 learner.buffer k) 1) = -1 / 2 := by
      rw [Fin.sum_univ_two, earlier, later]
      exact (congrArg₂ _ policy.1 policy.2).trans (by norm_num)
    exact (congrArg (fun total => (0 : ℚ) + 1 / 2 * total) grown).trans (by norm_num)

end TextQuest.Neural
