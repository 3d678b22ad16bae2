import TextQuest.Neural.Single
import TextQuest.Proofs.Agent.Choice
import TextQuest.Proofs.Decimal.Sums

namespace TextQuest.Neural
open Decimal

/-- The first of the largest values above −∞, or the first value of all where none is above it. -/
structure FirstLargest (values : List Float32) (i : Nat) : Prop where
  within : i < values.length
  largest : ∀ value ∈ values, ¬values[i] < value
  first : (∃ value ∈ values, Scalar.lowest < value) →
    Scalar.lowest < values[i] ∧ ∀ value ∈ values.take i, value < values[i] ∨ value.isNaN = true
  nothing : (∀ value ∈ values, ¬Scalar.lowest < value) → i = 0

/-- The best of the values seen so far, with its place. -/
inductive Leads (seen : List Float32) : Nat × Float32 → Prop
  | nothing (low : ∀ value ∈ seen, ¬Scalar.lowest < value) : Leads seen (0, Scalar.lowest)
  | value {before after : List Float32} {best : Float32} (whole : seen = before ++ best :: after)
      (above : Scalar.lowest < best) (first : ∀ value ∈ before, value < best ∨ value.isNaN = true)
      (largest : ∀ value ∈ after, ¬best < value) : Leads seen (before.length, best)

theorem overtaken {best value earlier : Float32} (less : best < value) (low : ¬best < earlier) :
    earlier < value ∨ earlier.isNaN = true := by
  by_cases none : earlier.isNaN = true
  · exact .inr none
  · exact .inl ((Single.lt_or_lt less none).resolve_left low)

theorem Leads.next {seen : List Float32} {best : Nat × Float32} (leads : Leads seen best) (value : Float32) :
    Leads (seen ++ [value]) (if Scalar.less best.2 value then (seen.length, value) else best) := by
  have less_iff (one other : Float32) : Scalar.less one other = true ↔ one < other := decide_eq_true_iff
  simp only [less_iff]
  cases leads with
  | nothing low =>
    split_ifs with less
    · exact .value rfl less (fun earlier member => overtaken less (low earlier member)) nofun
    · exact .nothing (by simpa [or_imp, forall_and] using ⟨low, less⟩)
  | @value before after best whole above first largest =>
    split_ifs with less
    · refine .value rfl (Single.lt_trans above less) ?_ nofun
      intro earlier member
      rw [whole, List.mem_append, List.mem_cons] at member
      rcases member with member | rfl | member
      · exact (first earlier member).imp_left (Single.lt_trans · less)
      · exact .inl less
      · exact overtaken less (largest earlier member)
    · refine .value (by rw [whole, List.append_assoc, List.cons_append]) above first ?_
      simpa [or_imp, forall_and] using ⟨largest, less⟩

theorem argmaxFrom_leads {seen rest : List Float32} {best : Nat × Float32} (leads : Leads seen best) :
    ∃ final, Leads (seen ++ rest) final ∧ argmaxFrom best seen.length rest = final.1 := by
  induction rest generalizing seen best with
  | nil => exact ⟨best, by simpa using leads, rfl⟩
  | cons value rest ih =>
    obtain ⟨final, leading, found⟩ := ih (leads.next value)
    rw [List.length_append, List.length_singleton] at found
    exact ⟨final, by simpa using leading, found⟩

theorem firstLargest_argmax {values : List Float32} (nonempty : values ≠ []) :
    FirstLargest values (argmax values) := by
  have start : Leads [] (0, Scalar.lowest) := .nothing nofun
  obtain ⟨final, leads, found⟩ : ∃ final, Leads ([] ++ values) final ∧ argmax values = final.1 :=
    argmaxFrom_leads start
  rw [List.nil_append] at leads
  rw [found]
  cases leads with
  | nothing low =>
    refine ⟨List.length_pos_iff.mpr nonempty, fun value member less => ?_, fun some => ?_, fun _ => rfl⟩
    · exact low value member (Single.lowest_lt_of_lt less)
    · obtain ⟨value, member, above⟩ := some
      exact absurd above (low value member)
  | @value before after best whole above first largest =>
    subst whole
    refine ⟨by simp, fun value member less => ?_, fun _ => ⟨by simpa using above, ?_⟩, fun low => ?_⟩
    · have less : best < value := by simpa using less
      rcases List.mem_append.mp member with early | late
      · rcases first value early with below | none
        · exact Single.lt_irrefl _ (Single.lt_trans less below)
        · exact Single.not_isNaN_of_lt less none
      · rcases List.mem_cons.mp late with rfl | late
        · exact Single.lt_irrefl _ less
        · exact largest value late less
    · simpa using first
    · exact absurd above (low best (by simp))

structure Likeliest (probs : List Float32) (i : Nat) : Prop where
  within : i < probs.length
  greatest : ∀ p ∈ probs, ¬probs[i] < p
  first : (∃ p ∈ probs, p.isNaN ≠ true) →
    probs[i].isNaN ≠ true ∧ ∀ p ∈ probs.take i, p < probs[i] ∨ p.isNaN = true
  nothing : (∀ p ∈ probs, p.isNaN = true) → i = 0

theorem numbers_of_low_probs {scores : List Float32} (low : ∀ p ∈ softmax scores, ¬Scalar.lowest < p)
    (some : ∃ p ∈ softmax scores, p.isNaN ≠ true) : ∀ p ∈ softmax scores, p.isNaN ≠ true := by
  let weights := scores.map fun score => Scalar.exp (score - scores.foldl Scalar.larger Scalar.lowest)
  have shares : softmax scores = weights.map (· / Scalar.sum weights) := rfl
  rw [shares] at low some ⊢
  obtain ⟨p, member, number⟩ := some
  obtain ⟨weight, given, rfl⟩ := List.mem_map.mp member
  intro p member
  obtain ⟨other, among, rfl⟩ := List.mem_map.mp member
  exact number_of_low_shares rfl (fun term of => low _ (List.mem_map_of_mem of)) given among number

theorem likeliest_argmax_softmax {scores : List Float32} (nonempty : scores ≠ []) :
    Likeliest (softmax scores) (argmax (softmax scores)) := by
  have offered : softmax scores ≠ [] := by simpa [softmax] using nonempty
  obtain ⟨within, greatest, first, nothing⟩ := firstLargest_argmax offered
  refine ⟨within, greatest, fun some => ?_, fun none => ?_⟩
  · by_cases above : ∃ p ∈ softmax scores, Scalar.lowest < p
    · obtain ⟨large, before⟩ := first above
      exact ⟨(Single.lowest_lt_iff.mp large).1, before⟩
    · have low : ∀ p ∈ softmax scores, ¬Scalar.lowest < p := fun p member less => above ⟨p, member, less⟩
      refine ⟨numbers_of_low_probs low some _ (List.getElem_mem within), ?_⟩
      simp [nothing low]
  · exact nothing fun p member less => (Single.lowest_lt_iff.mp less).1 (none p member)

theorem Learner.decide_greedy {learner : Learner Float32} (evaluating : learner.training = false)
    {now : Observation} (offered : now.state.admissibleCommands ≠ []) :
    let probs := learner.probabilities (learner.candidates now.state)
    ∃ bound : argmax probs < now.state.admissibleCommands.length,
      (Agent.neural.decide now learner).result = .ok now.state.admissibleCommands[argmax probs] := by
  intro probs
  have chosen : (learner.choose now.state (Agent.amount now.reward)).1 = argmax probs := by
    rw [learner.choose_fst, learner.sample_fst, evaluating]
    rfl
  have bound := learner.choose_lt (Agent.amount now.reward) offered
  rw [chosen] at bound
  refine ⟨bound, ?_⟩
  obtain ⟨first, rest, commands⟩ := List.exists_cons_of_ne_nil offered
  have result : (Agent.neural.decide now learner).result =
      .ok ((first :: rest).getD (learner.choose now.state (Agent.amount now.reward)).1 first) := by
    simp only [Agent.neural, commands]
  rw [result, chosen, ← commands, List.getD_eq_getElem _ _ bound]

/-- The search finds the first of the largest values, and a learner outside training takes the first of the most
likely commands. -/
theorem greedy_choice_is_first_largest :
    (∀ values : List Float32, values ≠ [] → FirstLargest values (argmax values)) ∧
    ∀ (learner : Learner Float32) (now : Observation), learner.training = false →
      now.state.admissibleCommands ≠ [] →
      let probs := learner.probabilities (learner.candidates now.state)
      probs.length = now.state.admissibleCommands.length ∧
      ∃ i, ∃ bound : i < now.state.admissibleCommands.length, Likeliest probs i ∧
        (Agent.neural.decide now learner).result = .ok now.state.admissibleCommands[i] := by
  refine ⟨fun values nonempty => firstLargest_argmax nonempty, fun learner now evaluating offered => ?_⟩
  obtain ⟨bound, chosen⟩ := Learner.decide_greedy evaluating offered
  refine ⟨by simp [Learner.probabilities, Learner.candidates, length_softmax], _, bound, ?_, chosen⟩
  exact likeliest_argmax_softmax (by simpa [Learner.candidates] using offered)

theorem first_of_equals_chosen :
    let unknown := Float32.ofBits 0x7fc00000
    let values := [unknown, Scalar.lowest, 1, 2, unknown, 2]
    let learner : Learner Float32 := .new { Config.standard with featureDim := 1 }
    let hall : Observation := { state := { description := "A hall.", admissibleCommands := ["go", "Go!"] } }
    values ≠ [] ∧ FirstLargest values (argmax values) ∧ argmax values = 3 ∧
      learner.training = false ∧ hall.state.admissibleCommands ≠ [] ∧
      (Agent.neural.decide hall learner).result = .ok "go" := by
  intro unknown values learner hall
  obtain ⟨search, choice⟩ := greedy_choice_is_first_largest
  have nonempty : values ≠ [] := List.cons_ne_nil _ _
  have offered : hall.state.admissibleCommands ≠ [] := List.cons_ne_nil _ _
  refine ⟨nonempty, search values nonempty, by decide +kernel, rfl, offered, ?_⟩
  obtain ⟨-, i, bound, likeliest, chosen⟩ := choice learner hall rfl offered
  obtain ⟨p, probs⟩ : ∃ p, learner.probabilities (learner.candidates hall.state) = [p, p] := by
    let seen := observationWords hall.state
    have words : tokens "Go!" = tokens "go" := by decide +kernel
    have both : learner.candidates hall.state = [commandFeatures 1 seen "go", commandFeatures 1 seen "Go!"] := rfl
    rw [both, commandFeatures, commandFeatures, commandWords, commandWords, words]
    exact ⟨_, rfl⟩
  rw [probs] at likeliest
  obtain rfl : i = 0 := by
    by_cases number : p.isNaN = true
    · exact likeliest.nothing (by simpa using number)
    · by_contra later
      obtain rfl : i = 1 := le_antisymm (Nat.le_of_lt_succ bound) (Nat.pos_of_ne_zero later)
      have before := (likeliest.first ⟨p, by simp, number⟩).2 p (by simp)
      exact before.elim (Single.lt_irrefl p) number
  exact chosen

end TextQuest.Neural
