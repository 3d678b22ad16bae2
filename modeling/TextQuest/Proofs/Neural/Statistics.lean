import TextQuest.Neural.Single
import TextQuest.Proofs.Neural.Safety

/-!
Running statistics. Every decision of training enters one sample, and a window of samples is logged and
begun anew whenever it is full. What a sample holds of rewards is the reward of the call that made it, so the
reward that ends an episode enters none.
-/
namespace TextQuest.Neural

structure Sample (R : Type) where
  reward : Reward
  value : R
  entropy : R

/-- Samples in windows of a size, and those of a window that is not full. Windows of no size are never
full. -/
structure Windows {α : Type} (size : Nat) (samples : List α) (windows : List (List α)) (rest : List α) :
    Prop where
  whole : samples = windows.flatten ++ rest
  full : ∀ window ∈ windows, window.length = size
  within : 0 < size → rest.length < size
  never : size = 0 → windows = []

namespace Windows

variable {α : Type} {size : Nat} {samples rest : List α} {windows : List (List α)}

theorem nil (size : Nat) : Windows size ([] : List α) [] [] where
  whole := rfl
  full := nofun
  within positive := positive
  never _ := rfl

theorem length_eq (cut : Windows size samples windows rest) :
    samples.length = windows.length * size + rest.length := by
  have lengths : windows.map List.length = List.replicate windows.length size :=
    List.map_eq_replicate_iff.mpr cut.full
  rw [cut.whole, List.length_append, List.length_flatten, lengths, List.sum_replicate_nat]

theorem extend (cut : Windows size samples windows rest) (sample : α)
    (fewer : 0 < size → rest.length + 1 < size) :
    Windows size (samples ++ [sample]) windows (rest ++ [sample]) where
  whole := by rw [cut.whole, List.append_assoc]
  full := cut.full
  within := by simpa using fewer
  never := cut.never

theorem complete (cut : Windows size samples windows rest) (sample : α) (positive : 0 < size)
    (enough : size ≤ rest.length + 1) :
    Windows size (samples ++ [sample]) (windows ++ [rest ++ [sample]]) [] where
  whole := by simp [cut.whole]
  full := by
    have within := cut.within positive
    intro window member
    rcases List.mem_append.mp member with earlier | latest
    · exact cut.full window earlier
    · rw [List.mem_singleton.mp latest, List.length_append, List.length_singleton]
      omega
  within positive := positive
  never none := absurd none (Nat.ne_of_gt positive)

end Windows

section Counting

variable {R : Type} [Scalar R]

def Stats.of (samples : List (Sample R)) : Stats R where
  steps := samples.length
  reward := Scalar.sum (samples.map (Agent.amount ·.reward))
  value := Scalar.sum (samples.map (·.value))
  entropy := Scalar.sum (samples.map (·.entropy))

def Averages.of (count : Nat) (window : List (Sample R)) : Averages R :=
  let stats := Stats.of window
  let n := Scalar.ofNat stats.steps
  ⟨count, stats.reward / n, stats.value / n, stats.entropy / n⟩

theorem Stats.of_append (samples : List (Sample R)) (sample : Sample R) :
    Stats.of (samples ++ [sample]) =
      ⟨(Stats.of samples).steps + 1, (Stats.of samples).reward + Agent.amount sample.reward,
        (Stats.of samples).value + sample.value, (Stats.of samples).entropy + sample.entropy⟩ := by
  simp [Stats.of, Scalar.sum, List.foldl_append]

def windowNotes (size : Nat) (windows : List (List (Sample R))) : List Note :=
  windows.zipIdx.map fun (window, k) => Agent.averagesNote (.of ((k + 1) * size) window)

theorem windowNotes_append (size : Nat) (windows : List (List (Sample R))) (window : List (Sample R)) :
    windowNotes size (windows ++ [window]) =
      windowNotes size windows ++ [Agent.averagesNote (.of ((windows.length + 1) * size) window)] := by
  simp [windowNotes, List.zipIdx_append]

namespace Learner

variable {learner : Learner R} {now : Observation}

def sampleOf (learner : Learner R) (now : Observation) : Sample R where
  reward := now.reward
  value := learner.valueOf now.state
  entropy := entropy (learner.probabilities (learner.candidates now.state))

structure Accounts (learner : Learner R) (samples : List (Sample R)) (notes : List Note)
    (windows : List (List (Sample R))) (rest : List (Sample R)) : Prop where
  cut : Windows learner.config.logFrequency samples windows rest
  notes : notes = windowNotes learner.config.logFrequency windows
  stats : learner.stats = .of rest
  decisions : learner.decisions = samples.length

structure Level (one other : Learner R) : Prop where
  config : other.config = one.config
  stats : other.stats = one.stats
  decisions : other.decisions = one.decisions

omit [Scalar R] in
theorem Level.trans {one other third : Learner R} (first : one.Level other) (second : other.Level third) :
    one.Level third :=
  ⟨second.config.trans first.config, second.stats.trans first.stats,
    second.decisions.trans first.decisions⟩

theorem level_sample (learner : Learner R) (probs : List R) : learner.Level (learner.sample probs).2 := by
  unfold sample
  split <;> exact ⟨rfl, rfl, rfl⟩

theorem exists_remember_eq (learner : Learner R) (decision : Decision R) (amount : R) :
    ∃ before, learner.Level before ∧
      learner.remember decision amount =
        let counted := before.count amount decision.value (entropy decision.probs)
        ({ counted.1 with buffer := decision :: counted.1.buffer }, counted.2) := by
  unfold remember
  dsimp only
  split
  · exact ⟨(learner.reward amount).update decision.value, ⟨rfl, rfl, rfl⟩, rfl⟩
  · exact ⟨learner.reward amount, ⟨rfl, rfl, rfl⟩, rfl⟩

namespace Accounts

variable {samples rest : List (Sample R)} {notes : List Note} {windows : List (List (Sample R))}

theorem level {other : Learner R} (accounts : learner.Accounts samples notes windows rest)
    (level : learner.Level other) : other.Accounts samples notes windows rest := by
  obtain ⟨cut, notes, stats, decisions⟩ := accounts
  rw [← level.config] at cut notes
  exact ⟨cut, notes, level.stats.trans stats, level.decisions.trans decisions⟩

theorem count (accounts : learner.Accounts samples notes windows rest) (sample : Sample R) :
    let counted := learner.count (Agent.amount sample.reward) sample.value sample.entropy
    ∃ windows rest, counted.1.Accounts (samples ++ [sample])
      (notes ++ counted.2.toList.map Agent.averagesNote) windows rest := by
  obtain ⟨cut, rfl, stats, decisions⟩ := accounts
  have counted : learner.decisions + 1 = (samples ++ [sample]).length := by simp [decisions]
  unfold Learner.count
  simp only [stats, ← Stats.of_append]
  split
  next full =>
    obtain ⟨positive, enough⟩ := full
    have cut := cut.complete sample positive (by simpa [Stats.of] using enough)
    have last : learner.decisions + 1 = (windows.length + 1) * learner.config.logFrequency := by
      rw [counted, cut.length_eq, List.length_append, List.length_singleton, List.length_nil, Nat.add_zero]
    refine ⟨_, _, cut, ?_, rfl, counted⟩
    rw [windowNotes_append, ← last]
    simp [Averages.of, Stats.of_append]
  next short =>
    refine ⟨_, _, cut.extend sample ?_, by simp, rfl, counted⟩
    intro positive
    simpa [positive, Stats.of] using short

theorem decide (accounts : learner.Accounts samples notes windows rest) (training : learner.training = true)
    (offered : now.state.admissibleCommands ≠ []) :
    ∃ windows rest, (Agent.neural.decide now learner).agent.Accounts (samples ++ [learner.sampleOf now])
      (notes ++ (Agent.neural.decide now learner).notes) windows rest := by
  obtain ⟨first, others, commands⟩ := List.exists_cons_of_ne_nil offered
  have decided : (Agent.neural.decide now learner).agent =
        (learner.choose now.state (Agent.amount now.reward)).2.1 ∧
      (Agent.neural.decide now learner).notes =
        (learner.choose now.state (Agent.amount now.reward)).2.2.toList.map Agent.averagesNote := by
    simp only [Agent.neural, commands, and_self]
  let sampled := learner.sample (learner.probabilities (learner.candidates now.state))
  have chosen : (learner.choose now.state (Agent.amount now.reward)).2 =
      sampled.2.remember (learner.decision now.state) (Agent.amount now.reward) := by
    obtain ⟨-, -, trains, -⟩ :=
      learner.sample_keeps (learner.probabilities (learner.candidates now.state))
    unfold choose
    dsimp only
    rw [if_pos (trains.trans training)]
    rfl
  obtain ⟨before, level, remembers⟩ :=
    exists_remember_eq sampled.2 (learner.decision now.state) (Agent.amount now.reward)
  have accounts := accounts.level ((learner.level_sample _).trans level)
  obtain ⟨windows, rest, counted⟩ := accounts.count (learner.sampleOf now)
  rw [decided.1, decided.2, chosen, remembers]
  exact ⟨windows, rest, counted.level ⟨rfl, rfl, rfl⟩⟩

end Accounts
end Learner
end Counting

section Operating

variable [Scalar Float32]

namespace Learner

def entered (learner : Learner Float32) : Operation → List (Sample Float32)
  | .decide now =>
    if learner.training = true ∧ now.state.admissibleCommands ≠ [] then [learner.sampleOf now] else []
  | _ => []

def noted (learner : Learner Float32) : Operation → List Note
  | .decide now => (Agent.neural.decide now learner).notes
  | .finish last => (Agent.neural.finish last learner).notes
  | _ => []

def samples : Learner Float32 → List Operation → List (Sample Float32)
  | _, [] => []
  | learner, operation :: later => learner.entered operation ++ samples (learner.operate operation) later

def log : Learner Float32 → List Operation → List Note
  | _, [] => []
  | learner, operation :: later => learner.noted operation ++ log (learner.operate operation) later

theorem samples_append (learner : Learner Float32) (first second : List Operation) :
    learner.samples (first ++ second) =
      learner.samples first ++ (first.foldl operate learner).samples second := by
  induction first generalizing learner with
  | nil => rfl
  | cons operation later ih => simp only [List.cons_append, samples, ih, List.append_assoc, List.foldl_cons]

theorem decide_uncounted {learner : Learner Float32} {now : Observation}
    (uncounted : ¬ (learner.training = true ∧ now.state.admissibleCommands ≠ [])) :
    ∃ result, Agent.neural.decide now learner = ⟨result, learner, []⟩ := by
  cases commands : now.state.admissibleCommands with
  | nil => exact ⟨_, decide_of_none commands⟩
  | cons first rest =>
    have evaluating : learner.training = false := by simpa [commands] using uncounted
    simp [Agent.neural, commands, choose, sample, evaluating]

omit [Scalar Float32] in
theorem level_load {learner loaded : Learner Float32} {tree : FileTree} {path : String}
    (loads : learner.load tree path = .ok loaded) : learner.Level loaded := by
  unfold load at loads
  split at loads
  · cases loads
  · unfold restore at loads
    split at loads
    · cases loads
    · dsimp only at loads
      split at loads
      · cases loads
        exact ⟨rfl, rfl, rfl⟩
      · cases loads

namespace Accounts

variable {learner : Learner Float32} {samples rest : List (Sample Float32)} {notes : List Note}
  {windows : List (List (Sample Float32))}

theorem operate (accounts : learner.Accounts samples notes windows rest) (operation : Operation) :
    ∃ windows rest, (learner.operate operation).Accounts (samples ++ learner.entered operation)
      (notes ++ learner.noted operation) windows rest := by
  have unmoved {after : Learner Float32} (level : learner.Level after) :
      ∃ windows rest, after.Accounts (samples ++ []) (notes ++ []) windows rest := by
    rw [List.append_nil, List.append_nil]
    exact ⟨windows, rest, accounts.level level⟩
  cases operation with
  | setTraining on => exact unmoved ⟨rfl, rfl, rfl⟩
  | decide now =>
    by_cases counts : learner.training = true ∧ now.state.admissibleCommands ≠ []
    · simp only [entered, if_pos counts]
      exact accounts.decide counts.1 counts.2
    · obtain ⟨result, same⟩ := decide_uncounted counts
      simp only [Learner.operate, entered, noted, if_neg counts, same]
      exact unmoved ⟨rfl, rfl, rfl⟩
  | finish last =>
    cases training : learner.training with
    | false =>
      simp only [Learner.operate, finish_evaluating training]
      exact unmoved ⟨rfl, rfl, rfl⟩
    | true =>
      simp only [Learner.operate, finish_training training]
      exact unmoved ⟨rfl, rfl, rfl⟩
  | load tree path =>
    simp only [Learner.operate, entered, noted]
    cases loads : learner.load tree path with
    | error _ => exact unmoved ⟨rfl, rfl, rfl⟩
    | ok loaded => exact unmoved (level_load loads)

/-- What operations enter and log adds to what was entered and logged before them. -/
theorem operated (accounts : learner.Accounts samples notes windows rest) (operations : List Operation) :
    ∃ windows rest, (operations.foldl Learner.operate learner).Accounts
      (samples ++ learner.samples operations) (notes ++ learner.log operations) windows rest := by
  induction operations generalizing learner samples notes windows rest with
  | nil =>
    rw [Learner.samples, log, List.append_nil, List.append_nil]
    exact ⟨windows, rest, accounts⟩
  | cons operation later ih =>
    obtain ⟨windows, rest, accounts⟩ := accounts.operate operation
    rw [Learner.samples, log, ← List.append_assoc, ← List.append_assoc]
    exact ih accounts

theorem new (config : Config Float32) : (Learner.new config).Accounts [] [] [] [] where
  cut := .nil _
  notes := rfl
  stats := rfl
  decisions := rfl

end Accounts
end Learner
end Operating

structure Course where
  start : GameState
  observed : List Observation

namespace Course

def last (course : Course) : Observation := course.observed.getLastD { state := course.start }

def choices (course : Course) : List Observation := ({ state := course.start } :: course.observed).dropLast

def operations (course : Course) : List Operation := course.choices.map .decide ++ [.finish course.last]

def Offers (course : Course) : Prop := ∀ now ∈ course.choices, now.state.admissibleCommands ≠ []

def rewards (course : Course) : List Reward := course.observed.map (·.reward)

theorem choices_last (course : Course) :
    course.choices ++ [course.last] = { state := course.start } :: course.observed := by
  unfold choices last
  rw [← List.getLast_eq_getLastD (List.cons_ne_nil _ _), List.dropLast_concat_getLast]

end Course

def totalReward : List Reward → Int
  | [] => 0
  | reward :: later => reward.value + totalReward later

theorem totalReward_cons (reward : Reward) (rewards : List Reward) :
    totalReward (reward :: rewards) = reward.value + totalReward rewards := rfl

theorem totalReward_append (first second : List Reward) :
    totalReward (first ++ second) = totalReward first + totalReward second := by
  induction first with
  | nil => simp [totalReward]
  | cons reward later ih => rw [List.cons_append, totalReward_cons, totalReward_cons, ih, Int.add_assoc]

theorem Course.totalReward_choices (course : Course) :
    totalReward (course.choices.map (·.reward)) + course.last.reward.value = totalReward course.rewards := by
  have shown := congrArg (fun shown : List Observation => totalReward (shown.map (·.reward))) course.choices_last
  simpa [totalReward_append, totalReward, Course.rewards, Reward.value] using shown

theorem totalReward_courses (courses : List Course) :
    totalReward (courses.flatMap fun course => course.choices.map (·.reward)) +
        totalReward (courses.map (·.last.reward)) = totalReward (courses.flatMap Course.rewards) := by
  induction courses with
  | nil => rfl
  | cons course later ih =>
    have first := course.totalReward_choices
    simp only [List.flatMap_cons, List.map_cons, totalReward_append, totalReward_cons]
    omega

section Courses

variable [Scalar Float32]

namespace Learner

theorem rewards_samples {learner : Learner Float32} (training : learner.training = true)
    {seen : List Observation} (offered : ∀ now ∈ seen, now.state.admissibleCommands ≠ []) :
    (learner.samples (seen.map .decide)).map (·.reward) = seen.map (·.reward) ∧
      ((seen.map .decide).foldl operate learner).training = true := by
  induction seen generalizing learner with
  | nil => exact ⟨rfl, training⟩
  | cons now later ih =>
    obtain ⟨offers, offered⟩ := List.forall_mem_cons.mp offered
    have remembers : learner.Remembers _ _ _ := decide_remembers training offers
    obtain ⟨rewards, trains⟩ := ih (remembers.training.trans training) offered
    refine ⟨?_, trains⟩
    simp only [List.map_cons, samples, entered, training, offers, ne_eq, not_false_eq_true, and_self, if_true]
    exact congrArg _ rewards

theorem rewards_course {learner : Learner Float32} (training : learner.training = true) {course : Course}
    (offers : course.Offers) :
    (learner.samples course.operations).map (·.reward) = course.choices.map (·.reward) ∧
      (course.operations.foldl operate learner).training = true := by
  obtain ⟨rewards, trains⟩ := rewards_samples training offers
  simp only [Course.operations, samples_append, List.foldl_append, List.foldl_cons, List.foldl_nil]
  constructor
  · simpa [samples, entered] using rewards
  · simpa only [operate, finish_training trains] using trains

theorem rewards_courses {learner : Learner Float32} (training : learner.training = true)
    {courses : List Course} (offers : ∀ course ∈ courses, course.Offers) :
    (learner.samples (courses.flatMap Course.operations)).map (·.reward) =
      courses.flatMap fun course => course.choices.map (·.reward) := by
  induction courses generalizing learner with
  | nil => rfl
  | cons course later ih =>
    obtain ⟨first, offers⟩ := List.forall_mem_cons.mp offers
    obtain ⟨rewards, trains⟩ := rewards_course training first
    rw [List.flatMap_cons, List.flatMap_cons, samples_append, List.map_append, rewards, ih trains offers]

end Learner

theorem statistics_leave_out_last_rewards (config : Config Float32) (courses : List Course)
    (offers : ∀ course ∈ courses, course.Offers) :
    let operations := .setTraining true :: courses.flatMap Course.operations
    let learner := operations.foldl Learner.operate (.new config)
    let entered := (Learner.new config).samples operations
    (∃ windows rest, learner.Accounts entered ((Learner.new config).log operations) windows rest) ∧
      entered.map (·.reward) = courses.flatMap (fun course => course.choices.map (·.reward)) ∧
      totalReward (entered.map (·.reward)) + totalReward (courses.map (·.last.reward)) =
        totalReward (courses.flatMap Course.rewards) := by
  intro operations learner entered
  have accounts := (Learner.Accounts.new config).operated operations
  have rewards : entered.map (·.reward) = courses.flatMap (fun course => course.choices.map (·.reward)) :=
    have training : ((Learner.new config).setTraining true).training = true := rfl
    Learner.rewards_courses training offers
  refine ⟨by simpa using accounts, rewards, ?_⟩
  rw [rewards]
  exact totalReward_courses courses

end Courses

theorem quiet_ending_is_in_statistics :
    let hall : Observation := { state := { admissibleCommands := ["go", "wait"] }, reward := .positive }
    let courses : List Course :=
      [{ start := hall.state, observed := [hall, { hall with done := true }] }, { start := {}, observed := [] }]
    let config := { Config.standard with logFrequency := 1 }
    let operations := .setTraining true :: courses.flatMap Course.operations
    let learner := operations.foldl Learner.operate (.new config)
    let entered := (Learner.new config).samples operations
    (∀ course ∈ courses, course.Offers) ∧
    (∃ windows rest, learner.Accounts entered ((Learner.new config).log operations) windows rest) ∧
      entered.map (·.reward) = courses.flatMap (fun course => course.choices.map (·.reward)) ∧
      totalReward (entered.map (·.reward)) + totalReward (courses.map (·.last.reward)) =
        totalReward (courses.flatMap Course.rewards) := by
  intro hall courses config operations learner entered
  have offers : ∀ course ∈ courses, course.Offers := by
    simp [courses, Course.Offers, Course.choices, hall]
  exact ⟨offers, statistics_leave_out_last_rewards config courses offers⟩

theorem winning_reward_missing_from_statistics :
    let course : Course :=
      { start := { admissibleCommands := ["go"] },
        observed := [{ state := { won := true }, reward := .positive, done := true }] }
    let operations := .setTraining true :: course.operations
    let learner := operations.foldl Learner.operate (.new Config.standard)
    course.Offers ∧ (Learner.new Config.standard).log operations = [] ∧
      learner.stats.steps = 1 ∧ learner.stats.reward.toBits = 0 ∧
      totalReward (((Learner.new Config.standard).samples operations).map (·.reward)) ≠
        totalReward course.rewards := by
  intro course operations learner
  refine ⟨by simp [course, Course.Offers, Course.choices], ?_, ?_, ?_, ?_⟩ <;> decide +kernel

end TextQuest.Neural
