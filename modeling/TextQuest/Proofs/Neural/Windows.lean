import TextQuest.Proofs.Neural.Statistics

namespace TextQuest.Neural

namespace Windows

variable {α : Type} {size : Nat} {samples rest : List α} {windows : List (List α)}

theorem length_windows (cut : Windows size samples windows rest) : windows.length = samples.length / size := by
  rcases Nat.eq_zero_or_pos size with none | positive
  · rw [cut.never none, none, Nat.div_zero, List.length_nil]
  · have within := cut.within positive
    rw [cut.length_eq, Nat.mul_comm, Nat.mul_add_div positive, Nat.div_eq_of_lt within, Nat.add_zero]

theorem take_drop_flatten (rest : List α) (full : ∀ window ∈ windows, window.length = size) {k : Nat}
    (bound : k < windows.length) : ((windows.flatten ++ rest).drop (k * size)).take size = windows[k] := by
  induction windows generalizing k with
  | nil => cases bound
  | cons window windows ih =>
    obtain ⟨rfl, full⟩ := List.forall_mem_cons.mp full
    cases k with
    | zero => simp
    | succ k =>
      have later := ih full (Nat.lt_of_succ_lt_succ bound)
      rwa [Nat.succ_mul, Nat.add_comm, List.flatten_cons, List.append_assoc, List.drop_length_add_append]

theorem window_eq (cut : Windows size samples windows rest) {k : Nat} (bound : k < windows.length) :
    windows[k] = (samples.drop (k * size)).take size := by
  rw [cut.whole, take_drop_flatten rest cut.full bound]

end Windows

section Logging

variable [Scalar Float32]

namespace Learner

def succeeds (learner : Learner Float32) : Operation → Bool
  | .decide now => learner.training && (Agent.neural.decide now learner).result.isOk
  | _ => false

def successes : Learner Float32 → List Operation → Nat
  | _, [] => 0
  | learner, operation :: later =>
    (learner.succeeds operation).toNat + successes (learner.operate operation) later

theorem length_entered (learner : Learner Float32) (operation : Operation) :
    (learner.entered operation).length = (learner.succeeds operation).toNat := by
  cases operation with
  | decide now =>
    by_cases offered : now.state.admissibleCommands = []
    · simp [entered, succeeds, offered, decide_of_none offered, Except.isOk, Except.toBool]
    · obtain ⟨command, -, chosen⟩ := learner.choosesOffered.takes now offered
      cases training : learner.training <;>
        simp [entered, succeeds, offered, training, chosen, Except.isOk, Except.toBool]
  | setTraining | finish | load => rfl

theorem length_samples (learner : Learner Float32) (operations : List Operation) :
    (learner.samples operations).length = learner.successes operations := by
  induction operations generalizing learner with
  | nil => rfl
  | cons operation later ih => rw [samples, successes, List.length_append, length_entered, ih]

theorem config_operate (learner : Learner Float32) (operation : Operation) :
    (learner.operate operation).config = learner.config := by
  cases operation with
  | setTraining on => rfl
  | decide now =>
    by_cases counts : learner.training = true ∧ now.state.admissibleCommands ≠ []
    · have remembers : learner.Remembers _ _ _ := decide_remembers counts.1 counts.2
      exact remembers.config
    · obtain ⟨result, same⟩ := decide_uncounted counts
      rw [operate, same]
  | finish last =>
    cases training : learner.training with
    | false => rw [operate, finish_evaluating training]
    | true => rw [operate, finish_training training]
  | load tree path =>
    cases loads : learner.load tree path with
    | error _ => simp [operate, loads, Except.toOption]
    | ok loaded => simpa [operate, loads, Except.toOption] using (level_load loads).config

theorem config_operated (learner : Learner Float32) (operations : List Operation) :
    (operations.foldl operate learner).config = learner.config := by
  induction operations generalizing learner with
  | nil => rfl
  | cons operation later ih => exact (ih _).trans (learner.config_operate operation)

end Learner

/-- Every full window of successful decisions of training has its averages logged, and what is left of a window
has nothing logged. -/
theorem full_windows_logged (config : Config Float32) (operations : List Operation) :
    let size := config.logFrequency
    let entered := (Learner.new config).samples operations
    let log := (Learner.new config).log operations
    entered.length = (Learner.new config).successes operations ∧
      log.length = entered.length / size ∧
      (∀ k (bound : k < log.length),
        ((entered.drop (k * size)).take size).length = size ∧
          log[k] = Agent.averagesNote (.of ((k + 1) * size) ((entered.drop (k * size)).take size))) ∧
      (size = 0 → log = []) := by
  intro size entered log
  obtain ⟨windows, rest, cut, logged, -, -⟩ := (Learner.Accounts.new config).operated operations
  have settings : (operations.foldl Learner.operate (.new config)).config.logFrequency = size :=
    congrArg Config.logFrequency ((Learner.new config).config_operated operations)
  rw [List.nil_append, settings] at cut logged
  have notes : log = windowNotes size windows := logged
  have count : log.length = windows.length := by simp [notes, windowNotes]
  refine ⟨Learner.length_samples _ _, count.trans cut.length_windows, fun k bound => ?_, fun none => ?_⟩
  · have among : k < windows.length := count ▸ bound
    have window : windows[k] = (entered.drop (k * size)).take size := cut.window_eq among
    rw [← window]
    refine ⟨cut.full _ (List.getElem_mem among), ?_⟩
    simp [notes, windowNotes]
  · rw [notes, cut.never none]
    rfl

end Logging

theorem windows_of_two_logged :
    let config := { Config.standard with featureDim := 1, logFrequency := 2 }
    let hall : Observation := { state := { description := "A hall.", admissibleCommands := ["go", "wait"] } }
    let ending : Observation := { state := { won := true }, reward := .positive, done := true }
    let operations : List Operation :=
      [.decide hall, .setTraining true, .decide hall, .decide ending, .finish ending, .setTraining false,
        .decide hall, .setTraining true, .decide hall, .decide { hall with reward := .negative }]
    let entered := (Learner.new config).samples operations
    let log := (Learner.new config).log operations
    config.logFrequency ≠ 0 ∧ entered.length = 3 ∧ log.length = 1 ∧
      log[0]? = some (Agent.averagesNote (.of 2 (entered.take 2))) := by
  intro config hall ending operations entered log
  obtain ⟨successes, count, windows, -⟩ := full_windows_logged config operations
  have three : entered.length = 3 := successes.trans (by decide +kernel)
  have one : log.length = 1 := count.trans (congrArg (· / 2) three)
  refine ⟨by decide, three, one, ?_⟩
  have bound : 0 < log.length := by omega
  rw [List.getElem?_eq_getElem bound]
  exact congrArg some (windows 0 bound).2

end TextQuest.Neural
