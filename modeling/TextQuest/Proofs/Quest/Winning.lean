import TextQuest.Proofs.Quest.Sound

namespace TextQuest

def Stage.Trimmed (stage : Stage) : Prop := Text.trim stage.command = stage.command

namespace Quest

def left (quest : Quest) : List Stage := quest.script.stages.drop quest.stage

def WinsBy (quest : Quest) : List String → Prop
  | [] => False
  | command :: rest => ∃ observation, (session.ask (.step command) quest).1 = .ok observation ∧
      (observation.done = true ↔ rest = []) ∧ (observation.state.won = true ↔ rest = []) ∧
      (rest ≠ [] → (session.ask (.step command) quest).2.WinsBy rest)

variable {quest after : Quest} {stage : Stage} {rest : List Stage} {command : String}
  {observation : Observation}

theorem length_left (quest : Quest) :
    quest.left.length = quest.script.stages.length - quest.stage := List.length_drop

theorem policyCommands_snapshot (tracking : quest.tracking = true) (unfinished : quest.done = false) :
    quest.snapshot.policyCommands = quest.left.map (·.command) := by
  simp [snapshot, tracking, unfinished, policy, left]

theorem stage?_of_left (same : quest.left = stage :: rest) : quest.stage? = some stage := by
  have first := congrArg List.head? same
  rwa [left, List.head?_drop] at first

theorem Stepped.left_eq (stepped : quest.Stepped command observation after)
    (same : quest.left = stage :: rest) :
    after.left = if Text.trim command = stage.command then rest else stage :: rest := by
  obtain ⟨other, found, response⟩ := stepped.response
  cases found.symm.trans (stage?_of_left same)
  rw [left, stepped.kept.script, response.stage_eq, ← same]
  split
  · rw [← List.tail_drop]
    exact congrArg List.tail same
  · rfl

theorem Response.lost_eq {reward : Reward} (response : quest.Response stage command after reward)
    (fits : Text.trim command = stage.command) : after.lost = quest.lost := by
  cases response with
  | clears _ => rfl
  | loses _ misses _ => exact absurd fits misses
  | stays _ misses _ => exact absurd fits misses

theorem Response.reward_eq {reward : Reward} (response : quest.Response stage command after reward)
    (fits : Text.trim command = stage.command) :
    reward = if after.won || quest.intermediate then .positive else .neutral := by
  cases response with
  | clears _ => rfl
  | loses _ misses _ => exact absurd fits misses
  | stays _ misses _ => exact absurd fits misses

theorem Stepped.unlost (stepped : quest.Stepped command observation after)
    (same : quest.left = stage :: rest) (fits : Text.trim command = stage.command) : after.lost = false := by
  obtain ⟨other, found, response⟩ := stepped.response
  cases found.symm.trans (stage?_of_left same)
  exact (response.lost_eq fits).trans (done_eq_false.mp stepped.unfinished).2

theorem Stepped.length_left_le (stepped : quest.Stepped command observation after) :
    quest.left.length ≤ after.left.length + 1 := by
  obtain ⟨stage, -, response⟩ := stepped.response
  rw [length_left, length_left, stepped.kept.script, response.stage_eq]
  split <;> simp only <;> omega

theorem ask_step_of_open (isOpen : quest.closed = false) (command : String) :
    session.ask (.step command) quest = quest.step command := ask_of_open isOpen _

theorem stepped_of_ask (answer : (session.ask (.step command) quest).1 = .ok observation) :
    quest.Stepped command observation (session.ask (.step command) quest).2 := by
  cases closed : quest.closed with
  | true => simp [ask_of_closed closed] at answer
  | false =>
    rw [ask_step_of_open closed] at answer ⊢
    exact stepped_of_ok answer

namespace Sound

theorem won_iff_left (sound : quest.Sound) :
    quest.won = true ↔ 0 < quest.script.stages.length ∧ quest.left = [] := by
  have within := sound.within
  rw [sound.won, ← List.length_eq_zero_iff, length_left]
  omega

theorem left_ne_nil (sound : quest.Sound) (unfinished : quest.done = false)
    (nonempty : 0 < quest.script.stages.length) : quest.left ≠ [] := by
  intro none
  have won := sound.won_iff_left.mpr ⟨nonempty, none⟩
  simp [done, won] at unfinished

theorem won_after (sound : quest.Sound) (stepped : quest.Stepped command observation after) :
    observation.state.won = true ↔ after.left = [] := by
  obtain ⟨stage, found, -⟩ := stepped.response
  have nonempty : 0 < after.script.stages.length := by
    rw [stepped.kept.script]
    exact Nat.zero_lt_of_lt (lt_of_stage? found)
  rw [stepped.state]
  exact (sound.stepped stepped).won_iff_left.trans (and_iff_right nonempty)

theorem length_left_le (sound : quest.Sound) {commands : List String} (wins : quest.WinsBy commands) :
    quest.left.length ≤ commands.length := by
  induction commands generalizing quest with
  | nil => exact wins.elim
  | cons command rest ih =>
    obtain ⟨observation, answer, -, won, further⟩ := wins
    have stepped := stepped_of_ask answer
    have shortened : quest.left.length ≤ _ := stepped.length_left_le
    by_cases last : rest = []
    · have none := (sound.won_after stepped).mp (won.mpr last)
      rw [none] at shortened
      simpa [last] using shortened
    · have enough := ih (sound.stepped stepped) (further last)
      rw [List.length_cons]
      omega

/-- The commands of the stages that are left win the game if and only if each of them is trimmed. -/
theorem winsBy_left_iff (sound : quest.Sound) (isOpen : quest.closed = false)
    (unfinished : quest.done = false) (nonempty : 0 < quest.script.stages.length) :
    quest.WinsBy (quest.left.map (·.command)) ↔ ∀ stage ∈ quest.left, stage.Trimmed := by
  generalize same : quest.left = stages
  induction stages generalizing quest with
  | nil => exact absurd same (sound.left_ne_nil unfinished nonempty)
  | cons stage rest ih =>
    obtain ⟨observation, answer, stepped⟩ :=
      stepped_of_stage unfinished (stage?_of_left same) stage.command
    rw [← ask_step_of_open isOpen] at answer stepped
    have left := stepped.left_eq same
    have won := sound.won_after stepped
    have soundAfter := sound.stepped stepped
    have wins_iff : quest.WinsBy (stage.command :: rest.map (·.command)) ↔
        (observation.done = true ↔ rest = []) ∧ (observation.state.won = true ↔ rest = []) ∧
          (rest ≠ [] → (session.ask (.step stage.command) quest).2.WinsBy (rest.map (·.command))) := by
      simp [WinsBy, answer]
    rw [List.map_cons, wins_iff, List.forall_mem_cons]
    generalize (session.ask (.step stage.command) quest).2 = after at stepped left won soundAfter ⊢
    by_cases trimmed : stage.Trimmed
    · rw [if_pos (by exact trimmed)] at left
      rw [left] at won
      have unlost : after.lost = false := stepped.unlost same trimmed
      have done : observation.done = true ↔ rest = [] := by
        rw [stepped.done, Quest.done, unlost, Bool.or_false, ← won, stepped.state]
        rfl
      simp only [done, won, true_and, iff_true_intro trimmed]
      by_cases last : rest = []
      · simp [last]
      · have goesOn : after.done = false := by
          rw [← stepped.done]
          simpa using mt done.mp last
        have further := ih soundAfter (stepped.kept.closed.trans isOpen) goesOn
          (stepped.kept.script ▸ nonempty) left
        simpa [last] using further
    · rw [if_neg (by exact trimmed)] at left
      refine iff_of_false ?_ (fun all => trimmed all.1)
      rintro ⟨-, wonLast, further⟩
      have more : rest ≠ [] := by
        intro last
        simp [won.mp (wonLast.mpr last)] at left
      -- A stage that was not cleared would take one more command than there are.
      have enough := soundAfter.length_left_le (further more)
      rw [left, List.length_cons, List.length_map] at enough
      omega

end Sound

end Quest
end TextQuest
