import TextQuest.Script.Session

/-!
What holds of a quest whatever was done with it: how far it is, what is carried, and whether it is won or
lost go together. What a command does is said once, and everything else about commands follows from that.
-/
namespace TextQuest.Quest

structure Sound (quest : Quest) : Prop where
  within : quest.stage ≤ quest.script.stages.length
  won : quest.won = true ↔
    0 < quest.script.stages.length ∧ quest.stage = quest.script.stages.length
  lost : quest.lost = true → quest.stage < quest.script.stages.length
  inventory : quest.inventory = (quest.script.stages.take quest.stage).filterMap (·.item)

inductive Response (quest : Quest) (stage : Stage) (command : String) : Quest → Reward → Prop
  | clears : Text.trim command = stage.command →
      Response quest stage command (quest.cleared stage)
        (if (quest.cleared stage).won || quest.intermediate then .positive else .neutral)
  | loses (feedback : String) : Text.trim command ≠ stage.command →
      Text.trim command ∈ stage.hazards →
      Response quest stage command { quest with lost := true, feedback } .negative
  | stays (feedback : String) : Text.trim command ≠ stage.command →
      Text.trim command ∉ stage.hazards →
      Response quest stage command { quest with feedback } .neutral

theorem response_of_respond {quest after : Quest} {stage : Stage} {command : String} {reward : Reward}
    (responds : quest.respond stage command = (after, reward)) :
    Response quest stage command after reward := by
  unfold respond at responds
  dsimp only at responds
  split at responds
  · rename_i clears
    cases responds
    exact .clears clears
  · rename_i other
    split at responds
    · rename_i hazard
      cases responds
      exact .loses _ other (by simpa using hazard)
    · rename_i harmless
      have harmless : Text.trim command ∉ stage.hazards := by simpa using harmless
      split at responds <;> cases responds <;> exact .stays _ other harmless

structure Kept (quest after : Quest) : Prop where
  script : after.script = quest.script
  tracking : after.tracking = quest.tracking
  intermediate : after.intermediate = quest.intermediate
  closed : after.closed = quest.closed

namespace Response

variable {quest after : Quest} {stage : Stage} {command : String} {reward : Reward}

theorem kept (response : quest.Response stage command after reward) : quest.Kept after := by
  cases response <;> exact ⟨rfl, rfl, rfl, rfl⟩

theorem moves (response : quest.Response stage command after reward) : after.moves = quest.moves := by
  cases response <;> rfl

theorem stage_eq (response : quest.Response stage command after reward) :
    after.stage = if Text.trim command = stage.command then quest.stage + 1 else quest.stage := by
  cases response with
  | clears clears => exact (if_pos clears).symm
  | loses _ other _ => exact (if_neg other).symm
  | stays _ other _ => exact (if_neg other).symm

end Response

structure Stepped (quest : Quest) (command : String) (observation : Observation) (after : Quest) :
    Prop where
  unfinished : quest.done = false
  response : ∃ stage, quest.stage? = some stage ∧
    Response { quest with moves := quest.moves + 1 } stage command after observation.reward
  state : observation.state = after.snapshot
  done : observation.done = after.done

namespace Stepped

variable {quest after : Quest} {command : String} {observation : Observation}

theorem kept (stepped : quest.Stepped command observation after) : quest.Kept after := by
  obtain ⟨stage, -, response⟩ := stepped.response
  obtain ⟨script, tracking, intermediate, closed⟩ := response.kept
  exact ⟨script, tracking, intermediate, closed⟩

theorem moves (stepped : quest.Stepped command observation after) : after.moves = quest.moves + 1 := by
  obtain ⟨stage, -, response⟩ := stepped.response
  exact response.moves

end Stepped

theorem step_of_done {quest : Quest} (done : quest.done = true) (command : String) :
    quest.step command = (.error .gameOver, quest) := if_pos done

theorem step_of_end {quest : Quest} (stageless : quest.stage? = none) (command : String) :
    quest.step command = (.error .gameOver, quest) := by
  simp [step, stageless]

theorem stepped_of_stage {quest : Quest} (unfinished : quest.done = false) {stage : Stage}
    (found : quest.stage? = some stage) (command : String) :
    ∃ observation, (quest.step command).1 = .ok observation ∧
      quest.Stepped command observation (quest.step command).2 := by
  unfold step
  simp only [unfinished, found, Bool.false_eq_true, if_false]
  generalize responds : respond _ stage command = responded
  obtain ⟨after, reward⟩ := responded
  exact ⟨⟨after.snapshot, reward, after.done⟩, rfl, unfinished,
    ⟨stage, found, response_of_respond responds⟩, rfl, rfl⟩

theorem stepped_of_ok {quest : Quest} {command : String} {observation : Observation}
    (succeeds : (quest.step command).1 = .ok observation) :
    quest.Stepped command observation (quest.step command).2 := by
  cases unfinished : quest.done with
  | true => simp [step_of_done unfinished] at succeeds
  | false =>
    cases found : quest.stage? with
    | none => simp [step_of_end found] at succeeds
    | some stage =>
      obtain ⟨other, same, stepped⟩ := stepped_of_stage unfinished found command
      cases same.symm.trans succeeds
      exact stepped

theorem step_of_error {quest : Quest} {command : String} {error : EngineError}
    (fails : (quest.step command).1 = .error error) : quest.step command = (.error .gameOver, quest) := by
  cases unfinished : quest.done with
  | true => exact step_of_done unfinished command
  | false =>
    cases found : quest.stage? with
    | none => exact step_of_end found command
    | some stage =>
      obtain ⟨_, same, -⟩ := stepped_of_stage unfinished found command
      cases same.symm.trans fails

theorem lt_of_stage? {quest : Quest} {stage : Stage} (found : quest.stage? = some stage) :
    quest.stage < quest.script.stages.length :=
  (List.getElem?_eq_some_iff.mp found).1

theorem ask_of_closed {quest : Quest} (closed : quest.closed = true) (call : Call) :
    session.ask call quest = (.error .closed, quest) := if_pos closed

theorem ask_of_open {quest : Quest} (isOpen : quest.closed = false) (call : Call) :
    session.ask call quest = quest.answer call := by
  simp [session, ask, isOpen]

theorem done_eq_false {quest : Quest} :
    quest.done = false ↔ quest.won = false ∧ quest.lost = false := by
  simp [done]

namespace Sound

variable {quest after : Quest} {stage : Stage} {command : String}

theorem fresh (script : Script) : Sound { script } where
  within := Nat.zero_le _
  won := by simp; omega
  lost := nofun
  inventory := rfl

theorem restarted (quest : Quest) : quest.restarted.Sound where
  within := Nat.zero_le _
  won := by simp [Quest.restarted]; omega
  lost := nofun
  inventory := rfl

theorem exclusive (sound : quest.Sound) : ¬ (quest.won = true ∧ quest.lost = true) := by
  rintro ⟨won, lost⟩
  have last := (sound.won.mp won).2
  have before := sound.lost lost
  omega

theorem exists_stage (sound : quest.Sound) (unfinished : quest.done = false)
    (nonempty : 0 < quest.script.stages.length) : ∃ stage, quest.stage? = some stage := by
  have unwon : ¬ quest.stage = quest.script.stages.length := by
    intro last
    have won := sound.won.mpr ⟨nonempty, last⟩
    simp [done, won] at unfinished
  have within := sound.within
  exact ⟨_, List.getElem?_eq_getElem (by omega)⟩

theorem cleared (sound : quest.Sound) (unfinished : quest.done = false)
    (found : quest.stage? = some stage) : (quest.cleared stage).Sound where
  within := lt_of_stage? found
  won := by
    have bound := lt_of_stage? found
    simp only [Quest.cleared, decide_eq_true_eq]
    omega
  lost lost := by
    have unlost : quest.lost = false := (done_eq_false.mp unfinished).2
    cases unlost.symm.trans lost
  inventory := by
    have next : quest.script.stages[quest.stage]? = some stage := found
    simp only [Quest.cleared]
    rw [List.take_add_one, next, List.filterMap_append, sound.inventory]
    cases item : stage.item <;> simp [item]

theorem responded {reward : Reward} (sound : quest.Sound) (unfinished : quest.done = false)
    (found : quest.stage? = some stage) (response : quest.Response stage command after reward) :
    after.Sound := by
  cases response with
  | clears _ => exact sound.cleared unfinished found
  | loses _ _ _ => exact ⟨sound.within, sound.won, fun _ => lt_of_stage? found, sound.inventory⟩
  | stays _ _ _ => exact ⟨sound.within, sound.won, sound.lost, sound.inventory⟩

theorem stepped {observation : Observation} (sound : quest.Sound)
    (stepped : quest.Stepped command observation after) : after.Sound := by
  obtain ⟨stage, found, response⟩ := stepped.response
  have counted : Sound { quest with moves := quest.moves + 1 } :=
    ⟨sound.within, sound.won, sound.lost, sound.inventory⟩
  exact counted.responded stepped.unfinished found response

end Sound
end TextQuest.Quest
