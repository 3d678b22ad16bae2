import TextQuest.Proofs.Agent.Choice
import TextQuest.Proofs.Quest.History
import TextQuest.Proofs.Sorted
import TextQuest.Proofs.Text.ByteOrder

namespace TextQuest

def Stage.SameCommands (stage other : Stage) : Prop :=
  ∀ command, command ∈ stage.commands ↔ command ∈ other.commands

structure Stage.ListedOnce (stage : Stage) (commands : List String) : Prop where
  ascending : commands.Pairwise fun command later => Text.encode command < Text.encode later
  once : commands.Nodup
  members : ∀ command, command ∈ commands ↔ command ∈ stage.commands

structure Quest.Awaits (quest : Quest) (stage : Stage) : Prop where
  tracked : quest.tracking = true
  unfinished : quest.done = false
  current : quest.stage? = some stage

namespace Quest

variable {quest other : Quest} {stage different : Stage}

theorem Awaits.offers_eq (awaits : quest.Awaits stage) :
    quest.snapshot.admissibleCommands = sortedOnce stage.commands := by
  have tracked : (quest.tracking && !quest.done) = true := by
    rw [awaits.tracked, awaits.unfinished]
    rfl
  simp only [snapshot, tracked, if_true, admissible, awaits.current]

theorem Awaits.listedOnce (awaits : quest.Awaits stage) :
    stage.ListedOnce quest.snapshot.admissibleCommands := by
  have ascending := pairwise_sortedOnce stage.commands
  rw [awaits.offers_eq]
  constructor
  · exact ascending.imp Text.encode_lt_encode
  · exact ascending.imp ne_of_lt
  · intro command
    exact mem_sortedOnce

theorem Awaits.offers_congr (awaits : quest.Awaits stage) (awaits' : other.Awaits different)
    (same : stage.SameCommands different) :
    quest.snapshot.admissibleCommands = other.snapshot.admissibleCommands := by
  rw [awaits.offers_eq, awaits'.offers_eq]
  exact sortedOnce_congr same

end Quest

theorem Agent.random_decide_congr {observation other : Observation}
    (same : observation.state.admissibleCommands = other.state.admissibleCommands)
    (g : Random.Generator) : Agent.random.decide observation g = Agent.random.decide other g := by
  simp only [Agent.random, same]

/-- Quests that await stages with the same commands offer the same list, and a random agent makes the same
of it. -/
theorem offers_tell_nothing_of_roles {quest other : Quest} {stage different : Stage}
    (awaits : quest.Awaits stage) (awaits' : other.Awaits different)
    (same : stage.SameCommands different) :
    quest.snapshot.admissibleCommands = other.snapshot.admissibleCommands ∧
      stage.ListedOnce quest.snapshot.admissibleCommands ∧
      ∀ observation twin : Observation, observation.state = quest.snapshot → twin.state = other.snapshot →
        ∀ g, Agent.random.decide observation g = Agent.random.decide twin g ∧
          ∃ command ∈ stage.commands, (Agent.random.decide observation g).result = .ok command := by
  have listed := awaits.listedOnce
  have offers := awaits.offers_congr awaits' same
  refine ⟨offers, listed, ?_⟩
  intro observation twin state state' g
  constructor
  · apply Agent.random_decide_congr
    rw [state, state', offers]
  · have offered : observation.state.admissibleCommands ≠ [] := by
      have member : stage.command ∈ quest.snapshot.admissibleCommands :=
        (listed.members _).mpr (List.mem_cons_self ..)
      rw [state]
      exact List.ne_nil_of_mem member
    obtain ⟨command, member, chosen⟩ := Agent.random_willing.takes observation g offered
    rw [state] at member
    exact ⟨command, (listed.members command).mp member, chosen⟩

theorem hall_and_cellar_offer_alike :
    let hall : Stage :=
      { description := "A hall.", command := "öffne", distractors := ["zerre", "zerre"],
        hazards := ["Zünde"] }
    let cellar : Stage :=
      { description := "A cellar.", command := "Zünde", hazards := ["zerre", "öffne", "Zünde"] }
    let short : Script := { objective := "Leave.", stages := [hall] }
    let long : Script := { objective := "Leave.", stages := [hall, cellar] }
    let quest := (short.operated [.ask .reset, .ask .activateTracking]).1
    let other := (long.operated [.ask (.step "öffne"), .ask .activateTracking, .ask .reset]).1
    quest.Awaits hall ∧ other.Awaits cellar ∧ hall.SameCommands cellar ∧
      quest.snapshot.admissibleCommands = other.snapshot.admissibleCommands ∧
      hall.ListedOnce quest.snapshot.admissibleCommands ∧
      (Agent.random.decide ⟨quest.snapshot, .neutral, false⟩ (.ofSeed 1)).result =
        (Agent.random.decide ⟨other.snapshot, .positive, false⟩ (.ofSeed 1)).result := by
  intro hall cellar short long quest other
  have awaits : quest.Awaits hall := ⟨by decide +kernel, by decide +kernel, by decide +kernel⟩
  have awaits' : other.Awaits cellar := ⟨by decide +kernel, by decide +kernel, by decide +kernel⟩
  have same : hall.SameCommands cellar := by
    have forth : ∀ command ∈ hall.commands, command ∈ cellar.commands := by decide +kernel
    have back : ∀ command ∈ cellar.commands, command ∈ hall.commands := by decide +kernel
    exact fun command => ⟨forth command, back command⟩
  obtain ⟨offers, listed, decides⟩ := offers_tell_nothing_of_roles awaits awaits' same
  have alike := (decides ⟨quest.snapshot, .neutral, false⟩ ⟨other.snapshot, .positive, false⟩ rfl rfl
    (.ofSeed 1)).1
  exact ⟨awaits, awaits', same, offers, listed, congrArg Turn.result alike⟩

end TextQuest
