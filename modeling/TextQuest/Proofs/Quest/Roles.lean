import TextQuest.Proofs.Quest.History
import TextQuest.Script.Document

/-!
What commands are there for. A command is looked up without the blanks around it, but it is offered as it is
written; so a command on offer does what it is there for exactly if it is there for the same without them.
-/
namespace TextQuest

inductive Role
  | key
  | hazard
  | distractor
  deriving DecidableEq

def Stage.role? (stage : Stage) (command : String) : Option Role :=
  if command = stage.command then some .key
  else if command ∈ stage.hazards then some .hazard
  else if command ∈ stage.distractors then some .distractor
  else none

theorem Stage.role?_eq_key {stage : Stage} {command : String} :
    stage.role? command = some .key ↔ command = stage.command := by
  unfold role?
  split
  · simp_all
  · split
    · simp_all
    · split <;> simp_all

theorem Stage.role?_eq_none {stage : Stage} {command : String} :
    stage.role? command = none ↔ command ∉ stage.commands := by
  unfold role? commands
  split
  · simp_all
  · split
    · simp_all
    · split <;> simp_all

namespace Quest

def played (quest : Quest) (stage : Stage) : Option Role → Quest × Reward
  | some .key =>
    let last := quest.stage + 1 = quest.script.stages.length
    ({ quest with
        moves := quest.moves + 1
        stage := quest.stage + 1
        inventory := quest.inventory ++ stage.item.toList
        feedback := if last then stage.feedback ++ " *** You have won ***" else stage.feedback
        won := last },
      if last ∨ quest.intermediate = true then .positive else .neutral)
  | some .hazard =>
    ({ quest with moves := quest.moves + 1, lost := true, feedback := "*** You have lost ***" }, .negative)
  | some .distractor =>
    ({ quest with moves := quest.moves + 1, feedback := "Nothing happens." }, .neutral)
  | none =>
    ({ quest with moves := quest.moves + 1, feedback := "That's not a verb I recognise." }, .neutral)

def response (quest : Quest) (stage : Stage) (role : Option Role) : Except EngineError Observation × Quest :=
  let (after, reward) := quest.played stage role
  (.ok ⟨after.snapshot, reward, after.done⟩, after)

variable {quest : Quest} {stage : Stage} {command : String}

theorem respond_eq (quest : Quest) (stage : Stage) (command : String) :
    { quest with moves := quest.moves + 1 }.respond stage command =
      quest.played stage (stage.role? (Text.trim command)) := by
  unfold respond Stage.role?
  dsimp only
  split
  · simp [played, cleared]
  · simp only [List.contains_iff_mem]
    split
    · rfl
    · split <;> rfl

/-- Every command to a game that goes on is answered by its role. -/
theorem step_eq (unfinished : quest.done = false) (found : quest.stage? = some stage) (command : String) :
    quest.step command = quest.response stage (stage.role? (Text.trim command)) := by
  simp only [step, unfinished, found, Bool.false_eq_true, if_false, respond_eq, response]

def roleShown (before after : Quest) : Option Role :=
  if before.stage < after.stage then some .key
  else if after.lost then some .hazard
  else if after.feedback = "Nothing happens." then some .distractor
  else none

theorem roleShown_played (unfinished : quest.done = false) (stage : Stage) (role : Option Role) :
    quest.roleShown (quest.played stage role).1 = role := by
  have unlost : quest.lost = false := (done_eq_false.mp unfinished).2
  rcases role with _ | _ | _ | _ <;> simp [roleShown, played, unlost]

theorem response_injective (unfinished : quest.done = false) {role other : Option Role}
    (same : quest.response stage role = quest.response stage other) : role = other := by
  have after : (quest.played stage role).1 = (quest.played stage other).1 := congrArg Prod.snd same
  rw [← roleShown_played unfinished stage role, after, roleShown_played unfinished stage other]

theorem offered (command_offered : command ∈ quest.snapshot.admissibleCommands) :
    quest.done = false ∧ ∃ stage, quest.stage? = some stage ∧ command ∈ stage.commands := by
  obtain ⟨⟨-, won, lost⟩, found⟩ := ((tells_snapshot quest).admissible command).mp command_offered
  exact ⟨done_eq_false.mpr ⟨won, lost⟩, found⟩

end Quest

theorem offered_command_plays_its_role_iff {quest : Quest} (isOpen : quest.closed = false) {command : String}
    (offered : command ∈ quest.snapshot.admissibleCommands) :
    ∃ stage role, quest.stage? = some stage ∧ stage.role? command = some role ∧
      (Quest.session.ask (.step command) quest = quest.response stage (some role) ↔
        stage.role? (Text.trim command) = some role) := by
  obtain ⟨unfinished, stage, found, member⟩ := Quest.offered offered
  cases plays : stage.role? command with
  | none => exact absurd member (Stage.role?_eq_none.mp plays)
  | some role =>
    refine ⟨stage, role, found, plays, ?_⟩
    have asked : Quest.session.ask (.step command) quest = quest.step command := Quest.ask_of_open isOpen _
    rw [asked, Quest.step_eq unfinished found]
    exact ⟨Quest.response_injective unfinished, congrArg _⟩

theorem trimmed_command_plays_its_role :
    let stage : Stage :=
      { description := "A hall.", command := "go", distractors := ["look", "wait "], hazards := ["jump"] }
    let script : Script := { objective := "Leave.", stages := [stage] }
    let quest := (script.operated [.ask (.step "wait "), .ask .reset, .ask .activateTracking]).1
    quest.closed = false ∧ "jump" ∈ quest.snapshot.admissibleCommands ∧
      ∃ stage role, quest.stage? = some stage ∧ stage.role? "jump" = some role ∧
        (Quest.session.ask (.step "jump") quest = quest.response stage (some role) ↔
          stage.role? (Text.trim "jump") = some role) := by
  intro stage script quest
  have isOpen : quest.closed = false := by decide +kernel
  have offered : "jump" ∈ quest.snapshot.admissibleCommands :=
    ((Quest.tells_snapshot quest).admissible "jump").mpr ⟨by decide +kernel, stage, rfl, by decide⟩
  exact ⟨isOpen, offered, offered_command_plays_its_role_iff isOpen offered⟩

theorem blank_hides_role_of_offered_command :
    let stage : Stage := { description := "A hall.", command := "go", distractors := [" look"] }
    let script : Script := { objective := "Leave.", stages := [stage] }
    let quest := (script.operated [.ask .reset, .ask .activateTracking]).1
    (Script.parse ("(objective: \"Leave.\", stages: [(description: \"A hall.\", command: \"go\", " ++
        "distractors: [\" look\"])])")).toOption = some script ∧
      quest.closed = false ∧ quest.tracking = true ∧ quest.done = false ∧
      " look" ∈ quest.snapshot.admissibleCommands ∧
      quest.stage? = some stage ∧ stage.role? " look" = some .distractor ∧
      Quest.session.ask (.step " look") quest = quest.response stage none ∧
      Quest.session.ask (.step " look") quest ≠ quest.response stage (some .distractor) := by
  intro stage script quest
  have parsed : (Script.parse ("(objective: \"Leave.\", stages: [(description: \"A hall.\", " ++
      "command: \"go\", distractors: [\" look\"])])")).toOption = some script := by decide +kernel
  have unfinished : quest.done = false := by decide +kernel
  have offered : " look" ∈ quest.snapshot.admissibleCommands :=
    ((Quest.tells_snapshot quest).admissible " look").mpr ⟨by decide +kernel, stage, rfl, by decide⟩
  have answer : Quest.session.ask (.step " look") quest = quest.response stage none := by
    have role : stage.role? (Text.trim " look") = none := by decide +kernel
    have found : quest.stage? = some stage := rfl
    have answered := Quest.step_eq unfinished found " look"
    rwa [role] at answered
  refine ⟨parsed, rfl, rfl, unfinished, offered, rfl, by decide +kernel, answer, ?_⟩
  rw [answer]
  exact fun same => nomatch Quest.response_injective unfinished same

end TextQuest
