import TextQuest.Script.Basic
import TextQuest.Session
import TextQuest.Sorted
import TextQuest.Text.Blank

/-!
Playing a quest script. Clearing the last stage wins the game with a score of one out of one. The
commands on offer are sorted, so that the place of the winning one says nothing.
-/
namespace TextQuest

structure Quest where
  script : Script
  tracking : Bool := false
  intermediate : Bool := false
  stage : Nat := 0
  moves : Nat := 0
  inventory : List String := []
  feedback : String := ""
  won : Bool := false
  lost : Bool := false
  closed : Bool := false
  deriving DecidableEq

namespace Quest

def done (quest : Quest) : Bool := quest.won || quest.lost

def stage? (quest : Quest) : Option Stage := quest.script.stages[quest.stage]?

def admissible (quest : Quest) : List String :=
  match quest.stage? with
  | some stage => sortedOnce stage.commands
  | none => []

def policy (quest : Quest) : List String :=
  (quest.script.stages.drop quest.stage).map (·.command)

def description (quest : Quest) : String :=
  match quest.stage? with
  | some stage => if quest.done then "*** The End ***" else stage.description
  | none => "*** The End ***"

def carrying (quest : Quest) : String :=
  if quest.inventory.isEmpty then "You are carrying nothing."
  else "You are carrying: " ++ String.intercalate ", " quest.inventory ++ "."

def snapshot (quest : Quest) : GameState :=
  let tracked := quest.tracking && !quest.done
  { description := quest.description
    inventory := quest.carrying
    feedback := quest.feedback
    objective := quest.script.objective
    admissibleCommands := if tracked then quest.admissible else []
    policyCommands := if tracked then quest.policy else []
    moves := quest.moves
    score := if quest.won then 1 else 0
    maxScore := 1
    won := quest.won
    lost := quest.lost }

def restarted (quest : Quest) : Quest :=
  { quest with
    stage := 0, moves := 0, inventory := [], feedback := quest.script.intro, won := false,
    lost := false }

def cleared (quest : Quest) (stage : Stage) : Quest :=
  let last := quest.stage + 1 = quest.script.stages.length
  { quest with
    stage := quest.stage + 1
    inventory := quest.inventory ++ stage.item.toList
    won := last
    feedback := if last then stage.feedback ++ " *** You have won ***" else stage.feedback }

def respond (quest : Quest) (stage : Stage) (command : String) : Quest × Reward :=
  let command := Text.trim command
  if command = stage.command then
    let quest := quest.cleared stage
    (quest, if quest.won || quest.intermediate then .positive else .neutral)
  else if stage.hazards.contains command then
    ({ quest with lost := true, feedback := "*** You have lost ***" }, .negative)
  else if stage.distractors.contains command then
    ({ quest with feedback := "Nothing happens." }, .neutral)
  else ({ quest with feedback := "That's not a verb I recognise." }, .neutral)

def step (quest : Quest) (command : String) : Except EngineError Observation × Quest :=
  if quest.done then (.error .gameOver, quest)
  else match quest.stage? with
    | none => (.error .gameOver, quest)
    | some stage =>
      let (quest, reward) := { quest with moves := quest.moves + 1 }.respond stage command
      (.ok ⟨quest.snapshot, reward, quest.done⟩, quest)

def answer (quest : Quest) : (call : Call) → call.Answer × Quest
  | .activateTracking => (.ok (), { quest with tracking := true })
  | .requestIntermediateRewards => (.ok (), { quest with intermediate := true })
  | .reset => (.ok quest.restarted.snapshot, quest.restarted)
  | .step command => quest.step command
  | .walkthrough => (.ok quest.script.walkthrough, quest)

def ask (call : Call) (quest : Quest) : call.Answer × Quest :=
  if quest.closed then (.error .closed, quest) else quest.answer call

def session : Session Quest where
  ask := ask
  close quest := (.ok (), { quest with closed := true })

/-- The engine that plays the script found for a game. Before the first game there is no session. -/
def engine (find : String → Except EngineError Script) : Engine (Option Quest) where
  start game current :=
    match find game with
    | .ok script => (.ok [], some { script })
    | .error error => (.error error, current)
  ask call current :=
    match current with
    | some quest => let (answer, quest) := session.ask call quest; (answer, some quest)
    | none => (.error .closed, none)
  close current :=
    match current with
    | some quest => let (answer, quest) := session.close quest; (answer, some quest)
    | none => (.error .closed, none)

end Quest
end TextQuest
