/-!
Quest scripts: a linear sequence of stages. In each stage one command leads on, hazards lose the game,
and distractors do nothing.
-/
namespace TextQuest

structure Stage where
  description : String
  command : String
  distractors : List String := []
  hazards : List String := []
  feedback : String := ""
  item : Option String := none
  deriving DecidableEq

structure Script where
  objective : String
  intro : String := ""
  stages : List Stage
  deriving DecidableEq

def Script.walkthrough (script : Script) : List String := script.stages.map (·.command)

def Stage.commands (stage : Stage) : List String :=
  stage.command :: stage.distractors ++ stage.hazards

end TextQuest
