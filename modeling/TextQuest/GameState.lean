import TextQuest.Reward

namespace TextQuest

def gameExtension : String := "ulx"

/-- A snapshot of a game. The two command lists stay empty unless the session was asked to track
them. -/
structure GameState where
  description : String := ""
  inventory : String := ""
  feedback : String := ""
  objective : String := ""
  admissibleCommands : List String := []
  policyCommands : List String := []
  moves : Nat := 0
  score : Int := 0
  maxScore : Int := 0
  won : Bool := false
  lost : Bool := false
  deriving DecidableEq, Inhabited

namespace GameState

def textFields (state : GameState) : List String :=
  [state.description, state.inventory, state.feedback, state.objective]

def isAdmissible (state : GameState) (command : String) : Bool :=
  state.admissibleCommands.contains command

def normalizedScore (state : GameState) : Float :=
  if state.maxScore ≤ 0 then 0 else Float.ofInt state.score / Float.ofInt state.maxScore

end GameState

structure Observation where
  state : GameState
  reward : Reward := .neutral
  done : Bool := false
  deriving DecidableEq, Inhabited

end TextQuest
