import TextQuest.Glob.Search
import TextQuest.Random.Draw
import TextQuest.Run.Play

namespace TextQuest
open TextQuest.Random

structure TrainConfig where
  games : String := "games/*." ++ gameExtension
  maxSteps : Nat := 100
  epochs : Nat := 10
  seed : UInt64 := 1234
  deriving DecidableEq

/-- The order of the games in the current epoch. Each epoch rearranges the order before it. -/
structure EpochOrder where
  games : Array String
  random : Generator

namespace EpochOrder

def first (games : List String) (seed : UInt64) : EpochOrder := ⟨games.toArray, .ofSeed seed⟩

def next (order : EpochOrder) : EpochOrder :=
  let (games, random) := shuffle order.games order.random
  ⟨games, random⟩

def orders : Nat → EpochOrder → List (List String)
  | 0, _ => []
  | more + 1, order => order.next.games.toList :: orders more order.next

end EpochOrder

structure Training where
  /-- The recorded episodes, the latest first. -/
  recorded : List GameProgress := []
  epochsCompleted : Nat := 0
  interrupted : Bool := false
  deriving DecidableEq

def Training.report (training : Training) : TrainReport :=
  ⟨training.recorded.reverse, training.epochsCompleted, training.interrupted⟩

namespace Run

def startNote (agentName : String) (count : Nat) (config : TrainConfig) : Note where
  level := .info
  message := "training started"
  fields := [("agent", Text.quoted agentName), ("games", toString count),
    ("epochs", toString config.epochs), ("seed", toString config.seed)]

def progressNote (progress : GameProgress) : Note where
  level := .info
  message := Decimal.padded '0' 2 (toString progress.epoch) ++ ". " ++ progress.game ++ ": " ++
    Decimal.padded ' ' 3 (toString progress.outcome.moves) ++ " steps; " ++
    Decimal.padded ' ' 4 (toString progress.outcome.totalReward) ++ " reward"

def endNote (report : TrainReport) : Note :=
  if report.interrupted then
    ⟨.warn, "training interrupted", [("epochs_completed", toString report.epochsCompleted),
      ("episodes", toString report.progress.length)], .running⟩
  else
    ⟨.info, "training finished", [("episodes", toString report.progress.length),
      ("total_reward", toString report.totalReward)], .running⟩

def releaseInterrupted (game : String) : Run Unit := do
  match ← release game with
  | .ok () => return
  | .error error =>
    note ⟨.warn, "failed to close interrupted session: " ++ error.message, [("game", game)],
      .running⟩

def trainGames (maxSteps epoch : Nat) : List String → Training → Run Training
  | [], training => return training
  | game :: games, training => do
    if ← act .poll then return { training with interrupted := true }
    openSession game
    let run ← guarded game (episode true maxSteps)
    if run.interrupted then
      releaseInterrupted game
      return { training with interrupted := true }
    ofEngine (← release game)
    ofAgent (← act (.finish run.last))
    let progress : GameProgress := ⟨epoch, Path.gameName (Text.encode game), run.outcome⟩
    note (progressNote progress)
    trainGames maxSteps epoch games { training with recorded := progress :: training.recorded }

def trainEpochs (maxSteps : Nat) : Nat → EpochOrder → Training → Run Training
  | 0, _, training => return training
  | more + 1, order, training => do
    let order := order.next
    let training ← trainGames maxSteps training.epochsCompleted order.games.toList training
    if training.interrupted then return training
    trainEpochs maxSteps more order
      { training with epochsCompleted := training.epochsCompleted + 1 }

def trainAll (config : TrainConfig) (games : List String) : Run Training :=
  if games.isEmpty then return { epochsCompleted := config.epochs }
  else trainEpochs config.maxSteps config.epochs (.first games config.seed) {}

theorem trainEpochs_without_games (maxSteps more : Nat) {order : EpochOrder} (empty : order.games = #[])
    {training : Training} (whole : training.interrupted = false) :
    trainEpochs maxSteps more order training =
      return { training with epochsCompleted := training.epochsCompleted + more } := by
  induction more generalizing order training with
  | zero => rfl
  | succ more ih =>
    have still : order.next.games = #[] := by
      obtain ⟨games, random⟩ := order
      cases empty
      rfl
    let after : Training := { training with epochsCompleted := training.epochsCompleted + 1 }
    have here :
        trainEpochs maxSteps (more + 1) order training = trainEpochs maxSteps more order.next after := by
      rw [trainEpochs, still]
      exact if_neg (by simp [whole])
    have further : trainEpochs maxSteps more order.next after =
        return { training with epochsCompleted := training.epochsCompleted + 1 + more } := ih still whole
    rw [here, further, Nat.add_assoc, Nat.add_comm 1]

/-- The epochs of a training without games can be left out. -/
theorem trainAll_eq (config : TrainConfig) (games : List String) :
    trainAll config games = trainEpochs config.maxSteps config.epochs (.first games config.seed) {} := by
  unfold trainAll
  split
  · rename_i none
    have empty : (EpochOrder.first games config.seed).games = #[] := by simpa [EpochOrder.first] using none
    rw [trainEpochs_without_games _ _ empty rfl, Nat.zero_add]
  · rfl

def trainOn (agentName : String) (config : TrainConfig) (games : List String) :
    Run TrainReport := do
  note (startNote agentName games.length config)
  act (.setTraining true)
  let report := (← trainAll config games).report
  note (endNote report)
  return report

def resolveGames (tree : FileTree) (pattern : String) : Except RunError (List String) :=
  match Glob.files tree pattern with
  | .error (.malformed error) => .error (.pattern error)
  | .error (.unlisted found) => .error (.unlisted found)
  | .ok [] => .error (.noGames pattern)
  | .ok games => .ok games

def train (agentName : String) (config : TrainConfig) (tree : FileTree) : Run TrainReport := do
  match resolveGames tree config.games with
  | .ok games => trainOn agentName config games
  | .error error => throw error

end Run
end TextQuest
