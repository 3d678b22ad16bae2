import TextQuest.Reward

namespace TextQuest

inductive Termination
  | won
  | lost
  /-- The engine ended the game without a win or a loss. -/
  | ended
  /-- The engine never ended the game within the step budget. -/
  | stepBudget
  | interrupted
  deriving DecidableEq

namespace Termination

def name : Termination → String
  | won => "Won"
  | lost => "Lost"
  | ended => "Ended"
  | stepBudget => "StepBudget"
  | interrupted => "Interrupted"

def all : List Termination := [won, lost, ended, stepBudget, interrupted]

end Termination

structure EpisodeOutcome where
  steps : Nat
  moves : Nat
  score : Int
  maxScore : Int
  done : Bool
  totalReward : Int
  termination : Termination
  deriving DecidableEq

def EpisodeOutcome.normalizedScore (outcome : EpisodeOutcome) : Float :=
  if 0 < outcome.maxScore then Float.ofInt outcome.score / Float.ofInt outcome.maxScore else 0

structure RunSummary where
  episodes : List EpisodeOutcome := []
  deriving DecidableEq

namespace RunSummary

def mean (summary : RunSummary) (quantity : EpisodeOutcome → Float) : Float :=
  if summary.episodes.isEmpty then 0
  else (summary.episodes.map quantity).foldl (· + ·) 0 / Float.ofNat summary.episodes.length

def averageMoves (summary : RunSummary) : Float := summary.mean fun o => Float.ofNat o.moves

def averageScore (summary : RunSummary) : Float := summary.mean fun o => Float.ofInt o.score

def averageNormalizedScore (summary : RunSummary) : Float :=
  summary.mean EpisodeOutcome.normalizedScore

def maxScore (summary : RunSummary) : Int :=
  match summary.episodes with
  | [] => 0
  | first :: rest => rest.foldl (fun best o => max best o.maxScore) first.maxScore

def wins (summary : RunSummary) : Nat := summary.episodes.countP (·.termination = .won)

end RunSummary

structure GameProgress where
  epoch : Nat
  game : String
  outcome : EpisodeOutcome
  deriving DecidableEq

structure TrainReport where
  progress : List GameProgress := []
  epochsCompleted : Nat := 0
  interrupted : Bool := false
  deriving DecidableEq

def TrainReport.totalReward (report : TrainReport) : Int :=
  (report.progress.map (·.outcome.totalReward)).foldl (· + ·) 0

end TextQuest
