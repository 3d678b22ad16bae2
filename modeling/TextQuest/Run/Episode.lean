import TextQuest.Outcome
import TextQuest.Run.Basic

namespace TextQuest

structure EpisodeRun where
  last : Observation
  steps : Nat := 0
  totalReward : Int := 0
  interrupted : Bool := false
  deriving DecidableEq

namespace EpisodeRun

def termination (run : EpisodeRun) : Termination :=
  if run.interrupted then .interrupted
  else if run.last.state.won then .won
  else if run.last.state.lost then .lost
  else if run.last.done then .ended
  else .stepBudget

def outcome (run : EpisodeRun) : EpisodeOutcome where
  steps := run.steps
  moves := run.last.state.moves
  score := run.last.state.score
  maxScore := run.last.state.maxScore
  done := run.last.done
  totalReward := run.totalReward
  termination := run.termination

def after (run : EpisodeRun) (observation : Observation) : EpisodeRun :=
  { run with
    last := observation
    steps := run.steps + 1
    totalReward := run.totalReward + observation.reward.value }

def stepNote (run : EpisodeRun) (command : String) : Note where
  level := .debug
  message := "step"
  fields := [("step", toString run.steps), ("command", command),
    ("reward", toString run.last.reward.value), ("done", toString run.last.done)]

end EpisodeRun

namespace Run

/-- Plays on for at most `budget` more commands. A watched episode looks before each decision
whether the run was cancelled. -/
def proceed (watched : Bool) : Nat → EpisodeRun → Run EpisodeRun
  | 0, run => return run
  | budget + 1, run => do
    if watched then
      if ← act .poll then return { run with interrupted := true }
    let command ← ofAgent (← act (.decide run.last))
    let run := run.after (← ask (.step command))
    note (run.stepNote command)
    if run.last.done then return run
    proceed watched budget run

def episode (watched : Bool) (maxSteps : Nat) : Run EpisodeRun := do
  ofAgent (← act .prepare)
  let state ← ask .reset
  proceed watched maxSteps { last := { state } }

end Run
end TextQuest
