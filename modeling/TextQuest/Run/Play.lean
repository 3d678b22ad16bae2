import TextQuest.Decimal.Fixed
import TextQuest.Run.Episode
import TextQuest.Run.Guard

namespace TextQuest

def RunSummary.line (summary : RunSummary) : String :=
  let shown (x : Float) := Decimal.fixed 1 (.ofFloat x)
  "avg. steps: " ++ Decimal.padded ' ' 5 (shown summary.averageMoves) ++
    "; avg. score: " ++ Decimal.padded ' ' 4 (shown summary.averageScore) ++
    " / " ++ toString summary.maxScore ++ "."

namespace Run

def episodeNote (number : Nat) (outcome : EpisodeOutcome) : Note where
  level := .debug
  message := "episode finished"
  fields := [("episode", toString number), ("moves", toString outcome.moves),
    ("score", toString outcome.score), ("termination", outcome.termination.name)]

/-- Plays the given number of further episodes, of which the first has a number. Those that were played
are given with the latest first. -/
def episodes (maxSteps : Nat) : Nat → Nat → List EpisodeOutcome → Run RunSummary
  | 0, _, played => return ⟨played.reverse⟩
  | more + 1, number, played => do
    let outcome := (← episode false maxSteps).outcome
    note (episodeNote number outcome)
    episodes maxSteps more (number + 1) (outcome :: played)

def play (agentName game : String) (maxSteps count : Nat) : Run RunSummary := do
  openSession game
  let summary ← guarded game (episodes maxSteps count 0 [])
  ofEngine (← release game)
  note ⟨.debug, summary.line,
    [("agent", Text.quoted agentName), ("game", Path.gameName (Text.encode game)),
      ("episodes", toString count)], .running⟩
  return summary

end Run
end TextQuest
