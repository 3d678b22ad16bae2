import TextQuest.GameState
import TextQuest.Json.Printer
import TextQuest.Json.Record
import TextQuest.Outcome

/-!
Game data in JSON: rewards, states, observations, outcomes and reports. A state has a default for
every field; everything else has to be complete.
-/
namespace TextQuest
open Json

namespace Reward

def read : Reader Reward :=
  mapped int64 fun signal => (ofSignal signal).mapError OutOfRange.message

def toJson (reward : Reward) : Value := .ofInt reward.value

end Reward

namespace GameState

def form (room : Nat) : Form GameState where
  name := "GameState"
  blank := {}
  complete := false
  fields := [
    .of "description" text fun description state => { state with description },
    .of "inventory" text fun inventory state => { state with inventory },
    .of "feedback" text fun feedback state => { state with feedback },
    .of "objective" text fun objective state => { state with objective },
    .of "admissible_commands" (list room text) fun admissibleCommands state =>
      { state with admissibleCommands },
    .of "policy_commands" (list room text) fun policyCommands state => { state with policyCommands },
    .of "nb_moves" nat32 fun moves state => { state with moves },
    .of "score" int32 fun score state => { state with score },
    .of "max_score" int32 fun maxScore state => { state with maxScore },
    .of "won" bool fun won state => { state with won },
    .of "lost" bool fun lost state => { state with lost }]

def read (room : Nat) : Reader GameState := (form room).read room

def toJson (state : GameState) : Value := .object
  [("description", .text state.description), ("inventory", .text state.inventory),
    ("feedback", .text state.feedback), ("objective", .text state.objective),
    ("admissible_commands", .ofStrings state.admissibleCommands),
    ("policy_commands", .ofStrings state.policyCommands), ("nb_moves", .ofInt state.moves),
    ("score", .ofInt state.score), ("max_score", .ofInt state.maxScore),
    ("won", .bool state.won), ("lost", .bool state.lost)]

end GameState

namespace Observation

def form (room : Nat) : Form Observation where
  name := "Transition"
  blank := ⟨{}, .neutral, false⟩
  complete := true
  fields := [
    .of "state" (GameState.read room) fun state observation => { observation with state },
    .of "reward" Reward.read fun reward observation => { observation with reward },
    .of "done" bool fun done observation => { observation with done }]

def read (room : Nat) : Reader Observation := (form room).read room

end Observation

def Termination.read : Reader Termination := wordOf (all.map fun ending => (ending.name, ending))

namespace EpisodeOutcome

def form : Form EpisodeOutcome where
  name := "EpisodeOutcome"
  blank := ⟨0, 0, 0, 0, false, 0, .ended⟩
  complete := true
  fields := [
    .of "steps" nat32 fun steps outcome => { outcome with steps },
    .of "moves" nat32 fun moves outcome => { outcome with moves },
    .of "score" int32 fun score outcome => { outcome with score },
    .of "max_score" int32 fun maxScore outcome => { outcome with maxScore },
    .of "done" bool fun done outcome => { outcome with done },
    .of "total_reward" int32 fun totalReward outcome => { outcome with totalReward },
    .of "termination" Termination.read fun termination outcome => { outcome with termination }]

def read (room : Nat) : Reader EpisodeOutcome := form.read room

end EpisodeOutcome

namespace RunSummary

def form (room : Nat) : Form RunSummary where
  name := "RunSummary"
  blank := {}
  complete := true
  fields := [
    .of "episodes" (list room (EpisodeOutcome.read room)) fun episodes summary =>
      { summary with episodes }]

def read (room : Nat) : Reader RunSummary := (form room).read room

end RunSummary

namespace GameProgress

def form (room : Nat) : Form GameProgress where
  name := "GameProgress"
  blank := ⟨0, "", EpisodeOutcome.form.blank⟩
  complete := true
  fields := [
    .of "epoch" nat32 fun epoch progress => { progress with epoch },
    .of "game" text fun game progress => { progress with game },
    .of "outcome" (EpisodeOutcome.read room) fun outcome progress => { progress with outcome }]

def read (room : Nat) : Reader GameProgress := (form room).read room

end GameProgress

namespace TrainReport

def form (room : Nat) : Form TrainReport where
  name := "TrainReport"
  blank := {}
  complete := true
  fields := [
    .of "progress" (list room (GameProgress.read room)) fun progress report =>
      { report with progress },
    .of "epochs_completed" nat32 fun epochsCompleted report => { report with epochsCompleted },
    .of "interrupted" bool fun interrupted report => { report with interrupted }]

def read (room : Nat) : Reader TrainReport := (form room).read room

end TrainReport
end TextQuest
