import TextQuest.Json.Game
import TextQuest.Session
import TextQuest.Text.Blank

namespace TextQuest.Bridge
open Json

structure Response where
  ok : Bool := false
  error : Option String := none
  state : Option GameState := none
  reward : Option Reward := none
  done : Option Bool := none
  commands : Option (List String) := none
  deriving DecidableEq

namespace Response

def form (room : Nat) : Form Response where
  name := "Response"
  blank := {}
  complete := false
  fields := [
    .of "ok" bool fun ok response => { response with ok },
    .of "error" (option text) fun error response => { response with error },
    .of "state" (option (GameState.read room)) fun state response => { response with state },
    .of "reward" (option Reward.read) fun reward response => { response with reward },
    .of "done" (option bool) fun done response => { response with done },
    .of "commands" (option (list room text)) fun commands response => { response with commands }]

def decode (line : List Char) : Except EngineError Response :=
  let line := Text.trimChars line
  if line.isEmpty then .error (.protocol .emptyLine)
  else (Json.read (fun room => (form room).read room) line).mapError .malformedJson

def accepted (response : Response) : Except EngineError Response :=
  if response.ok then .ok response
  else .error (.remote (response.error.getD "unspecified failure"))

def requireState (response : Response) : Except EngineError GameState :=
  match response.state with
  | some state => .ok state
  | none => .error (.protocol .missingState)

/-- What an accepted response says to a call. A step without a reward has a neutral one, and without
a word on the end it ends the game when that is won or lost. -/
def reply (response : Response) : (call : Call) → call.Answer
  | .activateTracking | .requestIntermediateRewards => .ok ()
  | .reset => response.requireState
  | .step _ => do
    let state ← response.requireState
    return ⟨state, response.reward.getD .neutral, response.done.getD (state.won || state.lost)⟩
  | .walkthrough =>
    match response.commands with
    | some commands => .ok commands
    | none => .error (.unsupported "walkthrough")

end Response
end TextQuest.Bridge
