import TextQuest.Json.Parser
import TextQuest.Json.Printer
import TextQuest.Session

namespace TextQuest.Bridge
open Json

inductive Request
  | call (call : Call)
  | close
  deriving DecidableEq

namespace Request

def op : Request → String
  | call .activateTracking => "activate_state_tracking"
  | call .requestIntermediateRewards => "compute_intermediate_reward"
  | call .reset => "reset"
  | call (.step _) => "step"
  | call .walkthrough => "walkthrough"
  | close => "close"

def toJson (request : Request) : Value :=
  match request with
  | call (.step command) =>
    .object [("op", .text request.op), ("command", .text command)]
  | _ => .object [("op", .text request.op)]

def encode (request : Request) : List Char := render request.toJson ++ ['\n']

def ofOp? : String → Option Request
  | "activate_state_tracking" => some (.call .activateTracking)
  | "compute_intermediate_reward" => some (.call .requestIntermediateRewards)
  | "reset" => some (.call .reset)
  | "walkthrough" => some (.call .walkthrough)
  | "close" => some .close
  | _ => none

def single? (members : List (String × Value)) (name : String) : Option Value :=
  match members.filter (·.1 = name) with
  | [(_, found)] => some found
  | _ => none

def ofMembers? (members : List (String × Value)) : Option Request := do
  let word ← (← single? members "op").string?
  if word = "step" then
    return .call (.step (← (← single? members "command").string?))
  else ofOp? word

def ofItems? : List Value → Option Request
  | [word] => do ofOp? (← word.string?)
  | [word, command] => do
    if (← word.string?) = "step" then return .call (.step (← command.string?)) else none
  | _ => none

def ofJson? : Value → Option Request
  | .object members => ofMembers? members
  | .array items => ofItems? items
  | _ => none

/-- Reads the line of a request. All of it has to make sense, since the word may stand last. -/
def decode? (line : List Char) : Option Request := (Json.read value line).toOption.bind ofJson?

end Request
end TextQuest.Bridge
