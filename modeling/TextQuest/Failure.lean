import TextQuest.Glob.Search
import TextQuest.Json.Fault

namespace TextQuest
open Text

inductive ProtocolFault
  | emptyLine
  | outputClosed
  | missingState
  deriving DecidableEq

def ProtocolFault.message : ProtocolFault → String
  | emptyLine => "empty response line"
  | outputClosed => "engine closed its output"
  | missingState => "response is missing `state`"

inductive EngineError
  | startFailed (game reason : String)
  | remote (complaint : String)
  | protocol (fault : ProtocolFault)
  | closed
  | unsupported (call : String)
  | gameOver
  | emptyScript
  | file (error : FileError)
  | malformedJson (complaint : Json.Complaint)
  | malformedRon
  deriving DecidableEq

def malformedDocument : String := "malformed document"

namespace EngineError

def message : EngineError → String
  | startFailed game reason => "failed to start game " ++ quoted game ++ ": " ++ reason
  | remote complaint => "engine reported an error: " ++ complaint
  | protocol fault => "engine protocol error: " ++ fault.message
  | closed => "session is closed"
  | unsupported call => "session does not support " ++ call
  | gameOver => "step called on a finished game"
  | emptyScript => "script has no stages"
  | file error => "IO error: " ++ error.message
  | malformedJson complaint => "JSON error: " ++ complaint.message
  | malformedRon => "RON deserialization error: " ++ malformedDocument

def causes : EngineError → List String
  | file error => [error.message]
  | malformedJson complaint => [complaint.message]
  | malformedRon => [malformedDocument]
  | _ => []

end EngineError

inductive AgentError
  | noAdmissibleCommands
  | walkthroughExhausted (issued : Nat)
  | engine (error : EngineError)
  | file (error : FileError)
  | malformedRon
  | checkpointMismatch (expected policy value : Nat)
  | noFeatures
  /-- The weights of a learner would not even have addresses. This breaks off what is being done. -/
  | tooManyWeights
  /-- There is no memory for so many weights of each kind. This stops the program. -/
  | outOfMemory (weights : Nat)
  deriving DecidableEq

namespace AgentError

def message : AgentError → String
  | noAdmissibleCommands => "no admissible commands; was state tracking activated?"
  | walkthroughExhausted issued => s!"walkthrough exhausted after {issued} commands"
  | engine error => "engine error: " ++ error.message
  | file error => "IO error: " ++ error.message
  | malformedRon => "RON deserialization error: " ++ malformedDocument
  | checkpointMismatch expected policy value =>
    "checkpoint does not fit this agent: " ++
      s!"expected {expected} weights, found {policy} policy and {value} value"
  | noFeatures => "invalid agent configuration: feature_dim must be at least 1"
  | tooManyWeights => "capacity overflow"
  | outOfMemory weights => s!"memory allocation of {4 * weights} bytes failed"

def causes : AgentError → List String
  | engine error => error.message :: error.causes
  | file error => [error.message]
  | malformedRon => [malformedDocument]
  | _ => []

end AgentError

inductive RunError
  | engine (error : EngineError)
  | agent (error : AgentError)
  | pattern (error : Glob.PatternError)
  | unlisted (found : Glob.Unlisted)
  | noGames (pattern : String)
  deriving DecidableEq

namespace RunError

def message : RunError → String
  | engine error => "engine error: " ++ error.message
  | agent error => "agent error: " ++ error.message
  | pattern error => "invalid game pattern: " ++ error.message
  | unlisted found => "cannot read game path: " ++ found.message
  | noGames wanted => "no game files match " ++ quoted wanted

def causes : RunError → List String
  | engine error => error.message :: error.causes
  | agent error => error.message :: error.causes
  | pattern error => [error.message]
  | unlisted found => [found.message]
  | noGames _ => []

end RunError
end TextQuest
