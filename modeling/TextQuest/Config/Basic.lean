import TextQuest.Failure
import TextQuest.Neural.Config
import TextQuest.Run.Train

namespace TextQuest

inductive EngineKind
  | program
  | script
  deriving DecidableEq

structure EngineConfig where
  kind : EngineKind := .program
  program : String := "tw-bridge"
  arguments : List String := []
  deriving DecidableEq

structure PlayConfig where
  maxSteps : Nat := 100
  episodes : Nat := 10
  deriving DecidableEq

structure MakeConfig where
  program : String := "tw-make"
  deriving DecidableEq

structure Config where
  engine : EngineConfig := {}
  play : PlayConfig := {}
  train : TrainConfig := {}
  neural : Neural.Config Float32 := .standard
  make : MakeConfig := {}

inductive ConfigError
  | file (path : String) (error : FileError)
  | malformedRon
  | invalid (error : AgentError)
  deriving DecidableEq

namespace ConfigError

def message : ConfigError → String
  | file path error => "IO error reading " ++ Text.quoted path ++ ": " ++ error.message
  | malformedRon => "RON deserialization error: " ++ malformedDocument
  | invalid error => "invalid configuration: " ++ error.message

def causes : ConfigError → List String
  | file _ error => [error.message]
  | malformedRon => [malformedDocument]
  | invalid _ => []

end ConfigError

end TextQuest
