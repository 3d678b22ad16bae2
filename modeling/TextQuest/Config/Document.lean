import TextQuest.Config.Basic
import TextQuest.Ron.Decode

namespace TextQuest
open Ron

def EngineKind.ofRon? : Value → Option EngineKind
  | .variant "Process" => some program
  | .variant "Script" => some script
  | _ => none

namespace EngineConfig

def shape : Shape :=
  .record "EngineConfig" [("kind", .variant), ("program", .text), ("args", .list .text)]

def ofRon? (v : Value) : Option EngineConfig := do
  let fields ← v.fields?
  return {
    kind := ← fields.optional "kind" EngineKind.ofRon? .program
    program := ← fields.optional "program" Value.string? "tw-bridge"
    arguments := ← fields.optional "args" (Value.list? Value.string?) [] }

end EngineConfig

namespace PlayConfig

def shape : Shape := .record "PlayConfig" [("max_steps", .nat32), ("nb_episodes", .nat32)]

def ofRon? (v : Value) : Option PlayConfig := do
  let fields ← v.fields?
  let default : PlayConfig := {}
  return {
    maxSteps := ← fields.optional "max_steps" Value.nat? default.maxSteps
    episodes := ← fields.optional "nb_episodes" Value.nat? default.episodes }

end PlayConfig

namespace TrainConfig

def shape : Shape :=
  .record "TrainConfig"
    [("games", .text), ("max_steps", .nat32), ("nb_epochs", .nat32), ("seed", .nat64)]

def ofRon? (v : Value) : Option TrainConfig := do
  let fields ← v.fields?
  let default : TrainConfig := {}
  return {
    games := ← fields.optional "games" Value.string? default.games
    maxSteps := ← fields.optional "max_steps" Value.nat? default.maxSteps
    epochs := ← fields.optional "nb_epochs" Value.nat? default.epochs
    seed := ← fields.optional "seed" Value.word64? default.seed }

end TrainConfig

namespace Neural.Config

def shape : Shape :=
  .record "NeuralConfig"
    [("feature_dim", .nat64), ("learning_rate", .single), ("gamma", .single),
      ("entropy_coef", .single), ("value_coef", .single), ("update_frequency", .nat64),
      ("log_frequency", .nat64), ("seed", .nat64)]

def ofRon? (v : Value) : Option (Neural.Config Float32) := do
  let fields ← v.fields?
  let default : Neural.Config Float32 := .standard
  return {
    featureDim := ← fields.optional "feature_dim" Value.nat? default.featureDim
    learningRate := ← fields.optional "learning_rate" Value.single? default.learningRate
    gamma := ← fields.optional "gamma" Value.single? default.gamma
    entropyCoef := ← fields.optional "entropy_coef" Value.single? default.entropyCoef
    valueCoef := ← fields.optional "value_coef" Value.single? default.valueCoef
    updateFrequency := ← fields.optional "update_frequency" Value.nat? default.updateFrequency
    logFrequency := ← fields.optional "log_frequency" Value.nat? default.logFrequency
    seed := ← fields.optional "seed" Value.word64? default.seed }

end Neural.Config

namespace MakeConfig

def shape : Shape := .record "MakeConfig" [("program", .text)]

def ofRon? (v : Value) : Option MakeConfig := do
  let fields ← v.fields?
  return { program := ← fields.optional "program" Value.string? "tw-make" }

end MakeConfig

namespace Config

def shape : Shape :=
  .record "GymConfig"
    [("engine", EngineConfig.shape), ("play", PlayConfig.shape), ("train", TrainConfig.shape),
      ("neural", Neural.Config.shape), ("make", MakeConfig.shape)]

def ofRon? (v : Value) : Option Config := do
  let fields ← v.fields?
  return {
    engine := ← fields.optional "engine" EngineConfig.ofRon? {}
    play := ← fields.optional "play" PlayConfig.ofRon? {}
    train := ← fields.optional "train" TrainConfig.ofRon? {}
    neural := ← fields.optional "neural" Neural.Config.ofRon? .standard
    make := ← fields.optional "make" MakeConfig.ofRon? {} }

def parse (text : String) : Except ConfigError Config :=
  match (Ron.parse? shape text.toList).bind ofRon? with
  | none => .error .malformedRon
  | some config =>
    match config.neural.validate with
    | .ok () => .ok config
    | .error error => .error (.invalid error)

def load (tree : FileTree) (path : String) : Except ConfigError Config :=
  match tree.readText path with
  | .error error => .error (.file path error)
  | .ok text => parse text

def loadOrDefault (tree : FileTree) : Option String → Except ConfigError Config
  | some path => load tree path
  | none => .ok {}

end Config
end TextQuest
