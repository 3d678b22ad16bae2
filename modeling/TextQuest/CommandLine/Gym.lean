import TextQuest.Agent.Neural
import TextQuest.Agent.Random
import TextQuest.Agent.Walkthrough
import TextQuest.CommandLine.Surroundings
import TextQuest.Neural.Checkpoint
import TextQuest.Run.Train
import TextQuest.Script.Document
import TextQuest.Script.Session

namespace TextQuest.CommandLine

inductive AgentKind
  | random
  | walkthrough
  | neural
  deriving DecidableEq

structure CommonOptions where
  agent : AgentKind := .random
  maxSteps : Option Nat := none
  engine : Option EngineKind := none
  seed : UInt64 := 42
  checkpoint : Option String := none
  deriving DecidableEq

inductive GymCommand
  | play (game : String) (episodes : Option Nat)
  | train (games : Option String) (epochs : Option Nat) (shuffleSeed : Option UInt64)
  deriving DecidableEq

structure GymLine where
  config : Option String
  command : GymCommand
  common : CommonOptions
  deriving DecidableEq

def AgentKind.ofName? : String → Option AgentKind
  | "random" => some random
  | "walkthrough" => some walkthrough
  | "neural" => some neural
  | _ => none

namespace GymLine

def commonParameters : List Parameter :=
  [{ name := "agent", purpose := "Agent to run", letter := some 'a',
     kind := some (.choice ["random", "walkthrough", "neural"]), usual := some "random" },
   { name := "max-steps", purpose := "Step budget per episode", kind := some .nat32 },
   { name := "engine", purpose := "Engine implementation (overrides the config file)",
     kind := some (.choice ["process", "script"]) },
   { name := "seed", purpose := "Seed of the agent's own randomness", kind := some .nat64,
     usual := some "42" },
   { name := "checkpoint", kind := some .path,
     purpose := "Neural agent checkpoint (loaded if present, written after training)" }]

def playLevel : Level where
  path := ["quest-gym", "play"]
  purpose := "Play one game for several episodes and report averages"
  parameters :=
    [configParameter,
     { name := "game", purpose := "Game file to play", letter := some 'g', kind := some .path,
       isRequired := true },
     { name := "episodes", purpose := "Number of episodes", letter := some 'e',
       kind := some .nat32 }] ++ commonParameters

def trainLevel : Level where
  path := ["quest-gym", "train"]
  purpose := "Train an agent on a set of games"
  parameters :=
    [configParameter,
     { name := "games", purpose := "Glob pattern selecting the training games", kind := some .text },
     { name := "epochs", purpose := "Number of epochs", kind := some .nat32 },
     { name := "shuffle-seed", purpose := "Seed of the per-epoch shuffle", kind := some .nat64 }] ++
    commonParameters

def tool : Tool where
  name := "quest-gym"
  purpose := "Play or train agents on text-adventure games"
  parameters := [configParameter]
  commands := [playLevel, trainLevel]

def engineOf? : String → Option EngineKind
  | "process" => some .program
  | "script" => some .script
  | _ => none

def word64Of? (given : Given) (name : String) : Option UInt64 :=
  ((given.value? name).bind nat64?).map UInt64.ofNat

def commonOf (given : Given) : CommonOptions :=
  let usual : CommonOptions := {}
  { agent := ((given.value? "agent").bind AgentKind.ofName?).getD usual.agent
    maxSteps := (given.value? "max-steps").bind nat32?
    engine := (given.value? "engine").bind engineOf?
    seed := (word64Of? given "seed").getD usual.seed
    checkpoint := given.value? "checkpoint" }

def commandOf (line : Line) : Except Stop GymCommand :=
  match line.command, line.inner.value? "game" with
  | "play", some game => .ok (.play game ((line.inner.value? "episodes").bind nat32?))
  | "train", _ =>
    .ok (.train (line.inner.value? "games") ((line.inner.value? "epochs").bind nat32?)
      (word64Of? line.inner "shuffle-seed"))
  | _, _ => .error .usage

def read {π : Type} (surroundings : Surroundings π) (arguments : List String) :
    Except Stop GymLine := do
  let line ← tool.read arguments
  let command ← commandOf line
  let config ← surroundings.shared configParameter line
  return ⟨config, command, commonOf line.inner⟩

end GymLine

/-- A configuration with the options of a command line in it. The seed of the agent is always that of
the command line. -/
def CommonOptions.apply (common : CommonOptions) (config : Config) : Config :=
  { config with
    engine.kind := common.engine.getD config.engine.kind
    play.maxSteps := common.maxSteps.getD config.play.maxSteps
    train.maxSteps := common.maxSteps.getD config.train.maxSteps
    neural.seed := common.seed }

def GymCommand.apply (config : Config) : GymCommand → Config
  | play _ episodes => { config with play.episodes := episodes.getD config.play.episodes }
  | train games epochs shuffleSeed =>
    { config with
      train.games := games.getD config.train.games
      train.epochs := epochs.getD config.train.epochs
      train.seed := shuffleSeed.getD config.train.seed }

variable {π : Type}

structure Performed (π α β : Type) where
  answer : Except RunError β
  agent : α
  journal : Journal
  programs : List π := []

def Surroundings.perform {α β : Type} (surroundings : Surroundings π) (config : EngineConfig)
    (agent : Agent α) (start : α) (run : Run β) : Performed π α β :=
  let cancelled := surroundings.interrupted
  match config.kind with
  | .script =>
    let engine := Quest.engine (Script.load surroundings.tree)
    let (answer, scene) := run.perform { engine, agent, cancelled } ⟨none, start, []⟩
    { answer, agent := scene.agent, journal := scene.journal }
  | .program =>
    let engine := Bridge.Host.engine surroundings.tree surroundings.program config.program
      config.arguments (surroundings.engine config.program)
    let (answer, scene) := run.perform { engine, agent, cancelled } ⟨{}, start, []⟩
    { answer, agent := scene.agent, journal := scene.journal, programs := scene.engine.programs }

/-- How a command ends whose agent breaks it off: playing is broken off as a whole, and training fails
because its task was. -/
def GymCommand.brokenOff : GymCommand → Exit
  | play .. =>
    { status := some 101
      complaint := "\nthread 'main' panicked:\n" ++ AgentError.tooManyWeights.message ++ "\n" }
  | train .. => .failed "" (Failure.during "training task panicked"
      ⟨"task panicked with message " ++ Text.quoted AgentError.tooManyWeights.message, []⟩)

def loadLearner (surroundings : Surroundings π) (config : Neural.Config Float32)
    (checkpoint : Option String) (command : GymCommand) : Except Exit (Neural.Learner Float32) :=
  match Agent.newLearner surroundings.memory config with
  | .error .tooManyWeights => .error command.brokenOff
  | .error (.outOfMemory weights) =>
    .error { status := none, complaint := (AgentError.outOfMemory weights).message ++ "\n" }
  | .error error => .error
    (.failed "" (Failure.during "invalid neural configuration" ⟨error.message, error.causes⟩))
  | .ok learner =>
    match checkpoint.filter surroundings.tree.hasPath with
    | none => .ok learner
    | some path =>
      match learner.load surroundings.tree path with
      | .ok learner => .ok learner
      | .error error => .error (.failed ""
        (Failure.during ("failed to load checkpoint " ++ path) ⟨error.message, error.causes⟩))

def playGame {α : Type} (surroundings : Surroundings π) (config : Config) (game : String)
    (agent : Agent α) (start : α) : Aftermath π :=
  let run := Run.play agent.name game config.play.maxSteps config.play.episodes
  let ⟨answer, _, journal, programs⟩ := surroundings.perform config.engine agent start run
  let exit := match answer with
    | .ok summary => { output := summary.line ++ "\n" }
    | .error error =>
      Exit.failed "" (Failure.during ("failed to play " ++ game) ⟨error.message, error.causes⟩)
  { exit, tree := surroundings.tree, journal, programs }

def reportText (report : TrainReport) : String :=
  (if report.interrupted then "Keyboard interrupt.\n" else "") ++
    s!"{report.progress.length} episodes over {report.epochsCompleted} epochs; " ++
    s!"total reward {report.totalReward}.\n"

def trainAgent {α : Type} (surroundings : Surroundings π) (config : Config) (agent : Agent α)
    (start : α) (keep : α → Except Failure FileTree) : Aftermath π :=
  let run := Run.train agent.name config.train surroundings.tree
  let ⟨answer, trained, journal, programs⟩ := surroundings.perform config.engine agent start run
  match answer with
  | .error error =>
    { exit := .failed "" (Failure.during "training failed" ⟨error.message, error.causes⟩)
      tree := surroundings.tree, journal, programs }
  | .ok report =>
    match keep trained with
    | .ok tree => { exit := { output := reportText report }, tree, journal, programs }
    | .error failure => { exit := .failed "" failure, tree := surroundings.tree, journal, programs }

def keepLearner (tree : FileTree) (checkpoint : Option String) (learner : Neural.Learner Float32) :
    Except Failure FileTree :=
  match checkpoint with
  | none => .ok tree
  | some path =>
    match learner.save tree path with
    | .ok tree => .ok tree
    | .error error => .error
      (Failure.during ("failed to save checkpoint " ++ path) ⟨error.message, error.causes⟩)

def runCommand {α : Type} (surroundings : Surroundings π) (config : Config) (command : GymCommand)
    (agent : Agent α) (start : α) (keep : α → Except Failure FileTree) : Aftermath π :=
  match command with
  | .play game _ => playGame surroundings config game agent start
  | .train .. => trainAgent surroundings config agent start keep

def GymLine.run (surroundings : Surroundings π) (line : GymLine) : Aftermath π :=
  let run {α : Type} (config : Config) (agent : Agent α) (start : α)
      (keep : α → Except Failure FileTree) : Aftermath π :=
    runCommand surroundings config line.command agent start keep
  match surroundings.config line.config with
  | .error failure => surroundings.ending (.failed "" failure)
  | .ok config =>
    let config := line.command.apply (line.common.apply config)
    match line.common.agent with
    | .random =>
      run config Agent.random (.ofSeed line.common.seed) fun _ => .ok surroundings.tree
    | .walkthrough => run config Agent.walkthrough {} fun _ => .ok surroundings.tree
    | .neural =>
      match loadLearner surroundings config.neural line.common.checkpoint line.command with
      | .error exit => surroundings.ending exit
      | .ok learner =>
        run config Agent.neural learner (keepLearner surroundings.tree line.common.checkpoint)

def questGym (surroundings : Surroundings π) (arguments : List String) : Aftermath π :=
  match GymLine.read surroundings arguments with
  | .error stop => surroundings.ending (surroundings.stopped GymLine.tool stop)
  | .ok line => line.run surroundings

end TextQuest.CommandLine
