import TextQuest.CommandLine.Gym
import TextQuest.Proofs.CommandLine.Scanning

namespace TextQuest.CommandLine

def word64? (text : String) : Option UInt64 := (nat64? text).map UInt64.ofNat

structure Follows {α : Type} (arguments : List String) (keys : List Key) (meaning? : String → Option α)
    (file effective : α) : Prop where
  given : ∀ value, GivenBy keys value arguments → meaning? value = some effective
  missing : (∀ value, ¬ GivenBy keys value arguments) → effective = file

/-- Every setting is what its option says or else the file's, and so is the seed of the learner with
`seed` in place of the file's. -/
structure Overrides (arguments : List String) (file effective : Config) (seed : UInt64) : Prop where
  engine : Follows arguments [.name "engine"] GymLine.engineOf? file.engine.kind effective.engine.kind
  playSteps : Follows arguments [.name "max-steps"] nat32? file.play.maxSteps effective.play.maxSteps
  trainSteps : Follows arguments [.name "max-steps"] nat32? file.train.maxSteps effective.train.maxSteps
  episodes : Follows arguments [.name "episodes", .letter 'e'] nat32? file.play.episodes
    effective.play.episodes
  games : Follows arguments [.name "games"] some file.train.games effective.train.games
  epochs : Follows arguments [.name "epochs"] nat32? file.train.epochs effective.train.epochs
  shuffleSeed : Follows arguments [.name "shuffle-seed"] word64? file.train.seed effective.train.seed
  seed : Follows arguments [.name "seed"] word64? seed effective.neural.seed
  others : effective = { file with
    engine.kind := effective.engine.kind, play := effective.play, train := effective.train,
    neural.seed := effective.neural.seed }

def Given.setting {α : Type} (given : Given) (name : String) (meaning? : String → Option α)
    (usual : α) : α :=
  ((given.value? name).bind meaning?).getD usual

def Given.settings (given : Given) (file : Config) : Config where
  engine := { file.engine with kind := given.setting "engine" GymLine.engineOf? file.engine.kind }
  play.maxSteps := given.setting "max-steps" nat32? file.play.maxSteps
  play.episodes := given.setting "episodes" nat32? file.play.episodes
  train.games := given.setting "games" some file.train.games
  train.maxSteps := given.setting "max-steps" nat32? file.train.maxSteps
  train.epochs := given.setting "epochs" nat32? file.train.epochs
  train.seed := given.setting "shuffle-seed" word64? file.train.seed
  neural := { file.neural with seed := given.setting "seed" word64? 42 }
  make := file.make

namespace GymLine

variable {π : Type}

def effective (line : GymLine) (file : Config) : Config := line.command.apply (line.common.apply file)

/-- A line without its options for settings. The seed stays, since it is also that of an agent that
chooses at random. -/
def bare (line : GymLine) : GymLine where
  config := none
  command := match line.command with
    | .play game _ => .play game none
    | .train .. => .train none none none
  common := { line.common with maxSteps := none, engine := none }

def carryOut (surroundings : Surroundings π) (line : GymLine) (settings : Config) : Aftermath π :=
  let run {α : Type} (agent : Agent α) (start : α) (keep : α → Except Failure FileTree) : Aftermath π :=
    runCommand surroundings settings line.command agent start keep
  match line.common.agent with
  | .random => run Agent.random (.ofSeed line.common.seed) fun _ => .ok surroundings.tree
  | .walkthrough => run Agent.walkthrough {} fun _ => .ok surroundings.tree
  | .neural =>
    match loadLearner surroundings settings.neural line.common.checkpoint line.command with
    | .error exit => surroundings.ending exit
    | .ok learner => run Agent.neural learner (keepLearner surroundings.tree line.common.checkpoint)

theorem run_eq {surroundings : Surroundings π} {line : GymLine} {file : Config}
    (accepted : Config.loadOrDefault surroundings.tree line.config = .ok file) :
    line.run surroundings = line.bare.carryOut surroundings (line.effective file) := by
  obtain ⟨config, command, common⟩ := line
  simp only [run, Surroundings.config, accepted]
  cases command <;> rfl

theorem follows {α : Type} {name : String} {keys : List Key} {kind : ValueKind}
    {meaning? : String → Option α} {arguments : List String} {line : Line}
    (knows : tool.Knows name keys kind) (means : ∀ value, kind.accepts value → (meaning? value).isSome)
    (read : tool.read arguments = .ok line) (file : α) :
    Follows arguments keys meaning? file (line.inner.setting name meaning? file) where
  given := by
    intro value given
    have held := (knows.value?_iff read).mpr given
    obtain ⟨meant, means⟩ := Option.isSome_iff_exists.mp (means value (knows.accepts_value read held))
    simp [Given.setting, held, means]
  missing := by
    intro missing
    cases held : line.inner.value? name with
    | none => simp [Given.setting, held]
    | some value => exact absurd ((knows.value?_iff read).mp held) (missing value)

theorem overrides_settings {arguments : List String} {line : Line}
    (read : tool.read arguments = .ok line) (file : Config) :
    Overrides arguments file (line.inner.settings file) 42 := by
  have text : ∀ value, ValueKind.text.accepts value → (some value).isSome := by simp
  have number : ∀ value, ValueKind.nat32.accepts value → (nat32? value).isSome := fun _ => id
  have word : ∀ value, ValueKind.nat64.accepts value → (word64? value).isSome := by
    simp [ValueKind.accepts, word64?]
  have engine : ∀ value, (ValueKind.choice ["process", "script"]).accepts value →
      (engineOf? value).isSome := by
    intro value accepts
    obtain rfl | rfl : value = "process" ∨ value = "script" := by
      simpa [ValueKind.accepts] using accepts
    all_goals rfl
  exact {
    engine := follows (by constructor <;> decide) engine read file.engine.kind
    playSteps := follows (by constructor <;> decide) number read file.play.maxSteps
    trainSteps := follows (by constructor <;> decide) number read file.train.maxSteps
    episodes := follows (by constructor <;> decide) number read file.play.episodes
    games := follows (by constructor <;> decide) text read file.train.games
    epochs := follows (by constructor <;> decide) number read file.train.epochs
    shuffleSeed := follows (by constructor <;> decide) word read file.train.seed
    seed := follows (by constructor <;> decide) word read 42
    others := rfl }

theorem commandOf_ok {line : Line} {command : GymCommand} (made : commandOf line = .ok command) :
    (line.command = "play" ∧ ∃ game,
      command = .play game ((line.inner.value? "episodes").bind nat32?)) ∨
    (line.command = "train" ∧
      command = .train (line.inner.value? "games") ((line.inner.value? "epochs").bind nat32?)
        (word64Of? line.inner "shuffle-seed")) := by
  unfold commandOf at made
  split at made
  next game play _ =>
    cases made
    exact .inl ⟨play, game, rfl⟩
  next train =>
    cases made
    exact .inr ⟨train, rfl⟩
  next => cases made

theorem word64Of?_eq (given : Given) (name : String) :
    word64Of? given name = (given.value? name).bind word64? :=
  Option.map_bind

theorem effective_eq {arguments : List String} {line : Line} {gym : GymLine}
    (read : tool.read arguments = .ok line) (command : commandOf line = .ok gym.command)
    (common : gym.common = commonOf line.inner) (file : Config) :
    gym.effective file = line.inner.settings file := by
  rcases commandOf_ok command with ⟨named, game, command⟩ | ⟨named, command⟩
  · have games : line.inner.value? "games" = none :=
      Tool.value?_eq_none read (by rw [named]; decide)
    have epochs : line.inner.value? "epochs" = none :=
      Tool.value?_eq_none read (by rw [named]; decide)
    have seed : line.inner.value? "shuffle-seed" = none :=
      Tool.value?_eq_none read (by rw [named]; decide)
    simp [effective, command, common, GymCommand.apply, CommonOptions.apply, commonOf, Given.settings,
      Given.setting, word64Of?_eq, games, epochs, seed]
  · have episodes : line.inner.value? "episodes" = none :=
      Tool.value?_eq_none read (by rw [named]; decide)
    simp [effective, command, common, GymCommand.apply, CommonOptions.apply, commonOf, Given.settings,
      Given.setting, word64Of?_eq, episodes]

theorem read_ok {surroundings : Surroundings π} {arguments : List String} {gym : GymLine}
    (read : GymLine.read surroundings arguments = .ok gym) :
    ∃ line, tool.read arguments = .ok line ∧ commandOf line = .ok gym.command ∧
      gym.common = commonOf line.inner := by
  obtain ⟨line, started, read⟩ := exists_of_bind read
  obtain ⟨command, named, read⟩ := exists_of_bind read
  obtain ⟨config, -, same⟩ := exists_of_bind read
  cases same
  exact ⟨line, started, named, rfl⟩

end GymLine

def Surroundings.withConfig (text : String) : Surroundings Unit where
  tree := ⟨[(["gym.ron"], .file text.toUTF8)]⟩
  environment := fun _ => none
  program := ⟨fun _ state => (⟨[], true⟩, state)⟩
  engine := fun _ => .missing .notFound
  generator := fun _ => .missing .notFound
  random := .ofSeed 0

theorem options_override_file_but_not_its_seed {π : Type} {surroundings : Surroundings π}
    {arguments : List String} {line : GymLine} {file : Config}
    (read : GymLine.read surroundings arguments = .ok line)
    (accepted : Config.loadOrDefault surroundings.tree line.config = .ok file) :
    questGym surroundings arguments = line.bare.carryOut surroundings (line.effective file) ∧
      Overrides arguments file (line.effective file) 42 := by
  obtain ⟨whole, started, command, common⟩ := GymLine.read_ok read
  constructor
  · rw [questGym, read]
    exact GymLine.run_eq accepted
  · rw [GymLine.effective_eq started command common]
    exact GymLine.overrides_settings started file

theorem options_of_play_override_its_file :
    let surroundings := Surroundings.withConfig "(play: (max_steps: 7))"
    let arguments := ["-cgym.ron", "play", "--game=hall.ron", "-e", "3", "--seed", "9"]
    let line : GymLine := ⟨some "gym.ron", .play "hall.ron" (some 3), { seed := 9 }⟩
    GymLine.read surroundings arguments = .ok line ∧
      ∃ file, Config.loadOrDefault surroundings.tree line.config = .ok file ∧
        (line.effective file).play = ⟨7, 3⟩ ∧ (line.effective file).neural.seed = 9 ∧
        questGym surroundings arguments = line.bare.carryOut surroundings (line.effective file) ∧
        Overrides arguments file (line.effective file) 42 := by
  intro surroundings arguments line
  have read : GymLine.read surroundings arguments = .ok line := ok_of_toOption (by decide +kernel)
  have steps : (Config.loadOrDefault surroundings.tree line.config).toOption.map (·.play.maxSteps) =
      some 7 := by decide +kernel
  obtain ⟨file, found, steps⟩ := Option.map_eq_some_iff.mp steps
  have accepted := ok_of_toOption found
  refine ⟨read, file, accepted, ?_, rfl, options_override_file_but_not_its_seed read accepted⟩
  simp [GymLine.effective, line, GymCommand.apply, CommonOptions.apply, steps]

theorem seed_of_file_is_not_followed :
    let surroundings := Surroundings.withConfig "(neural: (seed: 7))"
    let arguments := ["--config", "gym.ron", "train", "--agent", "neural"]
    let line : GymLine := ⟨some "gym.ron", .train none none none, { agent := .neural }⟩
    GymLine.read surroundings arguments = .ok line ∧
      ∃ file, Config.loadOrDefault surroundings.tree line.config = .ok file ∧
        ¬ Overrides arguments file (line.effective file) file.neural.seed := by
  intro surroundings arguments line
  have read : GymLine.read surroundings arguments = .ok line := ok_of_toOption (by decide +kernel)
  have seed : (Config.loadOrDefault surroundings.tree line.config).toOption.map (·.neural.seed) =
      some 7 := by decide +kernel
  obtain ⟨file, found, seed⟩ := Option.map_eq_some_iff.mp seed
  refine ⟨read, file, ok_of_toOption found, fun overrides => ?_⟩
  have missing : ∀ value, ¬ GivenBy [.name "seed"] value arguments := by
    intro value given
    have unnamed : ∀ argument ∈ arguments, ¬ ("--" ++ "seed").toList <+: argument.toList := by decide
    obtain ⟨argument, member, begins⟩ := given.exists_prefix
    exact unnamed argument member begins
  have usual : (line.effective file).neural.seed = 42 := rfl
  have followed : (line.effective file).neural.seed = 7 := seed ▸ overrides.seed.missing missing
  simp [usual] at followed

end TextQuest.CommandLine
