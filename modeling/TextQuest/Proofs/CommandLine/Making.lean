import TextQuest.CommandLine.Make
import TextQuest.Proofs.Agent.Choice
import TextQuest.Proofs.CommandLine.Scanning

namespace TextQuest.CommandLine

open Generation

/-! ## Values of options -/

namespace Level

variable {level : Level} {given after : Given}

theorem values_addSwitch {key : Key} {attached : Option String}
    (added : level.addSwitch given key attached = .ok after) : after.values = given.values := by
  unfold addSwitch Given.addSwitch at added
  split at added
  · cases added
  · cases added
  · cases added
  · cases added
  · split at added
    · split at added <;> cases added
      rfl
    · cases added
  · cases added

theorem values_addOperand {value : String} (added : level.addOperand given value = .ok after) :
    after.values = given.values := by
  unfold addOperand at added
  split at added
  · split at added <;> cases added
    rfl
  · cases added

theorem values_operands {values : List String} (added : values.foldlM level.addOperand given = .ok after) :
    after.values = given.values := by
  induction values generalizing given with
  | nil => cases added; rfl
  | cons value values ih =>
    obtain ⟨next, first, added⟩ := exists_of_bind added
    rw [ih added, values_addOperand first]

theorem accepts_of_read {arguments : List String} (read : level.read arguments given = .ok after)
    {name value : String} (held : after.value? name = some value) :
    given.value? name = some value ∨
      ∃ parameter ∈ level.parameters, ∃ kind, parameter.name = name ∧ parameter.kind = some kind ∧
        kind.accepts value := by
  have takes {given : Given} {key : Key} {other first : String} {kind : ValueKind}
      (valued : level.valued? key = some (other, kind)) (accepts : kind.accepts first)
      (held : (given.hold other first).value? name = some value) :
      given.value? name = some value ∨
        ∃ parameter ∈ level.parameters, ∃ kind, parameter.name = name ∧ parameter.kind = some kind ∧
          kind.accepts value := by
    rcases Given.value?_of_hold held with ⟨rfl, rfl⟩ | held
    · obtain ⟨parameter, listed, called, kind_of, -⟩ := parameter_of_valued valued
      exact .inr ⟨parameter, listed, kind, called, kind_of, accepts⟩
    · exact .inl held
  fun_induction Level.read level arguments given with
  | case1 =>
    cases read
    exact .inl held
  | case2 argument rest given divides =>
    rw [Given.value?, values_operands read] at held
    exact .inl held
  | case3 argument rest given plain known =>
    cases read
    exact .inl held
  | case4 argument rest given plain unknown ih =>
    obtain ⟨next, added, read⟩ := exists_of_bind read
    have kept := ih next read
    rwa [Given.value?, values_addOperand added] at kept
  | case5 argument given key attached rest unvalued option ih =>
    obtain ⟨next, added, read⟩ := exists_of_bind read
    have kept := ih next read
    rwa [Given.value?, values_addSwitch added] at kept
  | case6 argument given key name kind value rest valued option ih =>
    obtain ⟨next, added, read⟩ := exists_of_bind read
    obtain ⟨accepts, -, rfl⟩ := Given.addValue_ok added
    exact (ih _ read).elim (takes valued accepts) .inr
  | case7 => contradiction
  | case8 argument given key name kind value rest valued plain option ih =>
    obtain ⟨next, added, read⟩ := exists_of_bind read
    obtain ⟨accepts, -, rfl⟩ := Given.addValue_ok added
    exact (ih _ read).elim (takes valued accepts) .inr
  | case9 => contradiction

end Level

/-! ## From the command line to the generator -/

variable {π : Type}

structure Asks (surroundings : Surroundings π) (arguments : List String) (line : MakeLine)
    (program : String) (request : Request) : Prop where
  read : MakeLine.read surroundings arguments = .ok line
  configured : ∃ config, Config.loadOrDefault surroundings.tree line.config = .ok config ∧
    line.program.getD config.make.program = program
  accepted : Request.new line.kind line.options surroundings.random = .ok request

def Makes (surroundings : Surroundings π) (program : String) (request : Request) (path : String) : Prop :=
  ∃ finished, (request.attempt program).start (surroundings.generator program) = .ok finished ∧
    finished.status = 0 ∧ generatedPath? (Text.decodeLossy finished.output) = some path

def Seeds (line : Line) (seed : UInt64) : Prop :=
  match line.inner.value? "seed" with
  | some text => nat64? text = some seed.toNat
  | none => seed.toNat < 65635

/-- What the log says of a note that it hides unless the environment has it shown. -/
inductive Logs (surroundings : Surroundings π) (note : Note) : String → Prop
  | shown {setting : String} {lets : Note → Bool} (set : surroundings.environment "RUST_LOG" = some setting)
      (read : surroundings.log.filter? setting = some lets) (shows : lets note = true) :
      Logs surroundings note (surroundings.log.written note)
  | hidden (hides : ∀ setting lets, surroundings.environment "RUST_LOG" = some setting →
      surroundings.log.filter? setting = some lets → lets note = false) : Logs surroundings note ""

structure Tried (surroundings : Surroundings π) (arguments : List String) (program : String)
    (request : Request) (after : Aftermath π) : Prop where
  attempts : after.attempts = [⟨program, request.arguments⟩]
  told : ["--seed", toString request.seed] <:+: request.arguments
  seeds : ∃ line, MakeLine.tool.read arguments = .ok line ∧ Seeds line request.seed
  printed : ∃ logged, Logs surroundings (makeNote program request) logged ∧
    (∀ path, Makes surroundings program request path → after.exit.status = some 0 ∧
      after.exit.output = s!"Global seed: {request.seed}\n" ++ logged ++ "Game generated: " ++ path ++ "\n") ∧
    ((∀ path, ¬ Makes surroundings program request path) → after.exit.status = some 1 ∧
      after.exit.output = s!"Global seed: {request.seed}\n" ++ logged)

structure Refused (surroundings : Surroundings π) (arguments : List String) (after : Aftermath π) :
    Prop where
  attempts : after.attempts = []
  output : after.exit.output = ""
  unread : (∃ stop, MakeLine.read surroundings arguments = .error stop) → after.exit.status = some 2
  otherwise : (∃ line, MakeLine.read surroundings arguments = .ok line) → after.exit.status = some 1

def HangsOnAttempts (surroundings : Surroundings π) (arguments : List String) : Prop :=
  ∀ generator : String → Installed Finished,
    (∀ attempt ∈ (makeGame surroundings arguments).attempts,
      attempt.start (generator attempt.program) =
        attempt.start (surroundings.generator attempt.program)) →
    makeGame { surroundings with generator } arguments = makeGame surroundings arguments

theorem makeGame_of_asks {surroundings : Surroundings π} {arguments : List String} {line : MakeLine}
    {program : String} {request : Request} (asks : Asks surroundings arguments line program request) :
    makeGame surroundings arguments = makeRequested surroundings program request := by
  obtain ⟨read, ⟨config, loaded, rfl⟩, accepted⟩ := asks
  simp only [makeGame, read, MakeLine.run, Surroundings.config, loaded, accepted]

theorem MakeLine.read_ok {surroundings : Surroundings π} {arguments : List String} {made : MakeLine}
    (read : MakeLine.read surroundings arguments = .ok made) :
    ∃ line, tool.read arguments = .ok line ∧ made.options = optionsOf line.inner := by
  obtain ⟨line, started, read⟩ := exists_of_bind read
  obtain ⟨kind, -, read⟩ := exists_of_bind read
  obtain ⟨config, -, read⟩ := exists_of_bind read
  obtain ⟨program, -, same⟩ := exists_of_bind read
  cases same
  exact ⟨line, started, rfl⟩

theorem toNat_of_nat64 {text : String} {n : Nat} (number : nat64? text = some n) :
    (UInt64.ofNat n).toNat = n := by
  obtain ⟨-, below⟩ := Option.filter_eq_some_iff.mp number
  have small : n < Nat.pow 2 64 := by simpa using below
  exact UInt64.toNat_ofNat_of_lt small

theorem seeds_chosen {arguments : List String} {line : Line} (read : MakeLine.tool.read arguments = .ok line)
    (random : Random.Generator) :
    Seeds line (Request.chooseSeed (MakeLine.optionsOf line.inner) random) := by
  obtain ⟨rest, level, member, -, -, -, finished⟩ := Tool.read_ok read
  unfold Seeds
  cases held : line.inner.value? "seed" with
  | none =>
    have drawn : (random.below seedBound).1 < seedBound := random.below_lt (by decide)
    have below : (random.below seedBound).1 % 2 ^ 64 < 65635 :=
      Nat.lt_of_le_of_lt (Nat.mod_le _ _) drawn
    simpa [Request.chooseSeed, MakeLine.optionsOf, held] using below
  | some text =>
    have known : ∀ level ∈ MakeLine.tool.commands, ∀ parameter ∈ level.parameters,
        parameter.name = "seed" → parameter.kind = some .nat64 := by decide
    rcases Level.accepts_of_read finished held with nothing | ⟨parameter, listed, kind, called, kind_of, accepts⟩
    · cases nothing
    · obtain rfl : kind = .nat64 := by simpa [kind_of] using known level member parameter listed called
      obtain ⟨n, number⟩ := Option.isSome_iff_exists.mp accepts
      simp [Request.chooseSeed, MakeLine.optionsOf, held, number, toNat_of_nat64 number]

theorem chooses_seed {kind : Kind} {options : Options} {random : Random.Generator} {request : Request}
    (accepted : Request.new kind options random = .ok request) :
    request.seed = Request.chooseSeed options random := by
  obtain ⟨-, -, accepted⟩ := exists_of_bind accepted
  obtain ⟨-, -, same⟩ := exists_of_bind accepted
  cases same
  rfl

theorem seed_told (request : Request) : ["--seed", toString request.seed] <:+: request.arguments := by
  simp only [Request.arguments, List.append_assoc]
  exact List.infix_append_of_infix_right (List.infix_append_of_infix_right List.infix_append_left)

theorem makes_of_make {surroundings : Surroundings π} {program : String} {request : Request}
    {game : MadeGame} (made : make program (surroundings.generator program) request = .ok game) :
    Makes surroundings program request game.path := by
  unfold make at made
  split at made
  · cases made
  · rename_i finished started
    refine ⟨finished, started, ?_⟩
    unfold Finished.game at made
    split at made
    · cases made
    · rename_i success
      split at made
      · rename_i path found
        cases made
        exact ⟨Decidable.not_not.mp success, found⟩
      · cases made

theorem make_of_makes {surroundings : Surroundings π} {program : String} {request : Request}
    {path : String} (makes : Makes surroundings program request path) :
    make program (surroundings.generator program) request = .ok ⟨request.seed, path⟩ := by
  obtain ⟨finished, started, success, found⟩ := makes
  simp [make, started, Finished.game, success, found]

theorem logs_logged (surroundings : Surroundings π) {usual : Note.Level} {note : Note}
    (quiet : usual.shows note = false) : Logs surroundings note (surroundings.logged usual note) := by
  unfold Surroundings.logged
  dsimp only
  cases found : (surroundings.environment "RUST_LOG").bind surroundings.log.filter? with
  | none =>
    rw [Option.getD_none, if_neg (Bool.eq_false_iff.mp quiet)]
    exact .hidden fun setting lets set read => by simp [set, read] at found
  | some lets =>
    obtain ⟨setting, set, read⟩ := Option.bind_eq_some_iff.mp found
    rw [Option.getD_some]
    split
    · rename_i shows
      exact .shown set read shows
    · rename_i hides
      refine .hidden fun other others set' read' => ?_
      cases set.symm.trans set'
      cases read.symm.trans read'
      simpa using hides

theorem tried {surroundings : Surroundings π} {arguments : List String} {line : MakeLine}
    {program : String} {request : Request} (asks : Asks surroundings arguments line program request) :
    Tried surroundings arguments program request (makeGame surroundings arguments) := by
  rw [makeGame_of_asks asks]
  obtain ⟨whole, read, options⟩ := MakeLine.read_ok asks.read
  have seed := chooses_seed asks.accepted
  refine ⟨rfl, seed_told request, ⟨whole, read, ?_⟩, surroundings.logged .warn (makeNote program request),
    logs_logged surroundings rfl, fun path makes => ?_, fun never => ?_⟩
  · rw [seed, options]
    exact seeds_chosen read surroundings.random
  · simp [makeRequested, make_of_makes makes]
  · cases made : make program (surroundings.generator program) request with
    | ok game => exact absurd (makes_of_make made) (never game.path)
    | error failure => simp [makeRequested, made, Exit.failed]

theorem refused {surroundings : Surroundings π} {arguments : List String}
    (serious : ∀ stop, MakeLine.read surroundings arguments = .error stop → stop = .usage)
    (unasked : ¬∃ line program request, Asks surroundings arguments line program request) :
    Refused surroundings arguments (makeGame surroundings arguments) := by
  cases read : MakeLine.read surroundings arguments with
  | error stop =>
    obtain rfl := serious stop read
    have ends : makeGame surroundings arguments =
        surroundings.ending (surroundings.stopped MakeLine.tool .usage) := by simp only [makeGame, read]
    rw [ends]
    exact ⟨rfl, rfl, fun _ => rfl, by simp [read]⟩
  | ok line =>
    have fails : ∃ failure, makeGame surroundings arguments = surroundings.ending (.failed "" failure) := by
      simp only [makeGame, read, MakeLine.run, Surroundings.config]
      cases loaded : Config.loadOrDefault surroundings.tree line.config with
      | error failure => exact ⟨_, rfl⟩
      | ok config =>
        cases accepted : Request.new line.kind line.options surroundings.random with
        | error failure => exact ⟨_, rfl⟩
        | ok request =>
          have asks : Asks surroundings arguments line (line.program.getD config.make.program) request :=
            ⟨read, ⟨config, loaded, rfl⟩, accepted⟩
          exact absurd ⟨_, _, _, asks⟩ unasked
    obtain ⟨failure, ends⟩ := fails
    rw [ends]
    exact ⟨rfl, rfl, by simp [read], fun _ => rfl⟩

theorem makeRequested_generator {surroundings : Surroundings π} {program : String} {request : Request}
    {generator : String → Installed Finished}
    (same : (request.attempt program).start (generator program) =
      (request.attempt program).start (surroundings.generator program)) :
    makeRequested { surroundings with generator } program request =
      makeRequested surroundings program request := by
  simp only [makeRequested, make, startedWith, same]
  rfl

theorem hangsOnAttempts (surroundings : Surroundings π) (arguments : List String) :
    HangsOnAttempts surroundings arguments := by
  intro generator same
  have read : MakeLine.read { surroundings with generator } arguments =
      MakeLine.read surroundings arguments := rfl
  revert same
  simp only [makeGame, read]
  cases MakeLine.read surroundings arguments with
  | error stop => exact fun _ => by cases stop <;> rfl
  | ok line =>
    simp only [MakeLine.run, Surroundings.config]
    cases Config.loadOrDefault surroundings.tree line.config with
    | error failure => exact fun _ => rfl
    | ok config =>
      cases Request.new line.kind line.options surroundings.random with
      | error failure => exact fun _ => rfl
      | ok request => exact fun same => makeRequested_generator (same _ (List.mem_singleton_self _))

/-- A generator is tried once if a game can be asked for, and never otherwise. -/
theorem generator_tried_once_or_never {surroundings : Surroundings π} {arguments : List String}
    (serious : ∀ stop, MakeLine.read surroundings arguments = .error stop → stop = .usage) :
    (∀ line program request, Asks surroundings arguments line program request →
      Tried surroundings arguments program request (makeGame surroundings arguments)) ∧
    ((¬∃ line program request, Asks surroundings arguments line program request) →
      Refused surroundings arguments (makeGame surroundings arguments)) ∧
    HangsOnAttempts surroundings arguments :=
  ⟨fun _ _ _ => tried, refused serious, hangsOnAttempts surroundings arguments⟩

theorem challenge_tried_once :
    let surroundings : Surroundings Unit :=
      { tree := ⟨[(["gym.ron"], .file "(make: (program: \"./tw\"))".toUTF8)]⟩
        environment := fun name => if name = "QUEST_GYM_CONFIG" then some "gym.ron" else none
        program := ⟨fun _ state => (⟨[], true⟩, state)⟩
        engine := fun _ => .missing .notFound
        generator := fun _ => .program fun _ => ⟨Text.encode "Game generated:  games/7.ulx\n", [], 0⟩
        random := .ofSeed 0 }
    let arguments := ["challenge", "tw-coin_collector-level3", "--seed=+7", "--theme=--seed", "--view"]
    let request : Request := ⟨.challenge ⟨"coin_collector", 3⟩,
      { seed := some 7, theme := some "--seed", view := true }, 7⟩
    (∀ stop, MakeLine.read surroundings arguments = .error stop → stop = .usage) ∧
      Tried surroundings arguments "./tw" request (makeGame surroundings arguments) ∧
      HangsOnAttempts surroundings arguments := by
  intro surroundings arguments request
  have read : MakeLine.read surroundings arguments =
      .ok ⟨some "gym.ron", none, request.kind, request.options⟩ := ok_of_toOption (by decide +kernel)
  have loads : (Config.loadOrDefault surroundings.tree (some "gym.ron")).toOption.map (·.make.program) =
      some "./tw" := by decide +kernel
  obtain ⟨config, found, program⟩ := Option.map_eq_some_iff.mp loads
  have serious : ∀ stop, MakeLine.read surroundings arguments = .error stop → stop = .usage := by
    simp [read]
  have accepted : Request.new request.kind request.options surroundings.random = .ok request :=
    ok_of_toOption (by decide +kernel)
  obtain ⟨tries, -, hangs⟩ := generator_tried_once_or_never serious
  exact ⟨serious, tries _ _ _ ⟨read, ⟨config, ok_of_toOption found, program⟩, accepted⟩, hangs⟩

theorem shown_note_comes_before_game :
    let written (note : Note) := "2026-01-05T10:00:00.000000Z " ++
      { note with message := "quest_gym::core::make: " ++ note.message }.line ++ "\n"
    let surroundings : Surroundings Unit :=
      { tree := {}
        environment := fun name => List.lookup name [("RUST_LOG", "info"), ("NO_COLOR", "1")]
        program := ⟨fun _ state => (⟨[], true⟩, state)⟩
        engine := fun _ => .missing .notFound
        generator := fun _ => .program fun _ => ⟨Text.encode "Game generated: games/7.ulx\n", [], 0⟩
        random := .ofSeed 0
        log := { written } }
    let arguments := ["challenge", "tw-simple-level1", "--seed", "7", "--program", "./tw"]
    let request : Request := ⟨.challenge ⟨"simple", 1⟩, { seed := some 7 }, 7⟩
    let after := makeGame surroundings arguments
    (∃ line, Asks surroundings arguments line "./tw" request) ∧
      Makes surroundings "./tw" request "games/7.ulx" ∧
      after.exit.output = "Global seed: 7\n" ++
        ("2026-01-05T10:00:00.000000Z  INFO quest_gym::core::make: generating game program=./tw " ++
          "args=[\"challenge\", \"tw-simple-level1\", \"--seed\", \"7\"]\n") ++
        "Game generated: games/7.ulx\n" ∧
      after.exit.output ≠ "Global seed: 7\nGame generated: games/7.ulx\n" := by
  intro written surroundings arguments request after
  have read : MakeLine.read surroundings arguments = .ok ⟨none, some "./tw", request.kind, request.options⟩ :=
    ok_of_toOption (by decide +kernel)
  have accepted : Request.new request.kind request.options surroundings.random = .ok request :=
    ok_of_toOption (by decide +kernel)
  have makes : Makes surroundings "./tw" request "games/7.ulx" :=
    ⟨⟨Text.encode "Game generated: games/7.ulx\n", [], 0⟩, if_neg (by decide +kernel), rfl, by decide +kernel⟩
  exact ⟨⟨_, read, ⟨{}, rfl, rfl⟩, accepted⟩, makes, by decide +kernel, by decide +kernel⟩

end TextQuest.CommandLine
