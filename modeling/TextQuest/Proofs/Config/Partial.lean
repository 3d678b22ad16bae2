import TextQuest.Agent.Neural
import TextQuest.Config.Document
import TextQuest.Neural.Single
import TextQuest.Proofs.FileTree
import TextQuest.Proofs.Ron.Reading

namespace TextQuest
open Ron

namespace Ron

structure Slot where
  name : String
  holds : Value → Prop
  mayMiss : Prop

def Slot.FilledBy (slot : Slot) (pairs : Fields) : Prop :=
  (∃ value, (slot.name, value) ∈ pairs ∧ slot.holds value) ∨
    (∀ pair ∈ pairs, pair.1 ≠ slot.name) ∧ slot.mayMiss

def Told (slots : List Slot) (value : Value) : Prop :=
  ∃ pairs, value = .record pairs ∧ (pairs.map (·.1)).Nodup ∧ ∀ slot ∈ slots, slot.FilledBy pairs

def Slot.of {α : Type} (name : String) (tell : α → Value) (current default : α) : Slot :=
  ⟨name, (· = tell current), current = default⟩

theorem lookup_of_mem {pairs : Fields} (distinct : (pairs.map (·.1)).Nodup) {name : String} {value : Value}
    (inside : (name, value) ∈ pairs) : pairs.lookup name = some value := by
  induction pairs with
  | nil => cases inside
  | cons pair pairs ih =>
    obtain ⟨other, held⟩ := pair
    obtain ⟨fresh, distinct⟩ := List.nodup_cons.mp distinct
    rcases List.mem_cons.mp inside with same | later
    · cases same
      simp
    · have apart : (name == other) = false := by
        rw [beq_eq_false_iff_ne]
        rintro rfl
        exact fresh (List.mem_map_of_mem (f := (·.1)) later)
      simp [List.lookup_cons, apart, ih distinct later]

variable {α : Type}

theorem optional_filled {pairs : Fields} (distinct : (pairs.map (·.1)).Nodup) {slot : Slot}
    (filled : slot.FilledBy pairs) (read? : Value → Option α) {default found : α}
    (reads : ∀ value, slot.holds value → read? value = some found)
    (missing : slot.mayMiss → found = default) :
    pairs.optional slot.name read? default = some found := by
  rcases filled with ⟨value, inside, held⟩ | ⟨absent, may⟩
  · simp [Fields.optional, lookup_of_mem distinct inside, reads value held]
  · have none : pairs.lookup slot.name = none := by
      rw [List.lookup_eq_none_iff]
      exact fun pair inside => bne_iff_ne.mpr (Ne.symm (absent pair inside))
    simp [Fields.optional, none, missing may]

theorem optional_of {pairs : Fields} (distinct : (pairs.map (·.1)).Nodup) {name : String}
    {tell : α → Value} {current default : α} (filled : (Slot.of name tell current default).FilledBy pairs)
    (read? : Value → Option α) (reads : read? (tell current) = some current) :
    pairs.optional name read? default = some current :=
  optional_filled distinct filled read? (fun _ held => held ▸ reads) id

end Ron

/-! ## Slots of each section -/

def EngineKind.word : EngineKind → String
  | program => "Process"
  | script => "Script"

def EngineConfig.slots (config : EngineConfig) : List Slot :=
  let default : EngineConfig := {}
  [.of "kind" (fun kind => .variant kind.word) config.kind default.kind,
    .of "program" .text config.program default.program,
    .of "args" (fun arguments => .list (arguments.map .text)) config.arguments default.arguments]

def PlayConfig.slots (config : PlayConfig) : List Slot :=
  let default : PlayConfig := {}
  [.of "max_steps" .natural config.maxSteps default.maxSteps,
    .of "nb_episodes" .natural config.episodes default.episodes]

def TrainConfig.slots (config : TrainConfig) : List Slot :=
  let default : TrainConfig := {}
  [.of "games" .text config.games default.games,
    .of "max_steps" .natural config.maxSteps default.maxSteps,
    .of "nb_epochs" .natural config.epochs default.epochs,
    .of "seed" (fun seed => .natural seed.toNat) config.seed default.seed]

def Neural.Config.slots (config : Neural.Config Float32) : List Slot :=
  let default : Neural.Config Float32 := .standard
  [.of "feature_dim" .natural config.featureDim default.featureDim,
    .of "learning_rate" .single config.learningRate default.learningRate,
    .of "gamma" .single config.gamma default.gamma,
    .of "entropy_coef" .single config.entropyCoef default.entropyCoef,
    .of "value_coef" .single config.valueCoef default.valueCoef,
    .of "update_frequency" .natural config.updateFrequency default.updateFrequency,
    .of "log_frequency" .natural config.logFrequency default.logFrequency,
    .of "seed" (fun seed => .natural seed.toNat) config.seed default.seed]

def MakeConfig.slots (config : MakeConfig) : List Slot :=
  let default : MakeConfig := {}
  [.of "program" .text config.program default.program]

def Config.slots (config : Config) : List Slot :=
  let default : Config := {}
  [⟨"engine", Told config.engine.slots, config.engine = default.engine⟩,
    ⟨"play", Told config.play.slots, config.play = default.play⟩,
    ⟨"train", Told config.train.slots, config.train = default.train⟩,
    ⟨"neural", Told config.neural.slots, config.neural = default.neural⟩,
    ⟨"make", Told config.make.slots, config.make = default.make⟩]

/-- A document that tells of a configuration: at least of all that is not as it is by default. -/
def Config.ToldBy (config : Config) (document : List Char) : Prop :=
  ∃ value, Document Config.shape value document ∧ Told config.slots value

/-! ## Reading -/

theorem EngineConfig.ofRon?_told {config : EngineConfig} {value : Value} (told : Told config.slots value) :
    EngineConfig.ofRon? value = some config := by
  obtain ⟨pairs, rfl, distinct, filled⟩ := told
  simp only [slots, List.forall_mem_cons] at filled
  obtain ⟨kind, program, arguments, -⟩ := filled
  have kindRead : EngineKind.ofRon? (.variant config.kind.word) = some config.kind := by
    cases config.kind <;> rfl
  have argumentsRead : Value.list? Value.string? (.list (config.arguments.map .text)) =
      some config.arguments := list?_map .text (fun _ => rfl) config.arguments
  simp [EngineConfig.ofRon?, Value.fields?, optional_of distinct kind EngineKind.ofRon? kindRead,
    optional_of distinct program Value.string? rfl, optional_of distinct arguments _ argumentsRead]

theorem PlayConfig.ofRon?_told {config : PlayConfig} {value : Value} (told : Told config.slots value) :
    PlayConfig.ofRon? value = some config := by
  obtain ⟨pairs, rfl, distinct, filled⟩ := told
  simp only [slots, List.forall_mem_cons] at filled
  obtain ⟨maxSteps, episodes, -⟩ := filled
  simp [PlayConfig.ofRon?, Value.fields?, optional_of distinct maxSteps Value.nat? rfl,
    optional_of distinct episodes Value.nat? rfl]

theorem word64?_toNat (word : UInt64) : Value.word64? (.natural word.toNat) = some word := by
  simp [Value.word64?, Value.nat?]

theorem TrainConfig.ofRon?_told {config : TrainConfig} {value : Value} (told : Told config.slots value) :
    TrainConfig.ofRon? value = some config := by
  obtain ⟨pairs, rfl, distinct, filled⟩ := told
  simp only [slots, List.forall_mem_cons] at filled
  obtain ⟨games, maxSteps, epochs, seed, -⟩ := filled
  simp [TrainConfig.ofRon?, Value.fields?, optional_of distinct games Value.string? rfl,
    optional_of distinct maxSteps Value.nat? rfl, optional_of distinct epochs Value.nat? rfl,
    optional_of distinct seed _ (word64?_toNat config.seed)]

theorem Neural.Config.ofRon?_told {config : Neural.Config Float32} {value : Value}
    (told : Told config.slots value) : Neural.Config.ofRon? value = some config := by
  obtain ⟨pairs, rfl, distinct, filled⟩ := told
  simp only [slots, List.forall_mem_cons] at filled
  obtain ⟨featureDim, learningRate, gamma, entropyCoef, valueCoef, updateFrequency, logFrequency, seed,
    -⟩ := filled
  simp [Neural.Config.ofRon?, Value.fields?, optional_of distinct featureDim Value.nat? rfl,
    optional_of distinct learningRate Value.single? rfl, optional_of distinct gamma Value.single? rfl,
    optional_of distinct entropyCoef Value.single? rfl, optional_of distinct valueCoef Value.single? rfl,
    optional_of distinct updateFrequency Value.nat? rfl, optional_of distinct logFrequency Value.nat? rfl,
    optional_of distinct seed _ (word64?_toNat config.seed)]

theorem MakeConfig.ofRon?_told {config : MakeConfig} {value : Value} (told : Told config.slots value) :
    MakeConfig.ofRon? value = some config := by
  obtain ⟨pairs, rfl, distinct, filled⟩ := told
  simp only [slots, List.forall_mem_cons] at filled
  obtain ⟨program, -⟩ := filled
  simp [MakeConfig.ofRon?, Value.fields?, optional_of distinct program Value.string? rfl]

theorem Config.ofRon?_told {config : Config} {value : Value} (told : Told config.slots value) :
    Config.ofRon? value = some config := by
  obtain ⟨pairs, rfl, distinct, filled⟩ := told
  simp only [slots, List.forall_mem_cons] at filled
  obtain ⟨engine, play, train, neural, make, -⟩ := filled
  have engine := optional_filled distinct engine EngineConfig.ofRon?
    (fun _ held => EngineConfig.ofRon?_told held) id
  have play := optional_filled distinct play PlayConfig.ofRon?
    (fun _ held => PlayConfig.ofRon?_told held) id
  have train := optional_filled distinct train TrainConfig.ofRon?
    (fun _ held => TrainConfig.ofRon?_told held) id
  have neural := optional_filled distinct neural Neural.Config.ofRon?
    (fun _ held => Neural.Config.ofRon?_told held) id
  have make := optional_filled distinct make MakeConfig.ofRon?
    (fun _ held => MakeConfig.ofRon?_told held) id
  simp [Config.ofRon?, Value.fields?, engine, play, train, neural, make]

theorem Config.parse_told {config : Config} {text : String} (told : config.ToldBy text.toList) :
    Config.parse text =
      if config.neural.featureDim = 0 then .error (.invalid .noFeatures) else .ok config := by
  obtain ⟨value, document, told⟩ := told
  simp only [Config.parse, parse?_document document, Option.bind_some, ofRon?_told told,
    Neural.Config.validate]
  by_cases none : config.neural.featureDim = 0 <;> simp only [none, if_true, if_false]

theorem Config.parse_ok {text : String} {config : Config} (parsed : Config.parse text = .ok config) :
    0 < config.neural.featureDim := by
  unfold Config.parse Neural.Config.validate at parsed
  grind

theorem Config.featureDim_pos {tree : FileTree} {path : Option String} {config : Config}
    (loaded : Config.loadOrDefault tree path = .ok config) : 0 < config.neural.featureDim := by
  cases path with
  | none =>
    cases loaded
    decide
  | some path =>
    rw [loadOrDefault, load] at loaded
    split at loaded
    · cases loaded
    · exact parse_ok loaded

theorem Agent.newLearner_eq {R : Type} [Neural.Scalar R] {memory : Nat} {config : Neural.Config R}
    (some : 0 < config.featureDim) :
    Agent.newLearner memory config =
      if Neural.weightLimit < config.featureDim then .error .tooManyWeights
      else if memory ≤ config.featureDim then .error (.outOfMemory config.featureDim)
      else .ok (.new config) := by
  have valid : config.validate = .ok () := if_neg (Nat.ne_of_gt some)
  simp only [Agent.newLearner, valid]
  by_cases many : Neural.weightLimit < config.featureDim
  · simp only [many, if_true]
    rfl
  · by_cases much : memory ≤ config.featureDim
    · simp only [many, much, if_true, if_false]
      rfl
    · simp only [many, much, if_false]
      rfl

/-- A configuration is read from every document that tells of it, and refused only where it asks for
no features. What was loaded makes a learner wherever there is memory for its weights. -/
theorem partial_documents_tell_configurations :
    (∀ (config : Config) (text : String), config.ToldBy text.toList →
      Config.parse text =
        if config.neural.featureDim = 0 then .error (.invalid .noFeatures) else .ok config) ∧
    ∀ (tree : FileTree) (path : Option String) (config : Config),
      Config.loadOrDefault tree path = .ok config →
        ∀ memory, Agent.newLearner memory config.neural =
          if Neural.weightLimit < config.neural.featureDim then .error .tooManyWeights
          else if memory ≤ config.neural.featureDim then .error (.outOfMemory config.neural.featureDim)
          else .ok (.new config.neural) :=
  ⟨fun _ _ told => Config.parse_told told,
    fun _ _ _ loaded _ => Agent.newLearner_eq (Config.featureDim_pos loaded)⟩

def Neural.Config.ofDim (n : Nat) : Neural.Config Float32 := { Neural.Config.standard with featureDim := n }

theorem Neural.Config.ofDim_told (n : Nat) :
    Told (Neural.Config.ofDim n).slots (.record [("feature_dim", .natural n)]) := by
  refine ⟨_, rfl, List.nodup_singleton _, ?_⟩
  simp only [Neural.Config.slots, List.forall_mem_cons]
  refine ⟨.inl ⟨_, .head _, rfl⟩, ?_, ?_, ?_, ?_, ?_, ?_, ?_, List.forall_mem_nil _⟩
  all_goals exact .inr ⟨by simp [Slot.of], rfl⟩

theorem freely_written_configuration :
    Config.parse "GymConfig(make: (program: r\"maker\"), /* the rest */ neural: (feature_dim: 64),)" =
      .ok { make := { program := "maker" }, neural := .ofDim 64 } ∧
    Agent.newLearner 16385 Neural.Config.standard = .ok (.new .standard) := by
  refine ⟨(partial_documents_tell_configurations.1 _ _ ?_).trans (if_neg (by decide)),
    (partial_documents_tell_configurations.2 {} none {} rfl 16385).trans
      ((if_neg (by decide)).trans (if_neg (by decide)))⟩
  let program : Item := ⟨.text, .text "maker", "r\"maker\"".toList⟩
  let dim : Item := ⟨.nat64, .natural 64, "64".toList⟩
  let make : Member := Item.named ⟨MakeConfig.shape, .record [("program", program.value)],
    '(' :: ((program.named "program").shown ++ [')'])⟩ "make"
  let neural : Member := Item.named ⟨Neural.Config.shape, .record [("feature_dim", dim.value)],
    '(' :: ((dim.named "feature_dim").shown ++ [')'])⟩ "neural"
  have makeText : Spells 126 make.shape make.value make.text :=
    spells_field program (.text (@SpellsText.raw "maker" [] (List.forall_mem_nil _) (by decide)))
      (spellsWord_of rfl (by decide)) rfl
  have neuralText : Spells 126 neural.shape neural.value neural.text :=
    spells_field dim (.natural (.decimal (spellsDigits_toDigits 64)) (by decide))
      (spellsWord_of rfl (by decide)) rfl
  have makeWord : SpellsWord "make" "make".toList := spellsWord_of rfl (by decide)
  have neuralWord : SpellsWord "neural" "neural".toList := spellsWord_of rfl (by decide)
  have gap : Blanks " /* the rest */ ".toList :=
    .blank (by decide) (.block (@comment_of " the rest ".toList (by decide)) (blanks_of (by decide)))
  have listed : Listed ([make, neural].map Member.shown)
      (make.shown ++ ',' :: (" /* the rest */ ".toList ++ (neural.shown ++ [',']))) :=
    @Listed.cons make.shown [] [] _ [neural.shown] .nil .nil
      (@Listed.cons neural.shown _ [] [] [] gap .nil (.nil .nil))
  have spells : Spells 128 Config.shape (.record ([make, neural].map Member.pair))
      ("GymConfig".toList ++ [] ++
        '(' :: (make.shown ++ ',' :: (" /* the rest */ ".toList ++ (neural.shown ++ [','])) ++ [')'])) :=
    .record (.titled (spellsWord_of rfl (by decide)) .nil) (by decide)
      (List.forall_mem_cons.mpr ⟨rfl, List.forall_mem_singleton.mpr rfl⟩)
      (List.forall_mem_cons.mpr ⟨lead_named _ makeWord,
        List.forall_mem_singleton.mpr (lead_named _ neuralWord)⟩)
      (List.forall_mem_cons.mpr ⟨makeText, List.forall_mem_singleton.mpr neuralText⟩) listed
  have document : Document Config.shape (.record ([make, neural].map Member.pair))
      "GymConfig(make: (program: r\"maker\"), /* the rest */ neural: (feature_dim: 64),)".toList := by
    have framed := Document.mk .nil .nil spells (.blanks .nil)
    simpa [make, neural, program, dim, Item.named, Member.shown] using framed
  refine ⟨_, document, _, rfl, by decide, ?_⟩
  simp only [Config.slots, List.forall_mem_cons]
  refine ⟨.inr ⟨by decide, trivial⟩, .inr ⟨by decide, trivial⟩, .inr ⟨by decide, trivial⟩,
    .inl ⟨_, .tail _ (.head _), Neural.Config.ofDim_told 64⟩, .inl ⟨_, .head _, _, rfl, by decide, ?_⟩,
    List.forall_mem_nil _⟩
  simp only [MakeConfig.slots, List.forall_mem_cons]
  exact ⟨.inl ⟨_, .head _, rfl⟩, List.forall_mem_nil _⟩

theorem loaded_without_learner :
    Config.loadOrDefault
        ⟨[(["gym.ron"], .file "(neural: (feature_dim: 2305843009213693952))".toUTF8)]⟩ (some "gym.ron") =
      .ok { neural := .ofDim 2305843009213693952 } ∧
    ∀ memory, Agent.newLearner memory (Neural.Config.ofDim 2305843009213693952) = .error .tooManyWeights := by
  refine ⟨?_, fun _ => (Agent.newLearner_eq (by decide)).trans (if_pos (by decide))⟩
  let dim : Item := ⟨.nat64, .natural 2305843009213693952, "2305843009213693952".toList⟩
  let neural : Item := ⟨Neural.Config.shape, .record [("feature_dim", dim.value)],
    '(' :: ((dim.named "feature_dim").shown ++ [')'])⟩
  have neuralText : Spells 126 neural.shape neural.value neural.text :=
    spells_field dim (.natural (.decimal (spellsDigits_toDigits 2305843009213693952)) (by decide))
      (spellsWord_of rfl (by decide)) rfl
  have spells : Spells 128 Config.shape _ _ :=
    spells_field neural neuralText (@spellsWord_of "neural" _ _ rfl (by decide)) rfl
  have document : Document Config.shape (.record [("neural", neural.value)])
      "(neural: (feature_dim: 2305843009213693952))".toList := by
    have framed := Document.mk .nil .nil spells (.blanks .nil)
    simpa [neural, dim, Item.named, Member.shown] using framed
  have told : Config.ToldBy { neural := .ofDim 2305843009213693952 }
      "(neural: (feature_dim: 2305843009213693952))".toList := by
    refine ⟨_, document, _, rfl, List.nodup_singleton _, ?_⟩
    simp only [Config.slots, List.forall_mem_cons]
    exact ⟨.inr ⟨by decide, trivial⟩, .inr ⟨by decide, trivial⟩, .inr ⟨by decide, trivial⟩,
      .inl ⟨_, .head _, Neural.Config.ofDim_told _⟩, .inr ⟨by decide, trivial⟩, List.forall_mem_nil _⟩
  have parsed := (Config.parse_told told).trans (if_neg (by decide))
  have found : (⟨[(["gym.ron"], .file "(neural: (feature_dim: 2305843009213693952))".toUTF8)]⟩ :
      FileTree).read "gym.ron" = .ok "(neural: (feature_dim: 2305843009213693952))".toUTF8 := rfl
  have text := FileTree.readText_of_read found
  simpa only [Config.loadOrDefault, Config.load, text] using parsed

end TextQuest
