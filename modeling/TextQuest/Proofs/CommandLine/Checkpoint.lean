import TextQuest.Proofs.CommandLine.Override
import TextQuest.Proofs.Config.Partial
import TextQuest.Proofs.Neural.Checkpoint
import TextQuest.Proofs.Run.Calls
import TextQuest.Proofs.Run.FirstFailure

namespace TextQuest

open Neural

/-! ## Failures of a run -/

/-- A call failed that the run does not go on after: any but those an agent makes while it prepares, and but
for the close of a session that was interrupted. -/
def Journal.Failing (journal : Journal) : Prop :=
  ∃ later entry earlier error, journal = later ++ entry :: earlier ∧
    ((standing earlier).failureOf entry = some error ∨
      (standing earlier).closingFailureOf entry = some error)

theorem Journal.Failing.failure {journal : Journal} (failing : journal.Failing) :
    ∃ error, journal.standing.failure = some error := by
  obtain ⟨later, entry, earlier, error, rfl, failed⟩ := failing
  have here : ∃ first, (standing (entry :: earlier)).failure = some first := by
    rw [standing, Standing.after]
    cases before : (standing earlier).failure with
    | some first => exact ⟨first, rfl⟩
    | none =>
      rcases failed with failed | failed
      · exact ⟨error, by simp [failed]⟩
      · cases other : (standing earlier).failureOf entry with
        | some first => exact ⟨first, rfl⟩
        | none => exact ⟨error, by simp [failed]⟩
  obtain ⟨first, failed⟩ := here
  exact ⟨first, Journal.failure_append failed later⟩

namespace Run

variable {σ α β : Type}

theorem train_fails {cast : Cast σ α} {engine : σ} {agent : α} {agentName : String} {config : TrainConfig}
    {tree : FileTree}
    (failing : (performed cast (train agentName config tree) engine agent).2.journal.Failing) :
    ∃ error, (performed cast (train agentName config tree) engine agent).1 = .error error := by
  unfold train at failing ⊢
  cases resolved : resolveGames tree config.games with
  | error error => exact ⟨error, rfl⟩
  | ok games =>
    simp only [resolved] at failing
    obtain ⟨error, failed⟩ := failing.failure
    obtain ⟨-, ended⟩ := lawful_trainOn cast engine agent agentName config games
    exact ⟨error, ended.result_of_failure failed⟩

/-! ## The learner in a run -/

variable {R : Type} [Scalar R] {config : Neural.Config R}

theorem safe_act (positive : 0 < config.featureDim) (engine : Engine σ) (cancelled : Journal → Bool)
    (a : Act) {scene : Scene σ (Learner R)} (safe : scene.agent.Safe config) :
    (Cast.perform ⟨engine, Agent.neural, cancelled⟩ a scene).2.agent.Safe config := by
  cases a with
  | setTraining on => exact safe.setTraining on
  | decide observation =>
    have agent : (Cast.perform ⟨engine, Agent.neural, cancelled⟩ (.decide observation) scene).2.agent =
        (Agent.neural.decide observation scene.agent).agent := Scene.agent_recordNotes _ _
    rw [agent]
    exact safe.decide positive observation
  | finish observation =>
    have agent : (Cast.perform ⟨engine, Agent.neural, cancelled⟩ (.finish observation) scene).2.agent =
        (Agent.neural.finish observation scene.agent).agent := Scene.agent_recordNotes _ _
    rw [agent]
    exact safe.finish observation
  | start game =>
    have agent : (Cast.perform ⟨engine, Agent.neural, cancelled⟩ (.start game) scene).2.agent =
        scene.agent := Scene.agent_recordNotes _ _
    rwa [agent]
  | _ => exact safe

theorem safe_performed (positive : 0 < config.featureDim) (engine : Engine σ) (cancelled : Journal → Bool)
    (run : Run β) (state : σ) {start : Learner R} (safe : start.Safe config) :
    (performed ⟨engine, Agent.neural, cancelled⟩ run state start).2.agent.Safe config :=
  Dialogue.run_keeps (fun scene : Scene σ (Learner R) => scene.agent.Safe config)
    (fun a _ => safe_act positive engine cancelled a) run.run safe

end Run

def FileTree.Writable (tree : FileTree) (path : String) : Prop :=
  ∀ content, ∃ after, tree.write path content = .ok after

structure FileTree.Holds (tree : FileTree) (path : String) (learner : Learner Float32) : Prop where
  content : tree.read path = .ok learner.params.text.toUTF8
  loads : ∀ other : Learner Float32, other.config.featureDim = learner.config.featureDim →
    (∀ w ∈ learner.params.policy.toList ++ learner.params.value.toList, w.isNaN = false) →
    ∃ params, other.load tree path = .ok { other with params } ∧
      params.policy.toList = learner.params.policy.toList ∧
      params.value.toList = learner.params.value.toList

namespace CommandLine

variable {π α : Type} {surroundings : Surroundings π} {line : GymLine} {after : Aftermath π}
  {report : TrainReport} {learner : Learner Float32}

/-! ## Training -/

theorem Surroundings.perform_eq {β : Type} (surroundings : Surroundings π) (config : EngineConfig)
    (agent : Agent α) (start : α) (run : Run β) :
    ∃ (σ : Type) (engine : Engine σ) (state : σ),
      let performed := surroundings.perform config agent start run
      let ran := Run.performed ⟨engine, agent, surroundings.interrupted⟩ run state start
      performed.answer = ran.1 ∧ performed.agent = ran.2.agent ∧ performed.journal = ran.2.journal := by
  unfold perform
  cases config.kind with
  | script => exact ⟨_, _, _, rfl, rfl, rfl⟩
  | program => exact ⟨_, _, _, rfl, rfl, rfl⟩

def Surroundings.train (surroundings : Surroundings π) (settings : Config) (agent : Agent α) (start : α) :
    Performed π α TrainReport :=
  surroundings.perform settings.engine agent start
    (Run.train agent.name settings.train surroundings.tree)

theorem Surroundings.train_fails {settings : Config} {agent : Agent α} {start : α}
    (failing : (surroundings.train settings agent start).journal.Failing) :
    ∃ error, (surroundings.train settings agent start).answer = .error error := by
  obtain ⟨σ, engine, state, answer, -, journal⟩ := surroundings.perform_eq settings.engine agent start
    (Run.train agent.name settings.train surroundings.tree)
  rw [train, journal] at failing
  rw [train, answer]
  exact Run.train_fails failing

theorem Surroundings.train_unresolved {settings : Config} {agent : Agent α} {start : α} {error : RunError}
    (unresolved : Run.resolveGames surroundings.tree settings.train.games = .error error) :
    (surroundings.train settings agent start).answer = .error error := by
  obtain ⟨σ, engine, state, answer, -, -⟩ := surroundings.perform_eq settings.engine agent start
    (Run.train agent.name settings.train surroundings.tree)
  rw [train, answer, Run.train, unresolved]
  rfl

theorem Surroundings.train_safe {settings : Config} {config : Neural.Config Float32}
    {start : Learner Float32} (positive : 0 < config.featureDim) (safe : start.Safe config) :
    (surroundings.train settings Agent.neural start).agent.Safe config := by
  obtain ⟨σ, engine, state, -, agent, -⟩ := surroundings.perform_eq settings.engine Agent.neural start
    (Run.train "neural" settings.train surroundings.tree)
  have same : (surroundings.train settings Agent.neural start).agent = _ := agent
  rw [same]
  exact Run.safe_performed positive engine _ _ state safe

inductive Leaves (surroundings : Surroundings π) (keep : α → Except Failure FileTree)
    (ran : Performed π α TrainReport) (after : Aftermath π) : Prop
  | failed {error : RunError} (answer : ran.answer = .error error) (tree : after.tree = surroundings.tree)
      (status : after.exit.status = some 1)
  | kept {report : TrainReport} (answer : ran.answer = .ok report) (kept : keep ran.agent = .ok after.tree)
      (exit : after.exit = { output := reportText report })
  | unkept {report : TrainReport} {failure : Failure} (answer : ran.answer = .ok report)
      (refused : keep ran.agent = .error failure) (tree : after.tree = surroundings.tree)
      (status : after.exit.status = some 1)

theorem leaves_trainAgent (surroundings : Surroundings π) (settings : Config) (agent : Agent α) (start : α)
    (keep : α → Except Failure FileTree) :
    let ran := surroundings.train settings agent start
    let after := trainAgent surroundings settings agent start keep
    after.journal = ran.journal ∧ Leaves surroundings keep ran after := by
  simp only [trainAgent, Surroundings.train]
  generalize surroundings.perform settings.engine agent start _ = ran
  obtain ⟨answer, trained, journal, programs⟩ := ran
  cases answer with
  | error error => exact ⟨rfl, .failed rfl rfl rfl⟩
  | ok report =>
    cases kept : keep trained with
    | ok tree => exact ⟨rfl, .kept rfl kept rfl⟩
    | error failure => exact ⟨rfl, .unkept rfl kept rfl rfl⟩

/-! ## Carrying out a command line -/

theorem newLearner_ok {memory : Nat} {config : Neural.Config Float32}
    (made : Agent.newLearner memory config = .ok learner) :
    0 < config.featureDim ∧ learner = .new config := by
  have positive : 0 < config.featureDim := by
    obtain ⟨_, valid, -⟩ := exists_of_bind made
    unfold Neural.Config.validate at valid
    split at valid
    · cases valid
    · rename_i some
      exact Nat.pos_of_ne_zero some
  rw [Agent.newLearner_eq positive] at made
  split_ifs at made
  cases made
  exact ⟨positive, rfl⟩

theorem loadLearner_safe {config : Neural.Config Float32} {checkpoint : Option String} {command : GymCommand}
    (loaded : loadLearner surroundings config checkpoint command = .ok learner) :
    0 < config.featureDim ∧ learner.Safe config := by
  unfold loadLearner at loaded
  split at loaded
  · cases loaded
  · cases loaded
  · cases loaded
  · rename_i fresh made
    obtain ⟨positive, rfl⟩ := newLearner_ok made
    split at loaded
    · cases loaded
      exact ⟨positive, .new config⟩
    · split at loaded
      · rename_i restored
        cases loaded
        exact ⟨positive, (Learner.Safe.new config).load restored⟩
      · cases loaded

theorem loadLearner_error {config : Neural.Config Float32} {checkpoint : Option String} {command : GymCommand}
    {exit : Exit} (refused : loadLearner surroundings config checkpoint command = .error exit) :
    exit.status ≠ some 0 := by
  unfold loadLearner at refused
  split at refused
  · cases refused
    cases command <;> simp [GymCommand.brokenOff, Exit.failed]
  · cases refused
    simp
  · cases refused
    simp [Exit.failed]
  · split at refused
    · cases refused
    · split at refused
      · cases refused
      · cases refused
        simp [Exit.failed]

def GymCommand.Trains (command : GymCommand) : Prop :=
  ∃ games epochs seed, command = .train games epochs seed

inductive Course (surroundings : Surroundings π) (line : GymLine) (after : Aftermath π) : Prop
  | unconfigured {error : ConfigError}
      (refused : Config.loadOrDefault surroundings.tree line.config = .error error)
      (tree : after.tree = surroundings.tree) (status : after.exit.status = some 1)
  | unlearned {file : Config} {exit : Exit}
      (accepted : Config.loadOrDefault surroundings.tree line.config = .ok file)
      (learns : line.common.agent = .neural)
      (refused : loadLearner surroundings (line.effective file).neural line.common.checkpoint
        line.command = .error exit)
      (tree : after.tree = surroundings.tree) (status : after.exit.status ≠ some 0)
  | played (plays : ¬ line.command.Trains) (tree : after.tree = surroundings.tree)
  | trained {α : Type} {file : Config} {agent : Agent α} {start : α}
      (accepted : Config.loadOrDefault surroundings.tree line.config = .ok file)
      (other : line.common.agent ≠ .neural)
      (journal : after.journal = (surroundings.train (line.effective file) agent start).journal)
      (leaves : Leaves surroundings (fun _ => .ok surroundings.tree)
        (surroundings.train (line.effective file) agent start) after)
  | learned {file : Config} {start : Learner Float32}
      (accepted : Config.loadOrDefault surroundings.tree line.config = .ok file)
      (trains : line.command.Trains) (learns : line.common.agent = .neural)
      (loaded : loadLearner surroundings (line.effective file).neural line.common.checkpoint
        line.command = .ok start)
      (journal : after.journal = (surroundings.train (line.effective file) Agent.neural start).journal)
      (leaves : Leaves surroundings (keepLearner surroundings.tree line.common.checkpoint)
        (surroundings.train (line.effective file) Agent.neural start) after)

theorem runCommand_trains {settings : Config} {command : GymCommand} (trains : command.Trains)
    (agent : Agent α) (start : α) (keep : α → Except Failure FileTree) :
    runCommand surroundings settings command agent start keep =
      trainAgent surroundings settings agent start keep := by
  obtain ⟨games, epochs, seed, rfl⟩ := trains
  rfl

theorem runCommand_plays {settings : Config} {command : GymCommand} (plays : ¬ command.Trains)
    (agent : Agent α) (start : α) (keep : α → Except Failure FileTree) :
    (runCommand surroundings settings command agent start keep).tree = surroundings.tree := by
  cases command with
  | play game episodes => rfl
  | train games epochs seed => exact absurd ⟨games, epochs, seed, rfl⟩ plays

theorem course (surroundings : Surroundings π) (line : GymLine) :
    Course surroundings line (line.run surroundings) := by
  cases accepted : Config.loadOrDefault surroundings.tree line.config with
  | error error =>
    simp only [GymLine.run, Surroundings.config, accepted]
    exact .unconfigured accepted rfl rfl
  | ok file =>
    have effective : line.command.apply (line.common.apply file) = line.effective file := rfl
    simp only [GymLine.run, Surroundings.config, accepted, effective]
    have unlearning {α : Type} (agent : Agent α) (start : α) (other : line.common.agent ≠ .neural) :
        Course surroundings line (runCommand surroundings (line.effective file) line.command agent start
          fun _ => .ok surroundings.tree) := by
      by_cases trains : line.command.Trains
      · rw [runCommand_trains trains]
        obtain ⟨journal, leaves⟩ := leaves_trainAgent surroundings (line.effective file) agent start
          fun _ => .ok surroundings.tree
        exact .trained accepted other journal leaves
      · exact .played trains (runCommand_plays trains agent start _)
    cases agent : line.common.agent with
    | random => exact unlearning _ _ (by simp [agent])
    | walkthrough => exact unlearning _ _ (by simp [agent])
    | neural =>
      cases loaded : loadLearner surroundings (line.effective file).neural line.common.checkpoint
        line.command with
      | error exit => exact .unlearned accepted agent loaded rfl (loadLearner_error loaded)
      | ok start =>
        by_cases trains : line.command.Trains
        · simp only [runCommand_trains trains]
          obtain ⟨journal, leaves⟩ := leaves_trainAgent surroundings (line.effective file) Agent.neural
            start (keepLearner surroundings.tree line.common.checkpoint)
          exact .learned accepted trains agent loaded journal leaves
        · exact .played trains (runCommand_plays trains _ start _)

/-! ## The file with the weights -/

structure Finishes (surroundings : Surroundings π) (line : GymLine) (report : TrainReport)
    (learner : Learner Float32) : Prop where
  trains : line.command.Trains
  learns : line.common.agent = .neural
  ended : ∃ file start, Config.loadOrDefault surroundings.tree line.config = .ok file ∧
    loadLearner surroundings (line.effective file).neural line.common.checkpoint line.command =
      .ok start ∧
    (surroundings.train (line.effective file) Agent.neural start).answer = .ok report ∧
    (surroundings.train (line.effective file) Agent.neural start).agent = learner

inductive Fails (surroundings : Surroundings π) (line : GymLine) (after : Aftermath π) : Prop
  | configuration {error : ConfigError}
      (refused : Config.loadOrDefault surroundings.tree line.config = .error error)
  | learner {file : Config} {exit : Exit}
      (accepted : Config.loadOrDefault surroundings.tree line.config = .ok file)
      (learns : line.common.agent = .neural)
      (refused : loadLearner surroundings (line.effective file).neural line.common.checkpoint
        line.command = .error exit)
  | pattern {file : Config} {error : RunError}
      (accepted : Config.loadOrDefault surroundings.tree line.config = .ok file)
      (unresolved : Run.resolveGames surroundings.tree (line.effective file).train.games = .error error)
  | call (failing : after.journal.Failing)

structure LeavesCheckpoint (surroundings : Surroundings π) (line : GymLine) (after : Aftermath π) :
    Prop where
  finished : ∀ path report learner, line.common.checkpoint = some path → surroundings.tree.Writable path →
    Finishes surroundings line report learner →
      surroundings.tree.write path learner.params.text.toUTF8 = .ok after.tree ∧
        after.tree.Holds path learner ∧ after.exit = { output := reportText report }
  unfinished : (¬ ∃ path report learner, line.common.checkpoint = some path ∧
    Finishes surroundings line report learner) → after.tree = surroundings.tree
  changed : ∀ path, line.common.checkpoint = some path → surroundings.tree.Writable path →
    (after.tree.read path ≠ surroundings.tree.read path ↔
      ∃ report learner, Finishes surroundings line report learner ∧
        surroundings.tree.read path ≠ .ok learner.params.text.toUTF8)
  fails : line.command.Trains → Fails surroundings line after → after.exit.status ≠ some 0
  failed : after.exit.status ≠ some 0 → after.tree = surroundings.tree
  others : line.common.agent ≠ .neural → after.tree = surroundings.tree
  playing : ¬ line.command.Trains → after.tree = surroundings.tree

theorem save_of_write {tree written : FileTree} {path : String}
    (writes : tree.write path learner.params.text.toUTF8 = .ok written) :
    learner.save tree path = .ok written := by
  simp only [Learner.save, writes]

theorem holds_of_write {tree written : FileTree} {path : String}
    (sized : learner.params.Sized learner.config.featureDim)
    (writes : tree.write path learner.params.text.toUTF8 = .ok written) : written.Holds path learner where
  content := FileTree.read_write writes
  loads _ same numbers := Learner.load_saved (same ▸ sized) numbers (save_of_write writes)

namespace Course

theorem finished (course : Course surroundings line after) {path : String}
    (checkpoint : line.common.checkpoint = some path) (writable : surroundings.tree.Writable path)
    (finishes : Finishes surroundings line report learner) :
    surroundings.tree.write path learner.params.text.toUTF8 = .ok after.tree ∧
      after.tree.Holds path learner ∧ after.exit = { output := reportText report } := by
  obtain ⟨trains, learns, file, start, accepted, loaded, answer, final⟩ := finishes
  have sized : learner.params.Sized learner.config.featureDim := by
    obtain ⟨positive, safe⟩ := loadLearner_safe loaded
    obtain ⟨settings, sized, -⟩ := final ▸ surroundings.train_safe positive safe
    exact settings ▸ sized
  obtain ⟨written, writes⟩ := writable learner.params.text.toUTF8
  have keeps : keepLearner surroundings.tree line.common.checkpoint learner = .ok written := by
    simp only [keepLearner, checkpoint, save_of_write writes]
  cases course with
  | unconfigured refused => cases accepted.symm.trans refused
  | unlearned accepted' _ refused =>
    cases accepted.symm.trans accepted'
    cases loaded.symm.trans refused
  | played plays => exact absurd trains plays
  | trained _ unlike => exact absurd learns unlike
  | learned accepted' _ _ loaded' _ leaves =>
    cases accepted.symm.trans accepted'
    cases loaded.symm.trans loaded'
    cases leaves with
    | failed failed => cases answer.symm.trans failed
    | kept answer' kept exit =>
      cases answer.symm.trans answer'
      rw [final, keeps] at kept
      rw [← Except.ok.inj kept]
      exact ⟨writes, holds_of_write sized writes, exit⟩
    | unkept _ refused =>
      rw [final, keeps] at refused
      cases refused

theorem unfinished (course : Course surroundings line after)
    (changed : after.tree ≠ surroundings.tree) :
    (∃ path report learner, line.common.checkpoint = some path ∧
      Finishes surroundings line report learner) ∧ after.exit.status = some 0 := by
  cases course with
  | unconfigured _ tree => exact absurd tree changed
  | unlearned _ _ _ tree => exact absurd tree changed
  | played _ tree => exact absurd tree changed
  | trained _ _ _ leaves =>
    cases leaves with
    | failed _ tree => exact absurd tree changed
    | kept _ kept => exact absurd (Except.ok.inj kept).symm changed
    | unkept _ _ tree => exact absurd tree changed
  | learned accepted trains learns loaded _ leaves =>
    cases leaves with
    | failed _ tree => exact absurd tree changed
    | kept answer kept exit =>
      cases checkpoint : line.common.checkpoint with
      | none =>
        rw [checkpoint] at kept
        exact absurd (Except.ok.inj kept).symm changed
      | some path =>
        refine ⟨⟨path, _, _, rfl, trains, learns, _, _, accepted, loaded, answer, rfl⟩, ?_⟩
        rw [exit]
    | unkept _ _ tree => exact absurd tree changed

theorem fails (course : Course surroundings line after) (trains : line.command.Trains)
    (fails : Fails surroundings line after) : after.exit.status ≠ some 0 := by
  -- Whatever went wrong, training has no report.
  have ends {α : Type} {file : Config} {agent : Agent α} {start : α} {keep : α → Except Failure FileTree}
      (accepted : Config.loadOrDefault surroundings.tree line.config = .ok file)
      (learned : line.common.agent = .neural → ∃ start, loadLearner surroundings
        (line.effective file).neural line.common.checkpoint line.command = .ok start)
      (journal : after.journal = (surroundings.train (line.effective file) agent start).journal)
      (leaves : Leaves surroundings keep (surroundings.train (line.effective file) agent start) after) :
      after.exit.status ≠ some 0 := by
    have failed : ∃ error,
        (surroundings.train (line.effective file) agent start).answer = .error error := by
      cases fails with
      | configuration refused => cases accepted.symm.trans refused
      | learner accepted' learns refused =>
        cases accepted.symm.trans accepted'
        obtain ⟨start, loaded⟩ := learned learns
        cases loaded.symm.trans refused
      | pattern accepted' unresolved =>
        cases accepted.symm.trans accepted'
        exact ⟨_, Surroundings.train_unresolved unresolved⟩
      | call failing => exact Surroundings.train_fails (journal ▸ failing)
    obtain ⟨error, failed⟩ := failed
    cases leaves with
    | failed _ _ status => simp [status]
    | kept answer => cases failed.symm.trans answer
    | unkept answer => cases failed.symm.trans answer
  cases course with
  | unconfigured _ _ status => simp [status]
  | unlearned _ _ _ _ status => exact status
  | played plays => exact absurd trains plays
  | trained accepted other journal leaves =>
    exact ends accepted (fun learns => absurd learns other) journal leaves
  | learned accepted _ _ loaded journal leaves => exact ends accepted (fun _ => ⟨_, loaded⟩) journal leaves

theorem leavesCheckpoint (course : Course surroundings line after) :
    LeavesCheckpoint surroundings line after where
  finished path report learner := course.finished
  unfinished none := by
    by_contra changed
    exact none (course.unfinished changed).1
  changed path checkpoint writable := by
    constructor
    · intro changed
      have other : after.tree ≠ surroundings.tree := fun same => changed (by rw [same])
      obtain ⟨⟨_, report, learner, -, finishes⟩, -⟩ := course.unfinished other
      obtain ⟨-, holds, -⟩ := course.finished checkpoint writable finishes
      refine ⟨report, learner, finishes, ?_⟩
      rw [← holds.content]
      exact changed.symm
    · rintro ⟨report, learner, finishes, unlike⟩
      obtain ⟨-, holds, -⟩ := course.finished checkpoint writable finishes
      rw [holds.content]
      exact unlike.symm
  fails := course.fails
  failed unsuccessful := by
    by_contra changed
    exact unsuccessful (course.unfinished changed).2
  others other := by
    by_contra changed
    obtain ⟨⟨_, _, _, -, finishes⟩, -⟩ := course.unfinished changed
    exact other finishes.learns
  playing plays := by
    by_contra changed
    obtain ⟨⟨_, _, _, -, finishes⟩, -⟩ := course.unfinished changed
    exact plays finishes.trains

end Course

/-- The file with the weights is written by a training that came to its end, and by nothing else. -/
theorem checkpoint_written_by_finished_training (surroundings : Surroundings π) (arguments : List String) :
    (∀ stop, GymLine.read surroundings arguments = .error stop →
      (questGym surroundings arguments).tree = surroundings.tree) ∧
    ∀ line, GymLine.read surroundings arguments = .ok line →
      LeavesCheckpoint surroundings line (questGym surroundings arguments) := by
  constructor
  · intro stop unread
    rw [questGym, unread]
    rfl
  · intro line read
    rw [questGym, read]
    exact (course surroundings line).leavesCheckpoint

theorem finished_training_writes_new_checkpoint :
    let surroundings : Surroundings Unit :=
      { tree := ⟨[(["games"], .directory), (["games", "hall.ulx"], .file
          "(objective: \"Leave.\", stages: [(description: \"A hall.\", command: \"go\")])".toUTF8)]⟩
        environment := fun _ => none
        program := ⟨fun _ state => (⟨[], true⟩, state)⟩
        engine := fun _ => .missing .notFound
        generator := fun _ => .missing .notFound
        random := .ofSeed 0 }
    let arguments :=
      ["train", "--engine", "script", "--agent=neural", "--epochs", "1", "--checkpoint", "new.ron"]
    let line : GymLine := ⟨none, .train none (some 1) none,
      { agent := .neural, engine := some .script, checkpoint := some "new.ron" }⟩
    GymLine.read surroundings arguments = .ok line ∧ surroundings.tree.Writable "new.ron" ∧
      ∃ report learner, Finishes surroundings line report learner ∧ report.epochsCompleted = 1 ∧
        (questGym surroundings arguments).tree.Holds "new.ron" learner := by
  intro surroundings arguments line
  have read : GymLine.read surroundings arguments = .ok line := ok_of_toOption (by decide +kernel)
  have writable : surroundings.tree.Writable "new.ron" := fun content => ⟨_, rfl⟩
  have loaded : loadLearner surroundings (line.effective {}).neural line.common.checkpoint
      line.command = .ok (.new (line.effective {}).neural) := rfl
  let ran := surroundings.train (line.effective {}) Agent.neural (.new (line.effective {}).neural)
  have ends : ran.answer.toOption.map (·.epochsCompleted) = some 1 := by decide +kernel
  obtain ⟨report, found, epochs⟩ := Option.map_eq_some_iff.mp ends
  have finishes : Finishes surroundings line report ran.agent :=
    ⟨⟨_, _, _, rfl⟩, rfl, _, _, rfl, loaded, ok_of_toOption found, rfl⟩
  have leaves := (checkpoint_written_by_finished_training surroundings arguments).2 line read
  obtain ⟨-, holds, -⟩ := leaves.finished "new.ron" report ran.agent rfl writable finishes
  exact ⟨read, writable, report, ran.agent, finishes, epochs, holds⟩

end CommandLine
end TextQuest
