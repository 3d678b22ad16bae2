import TextQuest.Neural.Single
import TextQuest.Proofs.Neural.Learning
import TextQuest.Proofs.Run.Leads
import TextQuest.Rehearsal

/-!
Episodes apart from each other in learning. A journal tells what a learner is and which decisions belong to
the current episode; training keeps to these as long as each run before was completed.
-/
namespace TextQuest
open TextQuest.Neural

variable {R : Type} [Scalar R] {start : Learner R}

def Neural.Decision.made (decision : Decision R) : Decision R := { decision with reward := Scalar.zero }

/-- The decisions that are kept are the latest ones of the current episode, and what was told after the last
of them is shown now. -/
structure Current (kept made : List (Decision R)) (told : Option Observation) (now : Observation) :
    Prop where
  episode : kept.map Decision.made <+: made
  followed : kept ≠ [] → told = some now

namespace Journal

def taught (start : Learner R) : Journal → Learner R
  | [] => start
  | .decided now _ :: earlier => (Agent.neural.decide now (taught start earlier)).agent
  | .finished last _ :: earlier => (Agent.neural.finish last (taught start earlier)).agent
  | .training on :: earlier => (taught start earlier).setTraining on
  | _ :: earlier => taught start earlier

def made (start : Learner R) : Journal → List (Decision R)
  | [] => []
  | .preparing :: _ => []
  | .decided now (.ok _) :: earlier => (taught start earlier).decision now.state :: made start earlier
  | _ :: earlier => made start earlier

def told : Journal → Option Observation
  | [] => none
  | .asked .reset (.ok state) :: _ => some { state }
  | .asked (.step _) (.ok observation) :: _ => some observation
  | .preparing :: _ | .decided _ _ :: _ => none
  | _ :: earlier => told earlier

/-- Episodes are not mixed in learning: at every call that a learner may learn from what it kept, this is of
the current episode. -/
def Apart (start : Learner R) : Journal → Prop
  | [] => True
  | .decided now _ :: earlier =>
    Current (taught start earlier).buffer (made start earlier) (told earlier) now ∧ Apart start earlier
  | .finished last _ :: earlier =>
    Current (taught start earlier).buffer (made start earlier) (told earlier) last ∧ Apart start earlier
  | _ :: earlier => Apart start earlier

theorem told_by_played (start : Learner R) (journal : Journal) :
    journal.played.taught start = journal.taught start ∧ journal.played.made start = journal.made start ∧
      journal.played.told = journal.told ∧ (journal.played.Apart start ↔ journal.Apart start) := by
  induction journal with
  | nil => exact ⟨rfl, rfl, rfl, Iff.rfl⟩
  | cons entry earlier ih =>
    obtain ⟨taught, made, told, apart⟩ := ih
    cases isPlay : entry.isPlay with
    | false =>
      have same : played (entry :: earlier) = played earlier := by simp [played, isPlay]
      rw [same]
      cases entry with
      | asked call answer =>
        cases call with
        | reset | step _ | walkthrough => cases isPlay
        | _ => exact ⟨taught, made, told, apart⟩
      | started _ _ | closed _ | polled _ | noted _ => exact ⟨taught, made, told, apart⟩
      | _ => cases isPlay
    | true =>
      have same : played (entry :: earlier) = entry :: played earlier := by simp [played, isPlay]
      rw [same]
      cases entry with
      | asked call answer =>
        cases call <;> cases answer <;> simp [Journal.taught, Journal.made, Journal.told, Apart, *]
      | decided now answer =>
        cases answer <;> simp [Journal.taught, Journal.made, Journal.told, Apart, *]
      | _ => simp [Journal.taught, Journal.made, Journal.told, Apart, *]

variable {journal : Journal}

theorem Apart.drop (apart : journal.Apart start) (count : Nat) : Apart start (List.drop count journal) := by
  induction journal generalizing count with
  | nil => simpa using apart
  | cons entry earlier ih =>
    cases count with
    | zero => exact apart
    | succ count =>
      have rest : Apart start earlier := by
        cases entry with
        | decided _ _ | finished _ _ => exact apart.2
        | _ => exact apart
      exact ih rest count

theorem Apart.length_le (apart : journal.Apart start) (count : Nat)
    (decides : (List.drop count journal).head?.any Entry.isDecision = true) :
    (taught start (List.drop (count + 1) journal)).buffer.length ≤
      (made start (List.drop (count + 1) journal)).length := by
  have apart := apart.drop count
  rw [← List.tail_drop]
  cases same : List.drop count journal with
  | nil => simp [same] at decides
  | cons entry earlier =>
    rw [same] at apart decides
    cases entry with
    | decided now answer => simpa using apart.1.episode.length_le
    | _ => cases decides

end Journal

variable {σ γ : Type}

theorem Scene.Level.told {one other : Scene σ (Learner R)} (level : one.Level other) (start : Learner R) :
    one.journal.taught start = other.journal.taught start ∧
      one.journal.made start = other.journal.made start ∧ one.journal.told = other.journal.told ∧
      (one.journal.Apart start ↔ other.journal.Apart start) := by
  obtain ⟨taught, made, told, apart⟩ := Journal.told_by_played start one.journal
  obtain ⟨taught', made', told', apart'⟩ := Journal.told_by_played start other.journal
  rw [level.played] at taught made told apart
  exact ⟨taught.symm.trans taught', made.symm.trans made', told.symm.trans told', apart.symm.trans apart'⟩

namespace Scene

structure Tracks (start : Learner R) (scene : Scene σ (Learner R)) : Prop where
  agent : scene.agent = scene.journal.taught start
  apart : scene.journal.Apart start

structure Rests (start : Learner R) (scene : Scene σ (Learner R)) : Prop extends scene.Tracks start where
  training : scene.agent.training = true
  empty : scene.agent.buffer = []

structure Plays (start : Learner R) (scene : Scene σ (Learner R)) : Prop extends scene.Tracks start where
  training : scene.agent.training = true
  episode : scene.agent.buffer.map Decision.made <+: scene.journal.made start

structure Sees (start : Learner R) (last : Observation) (scene : Scene σ (Learner R)) : Prop
    extends scene.Plays start where
  followed : scene.agent.buffer ≠ [] → scene.journal.told = some last

variable {one other scene : Scene σ (Learner R)} {last : Observation}

theorem Tracks.level (tracks : one.Tracks start) (level : one.Level other) : other.Tracks start := by
  obtain ⟨taught, -, -, apart⟩ := level.told start
  exact ⟨level.agent ▸ taught ▸ tracks.agent, apart.mp tracks.apart⟩

theorem Rests.level (rests : one.Rests start) (level : one.Level other) : other.Rests start :=
  ⟨rests.toTracks.level level, level.agent ▸ rests.training, level.agent ▸ rests.empty⟩

theorem Plays.level (plays : one.Plays start) (level : one.Level other) : other.Plays start := by
  obtain ⟨-, made, -, -⟩ := level.told start
  exact ⟨plays.toTracks.level level, level.agent ▸ plays.training, level.agent ▸ made ▸ plays.episode⟩

theorem Sees.level (sees : one.Sees start last) (level : one.Level other) : other.Sees start last := by
  obtain ⟨-, -, told, -⟩ := level.told start
  exact ⟨sees.toPlays.level level, level.agent ▸ told ▸ sees.followed⟩

theorem Rests.sees (rests : scene.Rests start) (last : Observation) : scene.Sees start last where
  toTracks := rests.toTracks
  training := rests.training
  episode := by
    rw [rests.empty]
    exact List.nil_prefix
  followed := fun kept => absurd rests.empty kept

theorem Sees.current (sees : scene.Sees start last) :
    Current (scene.journal.taught start).buffer (scene.journal.made start) scene.journal.told last := by
  rw [← sees.agent]
  exact ⟨sees.episode, sees.followed⟩

end Scene

namespace Run

abbrev learning (engine : Engine σ) (cancelled : Journal → Bool) : Cast σ (Learner R) :=
  ⟨engine, Agent.neural, cancelled⟩

variable {engine : Engine σ} {cancelled : Journal → Bool} {scene : Scene σ (Learner R)}
  {run : EpisodeRun}

theorem rewarded_made (amount : R) (decisions : List (Decision R)) :
    (rewarded amount decisions).map Decision.made = decisions.map Decision.made := by
  cases decisions <;> rfl

theorem leads_decide (sees : scene.Sees start run.last) :
    Leads (learning engine cancelled) (Scene.Tracks start)
      (do ofAgent (← act (.decide run.last))) scene fun _ after => after.Plays start := by
  let decided := Agent.neural.decide run.last scene.agent
  let after : Scene σ (Learner R) :=
    { scene with agent := decided.agent }.record (.decided run.last decided.result)
  have level : after.Level ((learning engine cancelled).perform (.decide run.last) scene).2 :=
    (Scene.level_recordNotes _ _).record _
  have tracks : after.Tracks start :=
    ⟨congrArg (fun learner => (Agent.neural.decide run.last learner).agent) sees.agent,
      sees.current, sees.apart⟩
  refine Leads.bind (Leads.act (Leads.ofAgent (fun command chosen => ?_) (tracks.level level)))
  have chosen : decided.result = .ok command := chosen
  refine Scene.Plays.level ?_ level
  have offered : run.last.state.admissibleCommands ≠ [] := by
    intro nothing
    simp [decided, Agent.neural, nothing] at chosen
  have remembers : scene.agent.Remembers _ _ decided.agent :=
    Learner.decide_remembers sees.training offered
  have made : after.journal.made start =
      scene.agent.decision run.last.state :: scene.journal.made start := by
    simp only [after, Scene.record, chosen, Journal.made, sees.agent]
  refine ⟨tracks, remembers.training.trans sees.training, ?_⟩
  rw [made]
  by_cases enough : scene.agent.config.updateFrequency ≤ scene.agent.buffer.length
  · have buffer : after.agent.buffer = _ := (remembers.learns enough).2
    rw [buffer]
    exact List.prefix_cons_inj _ |>.mpr (List.nil_prefix)
  · have buffer : after.agent.buffer = _ := (remembers.keeps (Nat.lt_of_not_le enough)).2
    rw [buffer, List.map_cons, rewarded_made]
    exact (List.prefix_cons_inj _).mpr sees.episode

theorem leads_step {command : String} (plays : scene.Plays start) :
    Leads (learning engine cancelled) (Scene.Tracks start) (ask (.step command)) scene
      fun observation after => after.Sees start observation := by
  have asked (engine : σ) (answer : (Call.step command).Answer) :
      ({ scene with engine }.record (.asked (.step command) answer)).Plays start :=
    ⟨⟨plays.agent, plays.apart⟩, plays.training, plays.episode⟩
  refine Leads.bind (Leads.act (Leads.ofEngine (fun observation answers => ?_) (asked _ _).toTracks))
  refine ⟨asked _ _, fun _ => ?_⟩
  have told (earlier : Journal) (answer : (Call.step command).Answer) (succeeds : answer = .ok observation) :
      Journal.told (.asked (.step command) answer :: earlier) = some observation := by
    subst succeeds
    rfl
  exact told _ _ answers

theorem leads_turn (sees : scene.Sees start run.last) :
    Leads (learning engine cancelled) (Scene.Tracks start) (turn run) scene
      fun next after => after.Sees start next.last := by
  have decides : Leads (learning engine cancelled) _ _ scene _ := leads_decide sees
  unfold turn
  rw [← bind_assoc]
  refine Leads.bind (decides.weaken fun command after plays => ?_)
  refine Leads.bind ((leads_step plays).weaken fun observation after sees => ?_)
  exact Leads.bind (Leads.act (Leads.pure (sees.level (Scene.level_record after rfl))))

theorem leads_look (watched : Bool) (sees : scene.Sees start run.last) :
    Leads (learning engine cancelled) (Scene.Tracks start) (look watched) scene
      fun _ after => after.Sees start run.last := by
  cases watched with
  | false => exact Leads.pure sees
  | true =>
    exact Leads.aside (Aside.act rfl) (fun _ after level => sees.level level)
      fun after level => sees.toTracks.level level

theorem leads_proceed (watched : Bool) (budget : Nat) (sees : scene.Sees start run.last) :
    Leads (learning engine cancelled) (Scene.Tracks start) (proceed watched budget run) scene
      fun ended after => after.Sees start ended.last := by
  induction budget generalizing scene run with
  | zero => exact Leads.pure sees
  | succ budget ih =>
    rw [proceed_succ]
    refine Leads.bind ((leads_look watched sees).weaken fun interrupted after sees => ?_)
    split
    · exact Leads.pure sees
    · refine Leads.bind ((leads_turn sees).weaken fun next after sees => ?_)
      split
      · exact Leads.pure sees
      · exact ih sees

theorem leads_reset (rests : scene.Rests start) :
    Leads (learning engine cancelled) (Scene.Tracks start) (ask .reset) scene
      fun state after => after.Sees start { state } := by
  have asked (engine : σ) (answer : Call.reset.Answer) :
      ({ scene with engine }.record (.asked .reset answer)).Rests start :=
    ⟨⟨rests.agent, rests.apart⟩, rests.training, rests.empty⟩
  exact Leads.bind (Leads.act (Leads.ofEngine (fun state _ => (asked _ _).sees _) (asked _ _).toTracks))

theorem leads_episode (watched : Bool) (maxSteps : Nat) (rests : scene.Rests start) :
    Leads (learning engine cancelled) (Scene.Tracks start) (episode watched maxSteps) scene
      fun ended after => after.Sees start ended.last := by
  have prepared : ((learning engine cancelled).perform .prepare scene).2.Rests start :=
    ⟨⟨rests.agent, rests.apart⟩, rests.training, rests.empty⟩
  refine Leads.bind (Leads.act (Leads.bind (Leads.ofAgent (fun _ _ => ?_) prepared.toTracks)))
  exact Leads.bind ((leads_reset prepared).weaken fun state after sees => leads_proceed watched maxSteps sees)

theorem rests_finish (sees : scene.Sees start run.last) :
    ((learning engine cancelled).perform (.finish run.last) scene).2.Rests start := by
  have taught : ((learning engine cancelled).perform (.finish run.last) scene).2.agent = _ :=
    Learner.finish_training sees.training
  refine ⟨⟨?_, sees.current, sees.apart⟩, ?_, ?_⟩
  · exact congrArg (fun learner => (Agent.neural.finish run.last learner).agent) sees.agent
  · rw [taught]
    exact sees.training
  · rw [taught]

theorem leads_aside {run : Run γ} (aside : Aside (learning engine cancelled : Cast σ (Learner R)) run)
    (rests : scene.Rests start) :
    Leads (learning engine cancelled) (Scene.Tracks start) run scene fun _ after => after.Rests start :=
  Leads.aside aside (fun _ _ level => rests.level level) fun _ level => rests.toTracks.level level

def Rested (start : Learner R) (training : Training) (scene : Scene σ (Learner R)) : Prop :=
  scene.Tracks start ∧ (training.interrupted = false → scene.Rests start)

theorem leads_trainGames (maxSteps epoch : Nat) (games : List String) (training : Training)
    (rests : scene.Rests start) :
    Leads (learning engine cancelled) (Scene.Tracks start) (trainGames maxSteps epoch games training) scene
      (Rested start) := by
  -- Each episode begins when nothing is kept, and showing its end leaves nothing.
  induction games generalizing scene training with
  | nil => exact Leads.pure ⟨rests.toTracks, fun _ => rests⟩
  | cons game games ih =>
    refine Leads.bind ((leads_aside (Aside.act rfl) rests).weaken fun seen polled rests => ?_)
    split
    · exact Leads.pure ⟨rests.toTracks, fun whole => nomatch whole⟩
    · refine Leads.bind ((leads_aside (Aside.openSession game) rests).weaken fun _ opened rests => ?_)
      have plays : Leads (learning engine cancelled) _ (guarded game (episode true maxSteps)) opened _ :=
        (leads_episode true maxSteps rests).guarded fun _ _ level tracks => tracks.level level
      refine Leads.bind (plays.weaken fun run ended sees => ?_)
      split
      · refine Leads.bind (Leads.aside (Aside.releaseInterrupted game) (fun _ after level => ?_) ?_)
        · exact Leads.pure ⟨sees.toTracks.level level, fun whole => nomatch whole⟩
        · exact fun after level => sees.toTracks.level level
      · refine Leads.bind (Leads.aside (Aside.release game) (fun answer after level => ?_) ?_)
        · have sees := sees.level level
          refine Leads.bind (Leads.ofEngine (fun _ _ => ?_) sees.toTracks)
          have rests : ((learning engine cancelled).perform _ _).2.Rests start := rests_finish sees
          refine Leads.bind (Leads.act (Leads.bind (Leads.ofAgent (fun _ _ => ?_) rests.toTracks)))
          refine Leads.bind ((leads_aside (Aside.act rfl) rests).weaken fun _ noted rests => ?_)
          exact ih _ rests
        · exact fun after level => sees.toTracks.level level

theorem leads_trainEpochs (maxSteps more : Nat) (order : EpochOrder) (training : Training)
    (rests : scene.Rests start) :
    Leads (learning engine cancelled) (Scene.Tracks start) (trainEpochs maxSteps more order training) scene
      (Rested start) := by
  induction more generalizing scene order training with
  | zero => exact Leads.pure ⟨rests.toTracks, fun _ => rests⟩
  | succ more ih =>
    refine Leads.bind ((leads_trainGames maxSteps _ _ training rests).weaken ?_)
    rintro training after ⟨tracks, rested⟩
    split
    · rename_i interrupted
      exact Leads.pure ⟨tracks, fun whole => absurd (whole.symm.trans interrupted) Bool.false_ne_true⟩
    · rename_i whole
      exact ih _ _ (rested (by simpa using whole))

theorem leads_trainAll (config : TrainConfig) (games : List String) (rests : scene.Rests start) :
    Leads (learning engine cancelled) (Scene.Tracks start) (trainAll config games) scene (Rested start) := by
  rw [trainAll_eq]
  exact leads_trainEpochs _ _ _ _ rests

theorem leads_trainOn (agentName : String) (config : TrainConfig) (games : List String) (engine : Engine σ)
    (cancelled : Journal → Bool) (empty : start.buffer = []) (current : σ) :
    Leads (learning engine cancelled) (Scene.Tracks start) (trainOn agentName config games)
      ⟨current, start, []⟩ fun report after =>
        after.Tracks start ∧ (report.interrupted = false → after.agent.buffer = []) := by
  refine Leads.bind (Leads.act (Leads.bind (Leads.act ?_)))
  have rests : ((learning engine cancelled).perform (.setTraining true)
      ((learning engine cancelled).perform (.note (startNote agentName games.length config))
        ⟨current, start, []⟩).2).2.Rests start := ⟨⟨rfl, trivial⟩, rfl, empty⟩
  refine Leads.bind ((leads_trainAll config games rests).weaken ?_)
  rintro training after ⟨tracks, rested⟩
  have level : after.Level (after.record (.noted (endNote training.report))) :=
    Scene.level_record after rfl
  exact Leads.bind (Leads.act (Leads.pure ⟨tracks.level level, fun whole => (rested whole).empty⟩))

end Run

structure TrainingRun where
  {σ : Type}
  engine : Engine σ
  current : σ
  cancelled : Journal → Bool
  agentName : String
  config : TrainConfig
  games : List String

namespace TrainingRun

def performed (run : TrainingRun) (learner : Learner R) :
    Except RunError TrainReport × Scene run.σ (Learner R) :=
  (Run.trainOn run.agentName run.config run.games).perform (Run.learning run.engine run.cancelled)
    ⟨run.current, learner, []⟩

def InTurn (holds : TrainingRun → Learner R → Prop) : List TrainingRun → Learner R → Prop
  | [], _ => True
  | run :: later, learner => holds run learner ∧ InTurn holds later (run.performed learner).2.agent

def Completes (run : TrainingRun) (learner : Learner R) : Prop :=
  ∃ report, (run.performed learner).1 = .ok report ∧ report.interrupted = false

theorem tracks_performed (run : TrainingRun) (empty : start.buffer = []) :
    (run.performed start).2.Tracks start ∧
      (run.Completes start → (run.performed start).2.agent.buffer = []) := by
  have leads := Run.leads_trainOn run.agentName run.config run.games run.engine run.cancelled empty
    run.current
  unfold Run.Leads at leads
  unfold Completes performed
  generalize Run.perform _ _ _ = performed at leads ⊢
  obtain ⟨error | report, after⟩ := performed
  · exact ⟨leads, fun ⟨_, failed, _⟩ => nomatch failed⟩
  · obtain ⟨tracks, ends⟩ := leads
    refine ⟨tracks, ?_⟩
    rintro ⟨_, same, whole⟩
    cases same
    exact ends whole

end TrainingRun

theorem completed_runs_keep_episodes_apart (earlier : List TrainingRun) (last : TrainingRun)
    (learner : Learner R) (empty : learner.buffer = [])
    (completed : TrainingRun.InTurn TrainingRun.Completes earlier learner) :
    TrainingRun.InTurn (fun run start => (run.performed start).2.Tracks start) (earlier ++ [last])
      learner := by
  induction earlier generalizing learner with
  | nil => exact ⟨(last.tracks_performed empty).1, trivial⟩
  | cons run later ih =>
    obtain ⟨completes, completed⟩ := completed
    obtain ⟨tracks, ends⟩ := run.tracks_performed empty
    exact ⟨tracks, ih _ (ends completes) completed⟩

def TrainingRun.rehearsed (cancelled : Journal → Bool) : TrainingRun where
  engine := Rehearsal.engine
  current :=
    { state := { admissibleCommands := ["go"] }
      steps := [.ok { state := { admissibleCommands := ["go"] } },
        .ok { state := {}, reward := .positive, done := true }] }
  cancelled := cancelled
  agentName := "neural"
  config := { maxSteps := 5, epochs := 1 }
  games := ["hall.ron"]

theorem episodes_apart_after_completed_run :
    let learner := Learner.new { Config.standard with updateFrequency := 1 }
    let completed := TrainingRun.rehearsed fun _ => false
    let interrupted := TrainingRun.rehearsed fun journal => journal.any Entry.isDecision
    learner.buffer = [] ∧ TrainingRun.InTurn TrainingRun.Completes [completed] learner ∧
      TrainingRun.InTurn (fun run start => (run.performed start).2.Tracks start) [completed, interrupted]
        learner := by
  intro learner completed interrupted
  have ends : ((completed.performed learner).1.toOption.map (·.interrupted)) = some false := by
    decide +kernel
  have completes : completed.Completes learner := by
    cases performed : (completed.performed learner).1 with
    | error error => simp [performed, Except.toOption] at ends
    | ok report => exact ⟨report, performed, by simpa [performed, Except.toOption] using ends⟩
  exact ⟨rfl, ⟨completes, trivial⟩,
    completed_runs_keep_episodes_apart [completed] interrupted learner rfl ⟨completes, trivial⟩⟩

theorem run_after_interrupted_one_mixes_episodes :
    let learner := Learner.new { Config.standard with updateFrequency := 1 }
    let interrupted := TrainingRun.rehearsed fun journal => journal.any Entry.isDecision
    let next := TrainingRun.rehearsed fun _ => false
    learner.buffer = [] ∧
      ¬ TrainingRun.InTurn (fun run start => (run.performed start).2.journal.Apart start)
        [interrupted, next] learner := by
  refine ⟨rfl, ?_⟩
  rintro ⟨-, mixed, -⟩
  -- The next run has not decided anything yet, and still there is a decision to learn from.
  have fewer := mixed.length_le 12 (by decide +kernel)
  exact absurd fewer (by decide +kernel)

end TextQuest
