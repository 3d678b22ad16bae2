import TextQuest.Proofs.Neural.Safety
import TextQuest.Proofs.Quest.Reuse

namespace TextQuest

inductive Agent.Showing
  | decide (now : Observation)
  | finish (last : Observation)

def Agent.shown {α : Type} (agent : Agent α) (state : α) : Showing → α
  | .decide now => (agent.decide now state).agent
  | .finish last => (agent.finish last state).agent

def Agent.Steady {α : Type} (agent : Agent α) (state : α) : Prop :=
  ∀ now, (agent.decide now state).agent = state

namespace Neural.Learner

open TextQuest.Agent

variable {R : Type} [Scalar R] {learner : Learner R}

theorem steady (evaluating : learner.training = false) : neural.Steady learner :=
  decide_evaluating evaluating

theorem shown_evaluating (evaluating : learner.training = false) (showing : Showing) :
    neural.shown learner showing = learner := by
  cases showing with
  | decide now => exact decide_evaluating evaluating now
  | finish last => exact finish_evaluating evaluating last

def evaluated (learner : Learner R) (showings : List Showing) : Learner R :=
  neural.setTraining learner.training
    (showings.foldl neural.shown (neural.setTraining false learner))

theorem evaluated_eq (emptied : learner.buffer = []) (showings : List Showing) :
    learner.evaluated showings = learner := by
  have still : ∀ evaluating : Learner R, evaluating.training = false →
      showings.foldl neural.shown evaluating = evaluating := by
    intro evaluating off
    induction showings with
    | nil => rfl
    | cons showing later ih => rw [List.foldl_cons, shown_evaluating off, ih]
  have back : neural.setTraining learner.training (neural.setTraining false learner) = learner := by
    obtain ⟨config, params, random, training, buffer, stats, decisions⟩ := learner
    obtain rfl : buffer = [] := emptied
    cases training <;> rfl
  rw [evaluated, still _ rfl, back]

end Neural.Learner

namespace Run

variable {α β γ : Type} {find : String → Except EngineError Script} {agent : Agent α} {state : α}
  {script : Script} {quest further : Quest}

/-- Wherever an agent in this state does the run on this quest, it comes to the same result and the same
quest, and leaves the agent as it is. -/
def Settles (find : String → Except EngineError Script) (agent : Agent α) (state : α) (run : Run β)
    (quest : Quest) (result : β) (further : Quest) : Prop :=
  ∀ (cast : Cast (Option Quest) α) (scene : Scene (Option Quest) α), cast.engine = Quest.engine find →
    cast.agent = agent → scene.engine = some quest → scene.agent = state →
    Succeeds cast run scene fun found after =>
      found = result ∧ after.engine = some further ∧ after.agent = state

namespace Settles

variable {run : Run β} {result : β}

theorem pure : Settles find agent state (pure result) quest result quest :=
  fun _ _ _ _ current same => Succeeds.pure ⟨rfl, current, same⟩

theorem note (line : Note) : Settles find agent state (note line) quest () quest :=
  fun _ _ _ _ current same => Succeeds.note ⟨rfl, current, same⟩

theorem bind {next : β → Run γ} {final : γ} {last : Quest}
    (first : Settles find agent state run quest result further)
    (rest : Settles find agent state (next result) further final last) :
    Settles find agent state (run >>= next) quest final last := by
  intro cast scene plays acts current same
  refine Succeeds.bind ((first cast scene plays acts current same).weaken ?_)
  rintro _ after ⟨rfl, current, same⟩
  exact rest cast after plays acts current same

theorem ofAgent {answer : Except AgentError β} (succeeds : answer = .ok result) :
    Settles find agent state (ofAgent answer) quest result quest :=
  fun _ _ _ _ current same => Succeeds.ofAgent succeeds ⟨rfl, current, same⟩

theorem prepare (willing : agent.Willing) :
    Settles find agent state (act .prepare) quest (.ok ()) quest := by
  rintro cast scene plays rfl current rfl
  refine (succeeds_prepare_willing willing).weaken ?_
  rintro _ after ⟨rfl, still, same⟩
  exact ⟨rfl, still.trans current, same⟩

theorem ask {call : Call} {reply : call.Reply} (asked : Quest.session.ask call quest = (.ok reply, further)) :
    Settles find agent state (ask call) quest reply further := by
  intro cast scene plays acts current same
  have told := ask_quest plays current asked
  refine Succeeds.ask (congrArg Prod.fst told) ?_
  rw [told]
  exact ⟨rfl, rfl, same⟩

end Settles

theorem settles_turn (willing : agent.Willing) (steady : agent.Steady state)
    (nonempty : 0 < script.stages.length) {run : EpisodeRun} (played : quest.Played script run)
    (unfinished : quest.done = false) :
    ∃ next further, Settles find agent state (turn run) quest next further ∧
      further.Played script next := by
  obtain ⟨observation, further, played, turns⟩ := exists_turn willing nonempty state played unfinished
  refine ⟨run.after observation, further, fun cast scene plays acts current same => ?_, played⟩
  refine (turns cast scene plays acts current same).weaken ?_
  rintro next after ⟨same, engine, decided⟩
  exact ⟨same, engine, decided.trans (steady run.last)⟩

theorem settles_proceed (willing : agent.Willing) (steady : agent.Steady state)
    (nonempty : 0 < script.stages.length) (budget : Nat) {run : EpisodeRun}
    (played : quest.Played script run) (unfinished : quest.done = false) :
    ∃ result further, Settles find agent state (proceed false budget run) quest result further ∧
      further.Ready script := by
  induction budget generalizing run quest with
  | zero => exact ⟨run, quest, .pure, played.ready⟩
  | succ budget ih =>
    obtain ⟨next, further, turned, played⟩ := settles_turn willing steady nonempty played unfinished
    have looked : Settles find agent state (look false) quest false quest := .pure
    rw [proceed_succ]
    by_cases done : next.last.done = true
    · refine ⟨next, further, looked.bind (turned.bind ?_), played.ready⟩
      rw [if_pos done]
      exact .pure
    · have goesOn : further.done = false := by simpa [played.done] using done
      obtain ⟨result, last, proceeds, ready⟩ := ih played goesOn
      refine ⟨result, last, looked.bind (turned.bind ?_), ready⟩
      rwa [if_neg done]

variable (find)

theorem settles_episode (willing : agent.Willing) (steady : agent.Steady state)
    (nonempty : 0 < script.stages.length) (maxSteps : Nat) :
    ∃ result further, further.Ready script ∧ ∀ quest : Quest, quest.Ready script →
      Settles find agent state (episode false maxSteps) quest result further := by
  -- Every ready quest restarts as one on which nothing was played yet, so that one settles the result.
  let first : Quest := { script, tracking := true, intermediate := true }
  have readyFirst : first.Ready script := ⟨rfl, rfl, rfl, rfl⟩
  obtain ⟨result, further, proceeds, onward⟩ :=
    settles_proceed willing steady nonempty maxSteps (Quest.played_restarted readyFirst) rfl
  refine ⟨result, further, onward, fun quest ready => ?_⟩
  have restarts := ready.ask_reset
  rw [ready.restarted_eq readyFirst] at restarts
  refine (Settles.prepare willing).bind ((Settles.ofAgent rfl).bind ?_)
  exact (Settles.ask restarts).bind proceeds

theorem settles_episodes (willing : agent.Willing) (steady : agent.Steady state)
    (nonempty : 0 < script.stages.length) (maxSteps : Nat) :
    ∃ outcome, ∀ (count number : Nat) (played : List EpisodeOutcome) (quest : Quest), quest.Ready script →
      ∃ further, Settles find agent state (episodes maxSteps count number played) quest
        ⟨played.reverse ++ List.replicate count outcome⟩ further := by
  obtain ⟨result, further, onward, plays⟩ := settles_episode find willing steady nonempty maxSteps
  refine ⟨result.outcome, fun count => ?_⟩
  induction count with
  | zero =>
    intro number played quest _
    rw [List.replicate_zero, List.append_nil]
    exact ⟨quest, .pure⟩
  | succ count ih =>
    intro number played quest ready
    obtain ⟨last, rest⟩ := ih (number + 1) (result.outcome :: played) further onward
    refine ⟨last, (plays quest ready).bind ((Settles.note _).bind ?_)⟩
    rwa [List.reverse_cons, List.append_assoc, List.singleton_append, ← List.replicate_succ] at rest

theorem play_repeats (willing : agent.Willing) (steady : agent.Steady state) {game : String}
    (found : find game = .ok script) (nonempty : 0 < script.stages.length) (maxSteps : Nat) :
    ∃ outcome, ∀ (cast : Cast (Option Quest) α) (scene : Scene (Option Quest) α),
      cast.engine = Quest.engine find → cast.agent = agent → scene.agent = state →
      ∀ agentName count, Succeeds cast (play agentName game maxSteps count) scene fun summary after =>
        summary.episodes = List.replicate count outcome ∧ after.agent = state := by
  obtain ⟨outcome, repeats⟩ := settles_episodes find willing steady nonempty maxSteps
  refine ⟨outcome, fun cast scene plays acts same agentName count => ?_⟩
  refine Succeeds.bind (((succeeds_openSession plays found).level (Aside.openSession game)).weaken ?_)
  rintro _ opened ⟨⟨quest, current, ready⟩, level⟩
  obtain ⟨further, settles⟩ := repeats count 0 [] quest ready
  have played := settles cast opened plays acts current (level.agent.symm.trans same)
  refine Succeeds.bind (Succeeds.guarded (played.weaken ?_))
  rintro summary after ⟨rfl, current, still⟩
  refine ((succeeds_conclude plays current _ _).level (aside_conclude _ _)).weaken ?_
  rintro _ last ⟨rfl, level⟩
  exact ⟨rfl, level.agent.symm.trans still⟩

end Run

/-- Evaluating a learner leaves it as it was, unless it still holds decisions to learn from; none are left
after an episode of training. In evaluation it plays all episodes on a quest alike. -/
theorem evaluation_leaves_no_trace {R : Type} [Neural.Scalar R] (learner : Neural.Learner R) :
    (learner.training = true → ∀ last, (Agent.neural.finish last learner).agent.buffer = []) ∧
    (learner.buffer = [] → ∀ showings, learner.evaluated showings = learner) ∧
    (learner.training = false → ∀ (tree : FileTree) (game : String) (script : Script),
      Script.load tree game = .ok script → ∀ maxSteps, ∃ outcome,
        ∀ agentName count cancelled current journal,
          Run.Succeeds ⟨Quest.engine (Script.load tree), Agent.neural, cancelled⟩
            (Run.play agentName game maxSteps count) ⟨current, learner, journal⟩ fun summary after =>
              summary.episodes = List.replicate count outcome ∧ after.agent = learner) := by
  refine ⟨fun training last => ?_, fun emptied => Neural.Learner.evaluated_eq emptied, ?_⟩
  · rw [Neural.Learner.finish_training training]
  · intro evaluating tree game script loaded maxSteps
    have nonempty : 0 < script.stages.length := Script.stages_of_load loaded
    obtain ⟨outcome, repeats⟩ := Run.play_repeats _ Agent.neural_willing (Neural.Learner.steady evaluating)
      loaded nonempty maxSteps
    refine ⟨outcome, fun agentName count cancelled current journal => ?_⟩
    exact repeats ⟨_, _, cancelled⟩ ⟨current, learner, journal⟩ rfl rfl rfl agentName count

theorem trained_learner_evaluated :
    let script : Script :=
      { objective := "Leave.",
        stages := [{ description := "A hall.", command := "go", distractors := ["dance"] }] }
    let tree := ({} : FileTree).addFile ["hall.ron"]
      ("(objective: \"Leave.\", stages: [(description: \"A hall.\", command: \"go\", " ++
        "distractors: [\"dance\"])])").toUTF8
    let now : Observation := { state := { description := "A hall.", admissibleCommands := ["dance", "go"] } }
    let last : Observation := { state := { won := true }, reward := .positive, done := true }
    let fresh : Neural.Learner Float32 := .new .standard
    let playing := (Agent.neural.decide now (Agent.neural.setTraining true fresh)).agent
    let trained := (Agent.neural.finish last playing).agent
    playing.training = true ∧ trained.buffer = [] ∧
      trained.evaluated [.decide now, .decide last, .finish last] = trained ∧
      fresh.training = false ∧ Script.load tree "hall.ron" = .ok script ∧
      ∃ outcome, ∀ current,
        Run.Succeeds ⟨Quest.engine (Script.load tree), Agent.neural, fun _ => false⟩
          (Run.play "neural" "hall.ron" 5 3) ⟨current, fresh, []⟩ fun summary after =>
            summary.episodes = [outcome, outcome, outcome] ∧ after.agent = fresh := by
  intro script tree now last fresh playing trained
  have training : playing.training = true := rfl
  have emptied : trained.buffer = [] := (evaluation_leaves_no_trace playing).1 training last
  have loaded : Script.load tree "hall.ron" = .ok script := by decide +kernel
  refine ⟨training, emptied, (evaluation_leaves_no_trace trained).2.1 emptied _, rfl, loaded, ?_⟩
  obtain ⟨outcome, repeats⟩ := (evaluation_leaves_no_trace fresh).2.2 rfl tree "hall.ron" script loaded 5
  exact ⟨outcome, fun current => repeats "neural" 3 (fun _ => false) current []⟩

end TextQuest
