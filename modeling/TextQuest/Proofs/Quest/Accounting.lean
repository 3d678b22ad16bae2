import TextQuest.Proofs.Agent.Choice
import TextQuest.Proofs.Quest.Sound
import TextQuest.Proofs.Run.Conduct
import TextQuest.Proofs.Run.Success
import TextQuest.Script.Document

namespace TextQuest

structure EpisodeOutcome.AddsUp (outcome : EpisodeOutcome) (stages maxSteps : Nat) : Prop where
  moves : outcome.steps = outcome.moves
  within : outcome.steps ≤ maxSteps
  done : outcome.done = true ↔ outcome.termination = .won ∨ outcome.termination = .lost
  neverEnded : outcome.termination ≠ .ended
  neverInterrupted : outcome.termination ≠ .interrupted
  score : outcome.score = if outcome.termination = .won then 1 else 0
  maxScore : outcome.maxScore = 1
  won : outcome.termination = .won → stages ≤ outcome.steps ∧ outcome.totalReward = stages
  lost : outcome.termination = .lost →
    -1 ≤ outcome.totalReward ∧ outcome.totalReward ≤ min (stages : Int) outcome.steps - 2
  unfinished : outcome.termination = .stepBudget →
    outcome.steps = maxSteps ∧ 0 ≤ outcome.totalReward ∧
      outcome.totalReward ≤ min ((stages : Int) - 1) outcome.steps

structure RunSummary.AddsUp (summary : RunSummary) (stages maxSteps count : Nat) : Prop where
  length : summary.episodes.length = count
  outcomes : ∀ outcome ∈ summary.episodes, outcome.AddsUp stages maxSteps

namespace Quest

structure Ready (quest : Quest) (script : Script) : Prop where
  script : quest.script = script
  isOpen : quest.closed = false
  tracking : quest.tracking = true
  intermediate : quest.intermediate = true

/-- A quest after an episode as far as it was played: each cleared stage was rewarded, and a loss was
punished. -/
structure Played (quest : Quest) (script : Script) (run : EpisodeRun) : Prop where
  ready : quest.Ready script
  sound : quest.Sound
  uninterrupted : run.interrupted = false
  state : run.last.state = quest.snapshot
  done : run.last.done = quest.done
  steps : run.steps = quest.moves
  rewards : run.totalReward = quest.stage - (quest.lost.toNat : Int)
  spent : quest.stage + quest.lost.toNat ≤ quest.moves

variable {quest after : Quest} {script : Script} {run : EpisodeRun}

theorem Ready.kept (ready : quest.Ready script) (kept : quest.Kept after) : after.Ready script where
  script := kept.script.trans ready.script
  isOpen := kept.closed.trans ready.isOpen
  tracking := kept.tracking.trans ready.tracking
  intermediate := kept.intermediate.trans ready.intermediate

theorem played_restarted (ready : quest.Ready script) :
    quest.restarted.Played script { last := { state := quest.restarted.snapshot } } where
  ready := ⟨ready.script, ready.isOpen, ready.tracking, ready.intermediate⟩
  sound := .restarted quest
  uninterrupted := rfl
  state := rfl
  done := rfl
  steps := rfl
  rewards := rfl
  spent := Nat.le_refl 0

theorem Response.worth {stage : Stage} {command : String} {reward : Reward}
    (response : quest.Response stage command after reward) (unlost : quest.lost = false)
    (intermediate : quest.intermediate = true) :
    reward.value = (after.stage : Int) - after.lost.toNat - quest.stage ∧
      after.stage + after.lost.toNat ≤ quest.stage + 1 := by
  cases response with
  | clears _ =>
    simp only [cleared, intermediate, unlost, Bool.or_true, if_true, Reward.value, Bool.toNat_false]
    omega
  | loses _ _ _ =>
    simp only [Reward.value, Bool.toNat_true]
    omega
  | stays _ _ _ =>
    simp only [Reward.value, unlost, Bool.toNat_false]
    omega

namespace Played

theorem stepped (played : quest.Played script run) {command : String} {observation : Observation}
    (stepped : quest.Stepped command observation after) :
    after.Played script (run.after observation) := by
  have unlost : quest.lost = false := (done_eq_false.mp stepped.unfinished).2
  obtain ⟨stage, -, response⟩ := stepped.response
  obtain ⟨worth, most⟩ : observation.reward.value = (after.stage : Int) - after.lost.toNat - quest.stage ∧
      after.stage + after.lost.toNat ≤ quest.stage + 1 :=
    response.worth unlost played.ready.intermediate
  have rewards := played.rewards
  have spent := played.spent
  rw [unlost, Bool.toNat_false] at rewards spent
  exact {
    ready := played.ready.kept stepped.kept
    sound := played.sound.stepped stepped
    uninterrupted := played.uninterrupted
    state := stepped.state
    done := stepped.done
    steps := by
      rw [stepped.moves, ← played.steps]
      rfl
    rewards := by
      simp only [EpisodeRun.after]
      omega
    spent := by
      rw [stepped.moves]
      omega }

theorem termination_eq (played : quest.Played script run) :
    run.termination = if quest.won then .won else if quest.lost then .lost else .stepBudget := by
  unfold EpisodeRun.termination
  rw [played.uninterrupted, played.state, played.done, Quest.done]
  cases won : quest.won with
  | true => simp [snapshot, won]
  | false => cases lost : quest.lost <;> simp [snapshot, won, lost]

theorem won_iff (played : quest.Played script run) : run.termination = .won ↔ quest.won = true := by
  rw [played.termination_eq]
  cases quest.won <;> cases quest.lost <;> simp

theorem lost_iff (played : quest.Played script run) : run.termination = .lost ↔ quest.lost = true := by
  have exclusive := played.sound.exclusive
  rw [played.termination_eq]
  cases won : quest.won <;> cases lost : quest.lost <;> simp_all

theorem unfinished_iff (played : quest.Played script run) :
    run.termination = .stepBudget ↔ quest.done = false := by
  rw [played.termination_eq, Quest.done]
  cases quest.won <;> cases quest.lost <;> simp

theorem termination_cases (played : quest.Played script run) :
    run.termination = .won ∨ run.termination = .lost ∨ run.termination = .stepBudget := by
  rw [played.termination_eq]
  cases quest.won <;> cases quest.lost <;> simp

theorem addsUp {maxSteps : Nat} (played : quest.Played script run) (nonempty : 0 < script.stages.length)
    (within : run.steps ≤ maxSteps) (ended : quest.done = true ∨ run.steps = maxSteps) :
    run.outcome.AddsUp script.stages.length maxSteps := by
  have stages := played.sound.within
  have isWon := played.sound.won
  have isLost := played.sound.lost
  have exclusive := played.sound.exclusive
  have steps := played.steps
  have rewards := played.rewards
  have spent := played.spent
  rw [played.ready.script] at stages isWon isLost
  constructor
  case moves => exact steps.trans (congrArg GameState.moves played.state).symm
  case within => exact within
  case maxScore => exact congrArg GameState.maxScore played.state
  case done =>
    refine Iff.trans ?_ (or_congr played.won_iff played.lost_iff).symm
    rw [EpisodeRun.outcome, played.done, Quest.done, Bool.or_eq_true]
  case score =>
    simp only [EpisodeRun.outcome, played.state, snapshot, played.won_iff]
  case neverEnded =>
    rcases played.termination_cases with same | same | same <;> simp [EpisodeRun.outcome, same]
  case neverInterrupted =>
    rcases played.termination_cases with same | same | same <;> simp [EpisodeRun.outcome, same]
  case won =>
    intro wins
    have won := played.won_iff.mp wins
    have unlost : quest.lost = false := by simpa [won] using exclusive
    have last := (isWon.mp won).2
    rw [unlost, Bool.toNat_false] at rewards spent
    simp only [EpisodeRun.outcome]
    omega
  case lost =>
    intro loses
    have lost := played.lost_iff.mp loses
    have before := isLost lost
    rw [lost, Bool.toNat_true] at rewards spent
    simp only [EpisodeRun.outcome]
    omega
  case unfinished =>
    intro stops
    have unfinished := played.unfinished_iff.mp stops
    obtain ⟨unwon, unlost⟩ := done_eq_false.mp unfinished
    have used : run.steps = maxSteps := by simpa [unfinished] using ended
    have before : quest.stage ≠ script.stages.length := by
      intro last
      have won := isWon.mpr ⟨nonempty, last⟩
      simp [unwon] at won
    rw [unlost, Bool.toNat_false] at rewards spent
    simp only [EpisodeRun.outcome]
    omega

theorem offers (played : quest.Played script run) (nonempty : 0 < script.stages.length)
    (unfinished : quest.done = false) : run.last.state.admissibleCommands ≠ [] := by
  rw [← played.ready.script] at nonempty
  obtain ⟨stage, found⟩ := played.sound.exists_stage unfinished nonempty
  have offered : stage.command ∈ run.last.state.admissibleCommands := by
    rw [played.state]
    simp [snapshot, admissible, played.ready.tracking, unfinished, found, Stage.commands]
  exact List.ne_nil_of_mem offered

theorem takes (played : quest.Played script run) (nonempty : 0 < script.stages.length)
    (unfinished : quest.done = false) (command : String) :
    ∃ observation, (session.ask (.step command) quest).1 = .ok observation ∧
      (session.ask (.step command) quest).2.Played script (run.after observation) := by
  rw [← played.ready.script] at nonempty
  obtain ⟨stage, found⟩ := played.sound.exists_stage unfinished nonempty
  obtain ⟨observation, answer, stepped⟩ := stepped_of_stage unfinished found command
  rw [ask_of_open played.ready.isOpen]
  exact ⟨observation, answer, played.stepped stepped⟩

end Played
end Quest

namespace Run

variable {α : Type} {cast : Cast (Option Quest) α} {find : String → Except EngineError Script}
  {scene : Scene (Option Quest) α} {quest : Quest} {script : Script} {maxSteps : Nat}

theorem engine_ask_quest (plays : cast.engine = Quest.engine find) (current : scene.engine = some quest)
    (call : Call) :
    cast.engine.ask call scene.engine =
      ((Quest.session.ask call quest).1, some (Quest.session.ask call quest).2) := by
  rw [plays, current]
  rfl

theorem succeeds_askQuest (plays : cast.engine = Quest.engine find) (current : scene.engine = some quest)
    {call : Call} {reply : call.Reply} {post : call.Reply → Scene (Option Quest) α → Prop}
    (answers : (Quest.session.ask call quest).1 = .ok reply)
    (ends : ∀ after : Scene (Option Quest) α,
      after.engine = some (Quest.session.ask call quest).2 → post reply after) :
    Succeeds cast (ask call) scene post := by
  have asked := engine_ask_quest plays current call
  refine Succeeds.ask ?_ (ends _ ?_)
  · rw [Cast.ask, asked]
    exact answers
  · rw [Cast.ask, asked]
    rfl

theorem succeeds_prepare_willing (willing : cast.agent.Willing) :
    Succeeds cast (act .prepare) scene fun answer after =>
      answer = .ok () ∧ after.engine = scene.engine ∧ after.agent = scene.agent := by
  refine Succeeds.act ⟨?_, ?_, ?_⟩ <;> simp only [Cast.perform, willing.prepares] <;> rfl

theorem exists_turn {agent : Agent α} (willing : agent.Willing) (nonempty : 0 < script.stages.length)
    (state : α) {run : EpisodeRun} (played : quest.Played script run) (unfinished : quest.done = false) :
    ∃ observation further, further.Played script (run.after observation) ∧
      ∀ (cast : Cast (Option Quest) α) (scene : Scene (Option Quest) α), cast.engine = Quest.engine find →
        cast.agent = agent → scene.engine = some quest → scene.agent = state →
        Succeeds cast (turn run) scene fun next after =>
          next = run.after observation ∧ after.engine = some further ∧
            after.agent = (agent.decide run.last state).agent := by
  obtain ⟨command, -, chosen⟩ := willing.takes run.last state (played.offers nonempty unfinished)
  obtain ⟨observation, answers, further⟩ := played.takes nonempty unfinished command
  refine ⟨observation, _, further, ?_⟩
  rintro cast scene plays rfl current rfl
  have asked := engine_ask_quest plays current (.step command)
  refine (Succeeds.turn chosen ((congrArg Prod.fst asked).trans answers)).weaken ?_
  rintro next after ⟨same, engine, decided⟩
  exact ⟨same, engine.trans (congrArg Prod.snd asked), decided⟩

theorem succeeds_proceed (plays : cast.engine = Quest.engine find) (willing : cast.agent.Willing)
    (nonempty : 0 < script.stages.length) (budget : Nat) {run : EpisodeRun}
    (current : scene.engine = some quest) (played : quest.Played script run)
    (unfinished : quest.done = false) (left : run.steps + budget = maxSteps) :
    Succeeds cast (proceed false budget run) scene fun result after =>
      result.outcome.AddsUp script.stages.length maxSteps ∧
        ∃ further, after.engine = some further ∧ further.Ready script := by
  -- The steps so far and the budget that is left add up to the limit all along.
  induction budget generalizing scene quest run with
  | zero =>
    exact Succeeds.pure
      ⟨played.addsUp nonempty (Nat.le_of_eq left) (.inr left), quest, current, played.ready⟩
  | succ budget ih =>
    rw [proceed_succ]
    refine Succeeds.bind (Succeeds.pure ?_)
    obtain ⟨observation, further, played, turns⟩ :=
      exists_turn willing nonempty scene.agent played unfinished
    have steps : (run.after observation).steps = run.steps + 1 := rfl
    refine Succeeds.bind ((turns cast scene plays rfl current rfl).weaken ?_)
    rintro _ after ⟨rfl, current, -⟩
    split
    · rename_i done
      have ended : further.done = true := played.done.symm.trans done
      exact Succeeds.pure
        ⟨played.addsUp nonempty (by omega) (.inl ended), further, current, played.ready⟩
    · rename_i goesOn
      have unfinished : further.done = false := by simpa [played.done] using goesOn
      exact ih current played unfinished (by omega)

theorem succeeds_episode (plays : cast.engine = Quest.engine find) (willing : cast.agent.Willing)
    (nonempty : 0 < script.stages.length) (maxSteps : Nat) (current : scene.engine = some quest)
    (ready : quest.Ready script) :
    Succeeds cast (episode false maxSteps) scene fun result after =>
      result.outcome.AddsUp script.stages.length maxSteps ∧
        ∃ further, after.engine = some further ∧ further.Ready script := by
  have answers : (Quest.session.ask .reset quest).1 = .ok quest.restarted.snapshot := by
    rw [Quest.ask_of_open ready.isOpen]
    rfl
  refine Succeeds.bind ((succeeds_prepare_willing willing).weaken ?_)
  rintro _ prepared ⟨rfl, same, -⟩
  refine Succeeds.bind (Succeeds.ofAgent rfl ?_)
  refine Succeeds.bind (succeeds_askQuest plays (same.trans current) answers fun after engine => ?_)
  rw [Quest.ask_of_open ready.isOpen] at engine
  exact succeeds_proceed plays willing nonempty maxSteps engine (Quest.played_restarted ready) rfl
    (Nat.zero_add _)

theorem succeeds_episodes (plays : cast.engine = Quest.engine find) (willing : cast.agent.Willing)
    (nonempty : 0 < script.stages.length) (maxSteps count number : Nat) {played : List EpisodeOutcome}
    (addUp : ∀ outcome ∈ played, outcome.AddsUp script.stages.length maxSteps)
    (current : scene.engine = some quest) (ready : quest.Ready script) :
    Succeeds cast (episodes maxSteps count number played) scene fun summary after =>
      summary.AddsUp script.stages.length maxSteps (played.length + count) ∧
        ∃ further, after.engine = some further ∧ further.Ready script := by
  induction count generalizing scene quest number played with
  | zero => exact Succeeds.pure ⟨⟨by simp, by simpa using addUp⟩, quest, current, ready⟩
  | succ count ih =>
    refine Succeeds.bind
      ((succeeds_episode plays willing nonempty maxSteps current ready).weaken ?_)
    rintro result after ⟨added, further, current, ready⟩
    refine Succeeds.bind (Succeeds.note ?_)
    have still : (after.record (.noted (episodeNote number result.outcome))).engine = some further :=
      current
    refine (ih (number + 1) (List.forall_mem_cons.mpr ⟨added, addUp⟩) still ready).weaken ?_
    rintro summary later ⟨adds, rest⟩
    rw [List.length_cons, Nat.add_right_comm] at adds
    exact ⟨adds, rest⟩

theorem succeeds_openSession (plays : cast.engine = Quest.engine find) {game : String}
    (found : find game = .ok script) :
    Succeeds cast (openSession game) scene fun _ after =>
      ∃ quest, after.engine = some quest ∧ quest.Ready script := by
  have started : cast.engine.start game scene.engine = (.ok [], some { script }) := by
    rw [plays]
    simp [Quest.engine, found]
  have answer : (cast.perform (.start game) scene).1 = .ok () := by
    simp only [Cast.perform, started]
    rfl
  have current : (cast.perform (.start game) scene).2.engine = some { script } := by
    simp only [Cast.perform, started]
    rfl
  refine Succeeds.bind (Succeeds.act (Succeeds.bind (Succeeds.ofEngine answer ?_)))
  refine Succeeds.bind (Succeeds.guarded ?_)
  refine Succeeds.bind (succeeds_askQuest plays current rfl fun tracked tracking => ?_)
  refine succeeds_askQuest plays tracking rfl fun after current => ?_
  exact Succeeds.note ⟨_, current, rfl, rfl, rfl, rfl⟩

theorem succeeds_conclude (plays : cast.engine = Quest.engine find) (current : scene.engine = some quest)
    {game : String} (line : Note) (summary : RunSummary) :
    Succeeds cast (do ofEngine (← release game); note line; return summary) scene fun last _ =>
      last = summary := by
  have closes (line : Note) : (cast.perform .close (scene.record (.noted line))).1 = .ok () := by
    have still : (scene.record (.noted line)).engine = some quest := current
    simp only [Cast.perform, plays, still]
    rfl
  refine Succeeds.bind (Succeeds.bind (Succeeds.note (Succeeds.act ?_)))
  exact Succeeds.bind (Succeeds.ofEngine (closes _) (Succeeds.bind (Succeeds.note (Succeeds.pure rfl))))

theorem succeeds_play (plays : cast.engine = Quest.engine find) (willing : cast.agent.Willing)
    {game : String} (found : find game = .ok script) (nonempty : 0 < script.stages.length)
    (agentName : String) (maxSteps count : Nat) :
    Succeeds cast (play agentName game maxSteps count) scene fun summary _ =>
      summary.AddsUp script.stages.length maxSteps count := by
  refine Succeeds.bind ((succeeds_openSession plays found).weaken ?_)
  rintro _ opened ⟨quest, current, ready⟩
  refine Succeeds.bind (Succeeds.guarded
    ((succeeds_episodes plays willing nonempty maxSteps count 0 (by simp) current ready).weaken ?_))
  rintro summary after ⟨adds, further, current, -⟩
  rw [List.length_nil, Nat.zero_add] at adds
  exact (succeeds_conclude plays current _ summary).weaken fun _ _ last => last ▸ adds

end Run

namespace Script

theorem stages_of_parse {text : String} {script : Script} (parsed : parse text = .ok script) :
    0 < script.stages.length := by
  unfold parse at parsed
  split at parsed
  · cases parsed
  · split at parsed
    · cases parsed
    · rename_i nonempty
      cases parsed
      simpa [List.length_pos_iff] using nonempty

theorem stages_of_load {tree : FileTree} {game : String} {script : Script}
    (loaded : load tree game = .ok script) : 0 < script.stages.length := by
  unfold load at loaded
  split at loaded
  · cases loaded
  · split at loaded
    · cases loaded
    · exact stages_of_parse loaded

end Script

theorem loaded_quest_plays_out {tree : FileTree} {game : String} {script : Script}
    (loaded : Script.load tree game = .ok script) (agentName : String) (maxSteps count : Nat)
    (current : Option Quest) (cancelled : Journal → Bool) :
    0 < script.stages.length ∧
      (∀ g : Random.Generator,
        Run.Succeeds ⟨Quest.engine (Script.load tree), Agent.random, cancelled⟩
          (Run.play agentName game maxSteps count) ⟨current, g, []⟩
          fun summary _ => summary.AddsUp script.stages.length maxSteps count) ∧
      ∀ (R : Type) [Neural.Scalar R] (learner : Neural.Learner R),
        Run.Succeeds ⟨Quest.engine (Script.load tree), Agent.neural, cancelled⟩
          (Run.play agentName game maxSteps count) ⟨current, learner, []⟩
          fun summary _ => summary.AddsUp script.stages.length maxSteps count := by
  have nonempty : 0 < script.stages.length := Script.stages_of_load loaded
  refine ⟨nonempty, fun g => ?_, fun R _ learner => ?_⟩
  · exact Run.succeeds_play rfl Agent.random_willing loaded nonempty agentName maxSteps count
  · exact Run.succeeds_play rfl Agent.neural_willing loaded nonempty agentName maxSteps count

theorem single_stage_quest_plays_out :
    let script : Script := { objective := "Leave.", stages := [{ description := "A hall.", command := "go" }] }
    let tree := ({} : FileTree).addFile ["hall.ron"]
      "(objective: \"Leave.\", stages: [(description: \"A hall.\", command: \"go\")])".toUTF8
    Script.load tree "hall.ron" = .ok script ∧
      0 < script.stages.length ∧
      (∀ g : Random.Generator,
        Run.Succeeds ⟨Quest.engine (Script.load tree), Agent.random, fun _ => false⟩
          (Run.play "random" "hall.ron" 5 2) ⟨none, g, []⟩ fun summary _ => summary.AddsUp 1 5 2) ∧
      ∀ (R : Type) [Neural.Scalar R] (learner : Neural.Learner R),
        Run.Succeeds ⟨Quest.engine (Script.load tree), Agent.neural, fun _ => false⟩
          (Run.play "random" "hall.ron" 5 2) ⟨none, learner, []⟩ fun summary _ => summary.AddsUp 1 5 2 := by
  intro script tree
  have found : (Script.load tree "hall.ron").toOption = some script := by decide +kernel
  have loaded : Script.load tree "hall.ron" = .ok script := by
    cases answer : Script.load tree "hall.ron" with
    | error error => simp [answer, Except.toOption] at found
    | ok other =>
      rw [answer] at found
      exact congrArg Except.ok (Option.some.inj found)
  exact ⟨loaded, loaded_quest_plays_out loaded "random" 5 2 none fun _ => false⟩

end TextQuest
