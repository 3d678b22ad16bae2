import TextQuest.Agent.Walkthrough
import TextQuest.Proofs.Quest.Accounting
import TextQuest.Proofs.Run.Alike

/-!
A session that is used again for each episode. Resetting a quest leaves nothing of the episodes before, so
that they could as well have been played in new sessions.
-/
namespace TextQuest

def Run.freshEpisodes (game : String) (maxSteps : Nat) : Nat → List EpisodeOutcome → Run RunSummary
  | 0, played => return ⟨played.reverse⟩
  | more + 1, played => do
    openSession game
    let outcome := (← episode false maxSteps).outcome
    freshEpisodes game maxSteps more (outcome :: played)

def Agent.AsksForWalkthrough {α : Type} (agent : Agent α) : Prop :=
  ∀ state, (agent.prepare state).Only (· = .walkthrough)

theorem Agent.random_asks : random.AsksForWalkthrough := fun _ => trivial

theorem Agent.walkthrough_asks : walkthrough.AsksForWalkthrough := fun _ => ⟨rfl, fun _ => trivial⟩

theorem Agent.neural_asks {R : Type} [Neural.Scalar R] :
    (neural : Agent (Neural.Learner R)).AsksForWalkthrough := fun _ => trivial

namespace Quest

variable {quest other : Quest} {script : Script}

theorem Ready.asked (ready : quest.Ready script) (call : Call) :
    (session.ask call quest).2.Ready script := by
  rw [ask_of_open ready.isOpen]
  cases call with
  | activateTracking => exact ⟨ready.script, ready.isOpen, rfl, ready.intermediate⟩
  | requestIntermediateRewards => exact ⟨ready.script, ready.isOpen, ready.tracking, rfl⟩
  | reset => exact ⟨ready.script, ready.isOpen, ready.tracking, ready.intermediate⟩
  | walkthrough => exact ready
  | step command =>
    simp only [answer]
    cases action : (quest.step command).1 with
    | error error => rwa [step_of_error action]
    | ok observation => exact ready.kept (stepped_of_ok action).kept

theorem Ready.ask_walkthrough (ready : quest.Ready script) :
    session.ask .walkthrough quest = (.ok script.walkthrough, quest) := by
  rw [ask_of_open ready.isOpen, answer, ready.script]

theorem Ready.ask_reset (ready : quest.Ready script) :
    session.ask .reset quest = (.ok quest.restarted.snapshot, quest.restarted) :=
  ask_of_open ready.isOpen .reset

theorem Ready.restarted_eq (ready : quest.Ready script) (also : other.Ready script) :
    quest.restarted = other.restarted := by
  simp [restarted, ready.script, also.script, ready.isOpen, also.isOpen, ready.tracking, also.tracking,
    ready.intermediate, also.intermediate]

end Quest

variable {α : Type} {script : Script}

namespace Scene

/-- A scene after an episode in a session that can be used for another one, and a scene level with it. -/
structure Onward (script : Script) (one other : Scene (Option Quest) α) : Prop extends one.Level other where
  plays : ∃ quest, one.engine = some quest ∧ quest.Ready script

structure Paired (script : Script) (one other : Scene (Option Quest) α) : Prop
    extends Onward script one other where
  also : ∃ quest, other.engine = some quest ∧ quest.Ready script

structure Joined (script : Script) (one other : Scene (Option Quest) α) : Prop
    extends Onward script one other where
  engine : one.engine = other.engine

theorem Joined.record {one other : Scene (Option Quest) α} (joined : one.Joined script other)
    (entry : Entry) : (one.record entry).Joined script (other.record entry) :=
  ⟨⟨joined.toLevel.record entry, joined.plays⟩, joined.engine⟩

end Scene

namespace Run

variable {find : String → Except EngineError Script} {cast : Cast (Option Quest) α}
  {one other : Scene (Option Quest) α} {game : String}

theorem ask_quest (plays : cast.engine = Quest.engine find) {quest after : Quest} {call : Call}
    {answer : call.Answer} (current : one.engine = some quest)
    (asked : Quest.session.ask call quest = (answer, after)) :
    cast.ask call one = (answer, { one with engine := some after }.record (.asked call answer)) := by
  unfold Cast.ask
  rw [engine_ask_quest plays current, asked]

theorem level_asked (level : one.Level other) (quest further : Quest) (call : Call) (answer : call.Answer) :
    ({ one with engine := some quest }.record (.asked call answer)).Level
      ({ other with engine := some further }.record (.asked call answer)) :=
  (level.put _ _).record _

theorem alike_prepare (plays : cast.engine = Quest.engine find) (asks : cast.agent.AsksForWalkthrough)
    (paired : one.Paired script other) :
    Alike cast (act .prepare) (act .prepare) one other (Scene.Paired script) := by
  have steps (call : Call) (one other : Scene (Option Quest) α) (same : call = .walkthrough)
      (paired : one.Paired script other) :
      (cast.ask call one).1 = (cast.ask call other).1 ∧
        (cast.ask call one).2.Paired script (cast.ask call other).2 := by
    obtain ⟨⟨level, quest, current, ready⟩, further, also, readyAlso⟩ := paired
    subst same
    rw [ask_quest plays current ready.ask_walkthrough, ask_quest plays also readyAlso.ask_walkthrough]
    exact ⟨rfl, ⟨level_asked level quest further _ _, quest, rfl, ready⟩, further, rfl, readyAlso⟩
  have begun : (one.record .preparing).Paired script (other.record .preparing) :=
    ⟨⟨paired.toLevel.record _, paired.plays⟩, paired.also⟩
  have related := Dialogue.run_related steps (cast.agent.prepare one.agent) (asks one.agent) begun
  unfold Alike
  rw [perform_act, perform_act]
  simp only [Cast.perform, ← paired.agent]
  generalize (cast.agent.prepare one.agent).run cast.ask (one.record .preparing) = before at related ⊢
  generalize (cast.agent.prepare one.agent).run cast.ask (other.record .preparing) = there at related ⊢
  obtain ⟨⟨answer, agent⟩, after⟩ := before
  obtain ⟨_, between⟩ := there
  obtain ⟨same, related⟩ := related
  cases same
  have level : ({ after with agent } : Scene _ α).Level { between with agent } := ⟨rfl, related.played⟩
  exact ⟨rfl, ⟨level.record _, related.plays⟩, related.also⟩

theorem alike_reset (plays : cast.engine = Quest.engine find) (paired : one.Paired script other) :
    Alike cast (ask .reset) (ask .reset) one other (Scene.Joined script) := by
  obtain ⟨⟨level, quest, current, ready⟩, further, also, readyAlso⟩ := paired
  have asked := ask_quest plays current ready.ask_reset
  have askedAlso := ask_quest plays also readyAlso.ask_reset
  rw [← ready.restarted_eq readyAlso] at askedAlso
  have begun := ready.asked .reset
  rw [ready.ask_reset] at begun
  refine Alike.ask ?_ ?_
  · rw [asked, askedAlso]
  · rw [asked, askedAlso]
    exact ⟨⟨level_asked level _ _ _ _, _, rfl, begun⟩, rfl⟩

theorem alike_ask (plays : cast.engine = Quest.engine find) (joined : one.Joined script other)
    (call : Call) : Alike cast (ask call) (ask call) one other (Scene.Joined script) := by
  obtain ⟨⟨level, quest, current, ready⟩, engine⟩ := joined
  have asked : cast.ask call one = _ := ask_quest plays current rfl
  have askedAlso : cast.ask call other = _ := ask_quest plays (engine.symm.trans current) rfl
  refine Alike.ask ?_ ?_
  · rw [asked, askedAlso]
  · rw [asked, askedAlso]
    exact ⟨⟨level_asked level _ _ _ _, _, rfl, ready.asked call⟩, rfl⟩

theorem alike_turn (plays : cast.engine = Quest.engine find) (joined : one.Joined script other)
    (run : EpisodeRun) : Alike cast (turn run) (turn run) one other (Scene.Joined script) := by
  obtain ⟨answers, level⟩ := cast.level_decide run.last joined.toLevel
  have engine (scene : Scene (Option Quest) α) :
      (cast.perform (.decide run.last) scene).2.engine = scene.engine := Scene.engine_recordNotes _ _
  have decided : (cast.perform (.decide run.last) one).2.Joined script
      (cast.perform (.decide run.last) other).2 := by
    refine ⟨⟨level, ?_⟩, ?_⟩
    · rw [engine]
      exact joined.plays
    · rw [engine, engine]
      exact joined.engine
  refine Alike.bind (Alike.act answers decided) (fun answer one other joined => ?_) fun _ _ ends => ends
  refine Alike.bind (Alike.ofAgent joined) (fun command one other joined => ?_) fun _ _ ends => ends
  refine Alike.bind (alike_ask plays joined _) (fun observation one other joined => ?_) fun _ _ ends => ends
  refine Alike.bind (Alike.note (joined.record _)) (fun _ one other joined => ?_) fun _ _ ends => ends
  exact Alike.pure joined

theorem alike_proceed (plays : cast.engine = Quest.engine find) (joined : one.Joined script other)
    (budget : Nat) (run : EpisodeRun) :
    Alike cast (proceed false budget run) (proceed false budget run) one other (Scene.Joined script) := by
  induction budget generalizing one other run with
  | zero => exact Alike.pure joined
  | succ budget ih =>
    simp only [proceed_succ, look, Bool.false_eq_true, if_false, pure_bind]
    refine Alike.bind (alike_turn plays joined run) (fun run one other joined => ?_) fun _ _ ends => ends
    split
    · exact Alike.pure joined
    · exact ih joined run

theorem alike_episode (plays : cast.engine = Quest.engine find) (asks : cast.agent.AsksForWalkthrough)
    (maxSteps : Nat) (paired : one.Paired script other) :
    Alike cast (episode false maxSteps) (episode false maxSteps) one other (Scene.Onward script) := by
  refine Alike.bind (alike_prepare plays asks paired) (fun answer one other paired => ?_)
    fun _ _ paired => paired.toOnward
  refine Alike.bind (Alike.ofAgent paired) (fun _ one other paired => ?_) fun _ _ paired => paired.toOnward
  refine Alike.bind (alike_reset plays paired) (fun state one other joined => ?_)
    fun _ _ joined => joined.toOnward
  exact (alike_proceed plays joined maxSteps _).weaken fun _ _ joined => joined.toOnward

theorem alike_episodes (plays : cast.engine = Quest.engine find) (asks : cast.agent.AsksForWalkthrough)
    (found : find game = .ok script) (maxSteps count number : Nat) (played : List EpisodeOutcome)
    (onward : one.Onward script other) :
    Alike cast (episodes maxSteps count number played) (freshEpisodes game maxSteps count played) one other
      (Scene.Onward script) := by
  induction count generalizing one other number played with
  | zero => exact Alike.pure onward
  | succ count ih =>
    refine Alike.before_other (((succeeds_openSession plays found).level (Aside.openSession game)).weaken ?_)
    rintro _ opened ⟨also, level⟩
    have paired : one.Paired script opened := ⟨⟨onward.toLevel.trans level, onward.plays⟩, also⟩
    refine Alike.bind (alike_episode plays asks maxSteps paired) (fun run one other onward => ?_)
      fun _ _ ends => ends
    refine Alike.before (Succeeds.note ?_)
    refine ih (number + 1) (run.outcome :: played) ⟨?_, onward.plays⟩
    exact (Scene.level_record one rfl).symm.trans onward.toLevel

theorem aside_conclude (line : Note) (summary : RunSummary) :
    Aside cast (do ofEngine (← release game); note line; return summary : Run RunSummary) := by
  refine Aside.bind (Aside.release game) fun answer => ?_
  refine Aside.bind (Aside.ofEngine answer) fun _ => Aside.bind (Aside.act rfl) fun _ => ?_
  exact fun scene => .refl scene

theorem alike_play (plays : cast.engine = Quest.engine find) (asks : cast.agent.AsksForWalkthrough)
    (found : find game = .ok script) (agentName : String) (maxSteps count : Nat)
    (scene : Scene (Option Quest) α) :
    Alike cast (play agentName game maxSteps count) (freshEpisodes game maxSteps count []) scene scene
      Scene.Level := by
  refine Alike.before (((succeeds_openSession plays found).level (Aside.openSession game)).weaken ?_)
  rintro _ opened ⟨ready, level⟩
  refine Alike.session (alike_episodes plays asks found maxSteps count 0 [] ⟨level.symm, ready⟩)
    (fun _ _ onward => onward.toLevel) ?_
  rintro summary one other ⟨-, quest, current, -⟩
  exact (succeeds_conclude plays current _ summary).level (aside_conclude _ summary)

end Run

theorem reused_session_replays_new_ones {find : String → Except EngineError Script} {game : String}
    {script : Script} (found : find game = .ok script) (agentName : String) (maxSteps count : Nat)
    (cancelled : Journal → Bool) :
    (∀ scene, Run.Alike ⟨Quest.engine find, Agent.random, cancelled⟩
      (Run.play agentName game maxSteps count) (Run.freshEpisodes game maxSteps count []) scene scene
      Scene.Level) ∧
    (∀ scene, Run.Alike ⟨Quest.engine find, Agent.walkthrough, cancelled⟩
      (Run.play agentName game maxSteps count) (Run.freshEpisodes game maxSteps count []) scene scene
      Scene.Level) ∧
    ∀ (R : Type) [Neural.Scalar R] scene,
      Run.Alike ⟨Quest.engine find, (Agent.neural : Agent (Neural.Learner R)), cancelled⟩
        (Run.play agentName game maxSteps count) (Run.freshEpisodes game maxSteps count []) scene scene
        Scene.Level := by
  refine ⟨fun scene => ?_, fun scene => ?_, fun R _ scene => ?_⟩
  · exact Run.alike_play rfl Agent.random_asks found agentName maxSteps count scene
  · exact Run.alike_play rfl Agent.walkthrough_asks found agentName maxSteps count scene
  · exact Run.alike_play rfl Agent.neural_asks found agentName maxSteps count scene

theorem lamp_session_replays_new_ones :
    let script : Script :=
      { objective := "Leave.",
        stages := [{ description := "A hall.", command := "take lamp", hazards := ["break lamp"] },
          { description := "A door.", command := "go out" }] }
    let find : String → Except EngineError Script := fun game =>
      if game = "lamp.ron" then .ok script else .error .closed
    find "lamp.ron" = .ok script ∧
      ∀ scene, Run.Alike ⟨Quest.engine find, Agent.random, fun _ => false⟩
        (Run.play "random" "lamp.ron" 3 4) (Run.freshEpisodes "lamp.ron" 3 4 []) scene scene
        Scene.Level := by
  intro script find
  have found : find "lamp.ron" = .ok script := by simp [find]
  exact ⟨found, (reused_session_replays_new_ones found "random" 3 4 fun _ => false).1⟩

end TextQuest
