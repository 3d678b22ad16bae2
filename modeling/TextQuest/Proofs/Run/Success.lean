import TextQuest.Proofs.Run.Calls
import TextQuest.Run.Play

/-!
Runs that succeed. Performed where it stands, such a run has a result, and result and scene are as a
postcondition says.
-/
namespace TextQuest.Run

variable {σ α β γ : Type} {cast : Cast σ α} {scene : Scene σ α}

def Succeeds (cast : Cast σ α) (run : Run β) (scene : Scene σ α) (post : β → Scene σ α → Prop) :
    Prop :=
  ∃ result after, run.perform cast scene = (.ok result, after) ∧ post result after

namespace Succeeds

variable {run : Run β} {post stronger : β → Scene σ α → Prop}

theorem pure {result : β} (ends : post result scene) : Succeeds cast (pure result) scene post :=
  ⟨result, scene, rfl, ends⟩

theorem weaken (succeeds : Succeeds cast run scene stronger)
    (weaker : ∀ result after, stronger result after → post result after) :
    Succeeds cast run scene post := by
  obtain ⟨result, after, performed, ends⟩ := succeeds
  exact ⟨result, after, performed, weaker result after ends⟩

theorem bind {next : β → Run γ} {post : γ → Scene σ α → Prop}
    (first : Succeeds cast run scene fun result after => Succeeds cast (next result) after post) :
    Succeeds cast (run >>= next) scene post := by
  obtain ⟨middle, between, performed, result, after, rest, ends⟩ := first
  refine ⟨result, after, ?_, ends⟩
  rw [perform_bind, performed]
  exact rest

theorem act {a : Act} {post : a.Answer → Scene σ α → Prop}
    (ends : post (cast.perform a scene).1 (cast.perform a scene).2) :
    Succeeds cast (act a) scene post :=
  ⟨_, _, perform_act cast a scene, ends⟩

theorem note {line : Note} {post : Unit → Scene σ α → Prop}
    (ends : post () (scene.record (.noted line))) : Succeeds cast (note line) scene post :=
  act ends

theorem ofEngine {answer : Except EngineError β} {result : β} (succeeds : answer = .ok result)
    (ends : post result scene) : Succeeds cast (ofEngine answer) scene post := by
  subst succeeds
  exact pure ends

theorem ofAgent {answer : Except AgentError β} {result : β} (succeeds : answer = .ok result)
    (ends : post result scene) : Succeeds cast (ofAgent answer) scene post := by
  subst succeeds
  exact pure ends

theorem ask {call : Call} {reply : call.Reply} {post : call.Reply → Scene σ α → Prop}
    (answers : (cast.ask call scene).1 = .ok reply) (ends : post reply (cast.ask call scene).2) :
    Succeeds cast (ask call) scene post :=
  bind (act (ofEngine answers ends))

theorem guarded {game : String} (succeeds : Succeeds cast run scene post) :
    Succeeds cast (guarded game run) scene post := by
  obtain ⟨result, after, performed, ends⟩ := succeeds
  refine ⟨result, after, ?_, ends⟩
  rw [Run.guarded, perform_tryCatch, performed]

theorem perform_bind (succeeds : Succeeds cast run scene post) (next : β → Run γ) :
    ∃ result after, post result after ∧
      (run >>= next).perform cast scene = (next result).perform cast after := by
  obtain ⟨result, after, performed, ends⟩ := succeeds
  refine ⟨result, after, ends, ?_⟩
  rw [Run.perform_bind, performed]

theorem look (uncancelled : ∀ journal, cast.cancelled journal = false) (watched : Bool) :
    Succeeds cast (look watched) scene fun cancelled after =>
      cancelled = false ∧ after.engine = scene.engine ∧ after.agent = scene.agent := by
  cases watched with
  | true => exact act ⟨uncancelled scene.journal, rfl, rfl⟩
  | false => exact pure ⟨rfl, rfl, rfl⟩

theorem turn {run : EpisodeRun} {command : String} {observation : Observation}
    (chosen : (cast.agent.decide run.last scene.agent).result = .ok command)
    (answers : (cast.engine.ask (.step command) scene.engine).1 = .ok observation) :
    Succeeds cast (turn run) scene fun next after =>
      next = run.after observation ∧
        after.engine = (cast.engine.ask (.step command) scene.engine).2 ∧
        after.agent = (cast.agent.decide run.last scene.agent).agent := by
  have engine : (cast.perform (.decide run.last) scene).2.engine = scene.engine :=
    Scene.engine_recordNotes _ _
  have agent : (cast.perform (.decide run.last) scene).2.agent =
      (cast.agent.decide run.last scene.agent).agent := Scene.agent_recordNotes _ _
  refine bind (act (bind (ofAgent chosen ?_)))
  generalize (cast.perform (.decide run.last) scene).2 = between at engine agent
  rw [← engine] at answers ⊢
  exact bind (ask answers (bind (note (pure ⟨rfl, rfl, agent⟩))))

end Succeeds

theorem turn_of_error {run : EpisodeRun} {error : AgentError}
    (refuses : (cast.agent.decide run.last scene.agent).result = .error error) :
    ((turn run).perform cast scene).1 = .error (.agent error) := by
  have answer : (cast.perform (.decide run.last) scene).1 = .error error := refuses
  rw [turn, perform_bind, perform_act]
  simp only [answer, ofAgent]
  rfl

theorem proceed_of_uncancelled (cast : Cast σ α)
    (uncancelled : ∀ journal, cast.cancelled journal = false) (watched : Bool) (budget : Nat)
    (run : EpisodeRun) (scene : Scene σ α) :
    ∃ looked : Scene σ α, looked.engine = scene.engine ∧ looked.agent = scene.agent ∧
      (proceed watched (budget + 1) run).perform cast scene =
        (do
          let run ← turn run
          if run.last.done then return run
          proceed watched budget run : Run EpisodeRun).perform cast looked := by
  have looks : Succeeds cast (look watched) scene _ := Succeeds.look uncancelled watched
  rw [proceed_succ]
  obtain ⟨_, looked, ⟨rfl, engine_eq, agent_eq⟩, passed⟩ := looks.perform_bind _
  exact ⟨looked, engine_eq, agent_eq, passed⟩

end TextQuest.Run
