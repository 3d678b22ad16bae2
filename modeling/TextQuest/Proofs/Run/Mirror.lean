import TextQuest.Agent.Neural
import TextQuest.Agent.Random
import TextQuest.Agent.Walkthrough
import TextQuest.Proofs.Bridge.Relay
import TextQuest.Proofs.Run.Performance

namespace TextQuest

variable {σ τ α β γ : Type} {wording : EngineError → String} {linked : σ → τ → Prop}

/-! ## Agents -/

inductive Unmoved (wording : EngineError → String) :
    SessionDialogue (Except AgentError Unit × α) → SessionDialogue (Except AgentError Unit × α) → Prop
  | done (answer : Except AgentError Unit) (agent : α) :
    Unmoved wording (.done (answer, agent)) (.done (answer.mapError (.relayed wording), agent))
  | act (call : Call) {next other : call.Answer → SessionDialogue (Except AgentError Unit × α)}
      (goesOn : ∀ answer, Unmoved wording (next answer) (other (call.relayed wording answer))) :
    Unmoved wording (.act call next) (.act call other)

/-- An agent to which it does not matter how failures of a session are named. -/
structure Agent.Robust (agent : Agent α) (wording : EngineError → String) : Prop where
  prepare : ∀ state, Unmoved wording (agent.prepare state) (agent.prepare state)
  decide : ∀ observation state,
    (agent.decide observation state).result.mapError (.relayed wording) =
      (agent.decide observation state).result

namespace Agent

theorem robust_random (wording : EngineError → String) : random.Robust wording where
  prepare state := .done (.ok ()) state
  decide observation state := by
    simp only [random]
    split <;> rfl

theorem robust_neural {R : Type} [Neural.Scalar R] (wording : EngineError → String) :
    (neural (R := R)).Robust wording where
  prepare state := .done (.ok ()) state
  decide observation state := by
    simp only [neural]
    split <;> rfl

theorem prepared_relayed (agent : Walkthrough) (answer : Call.walkthrough.Answer) :
    agent.prepared (Call.walkthrough.relayed wording answer) =
      ((agent.prepared answer).1.mapError (.relayed wording), (agent.prepared answer).2) := by
  cases answer with
  | ok commands => rfl
  | error error => cases error <;> rfl

theorem robust_walkthrough (wording : EngineError → String) : walkthrough.Robust wording where
  prepare state := .act .walkthrough fun answer => by
    change Unmoved wording (.done (state.prepared answer))
      (.done (state.prepared (Call.walkthrough.relayed wording answer)))
    rw [prepared_relayed]
    exact .done (state.prepared answer).1 (state.prepared answer).2
  decide observation state := by
    simp only [walkthrough]
    split <;> rfl

end Agent

/-! ## Scenes -/

structure Scene.Mirrors (wording : EngineError → String) (linked : σ → τ → Prop) (scene : Scene σ α)
    (mirror : Scene τ α) : Prop where
  engine : linked scene.engine mirror.engine
  agent : mirror.agent = scene.agent
  journal : mirror.journal = scene.journal.map (.relayed wording)

structure Cast.Mirrors (wording : EngineError → String) (linked : σ → τ → Prop) (cast : Cast σ α)
    (mirror : Cast τ α) : Prop where
  relay : Relay wording cast.engine.toSession mirror.engine.toSession linked
  agent : mirror.agent = cast.agent
  robust : cast.agent.Robust wording
  cancelled : ∀ journal : Journal, mirror.cancelled (journal.map (.relayed wording)) = cast.cancelled journal

namespace Scene.Mirrors

variable {scene : Scene σ α} {mirror : Scene τ α}

theorem record (mirrors : scene.Mirrors wording linked mirror) (entry : Entry) :
    (scene.record entry).Mirrors wording linked (mirror.record (entry.relayed wording)) :=
  ⟨mirrors.engine, mirrors.agent, congrArg (entry.relayed wording :: ·) mirrors.journal⟩

theorem recordNotes (mirrors : scene.Mirrors wording linked mirror) (notes : List Note) :
    (scene.recordNotes notes).Mirrors wording linked (mirror.recordNotes notes) := by
  induction notes generalizing scene mirror with
  | nil => exact mirrors
  | cons note notes ih => exact ih (mirrors.record (.noted note))

end Scene.Mirrors

namespace Cast.Mirrors

variable {cast : Cast σ α} {other : Cast τ α} {scene : Scene σ α} {mirror : Scene τ α}

theorem ask (casts : cast.Mirrors wording linked other) (mirrors : scene.Mirrors wording linked mirror)
    (call : Call) :
    (other.ask call mirror).1 = call.relayed wording (cast.ask call scene).1 ∧
      (cast.ask call scene).2.Mirrors wording linked (other.ask call mirror).2 := by
  have answers := casts.relay.asks call mirrors.engine
  have stays := casts.relay.stays call mirrors.engine
  refine ⟨answers, stays, mirrors.agent, ?_⟩
  simp only [Cast.ask, Scene.record, answers, mirrors.journal, List.map_cons, Entry.relayed]

theorem unmoved (casts : cast.Mirrors wording linked other) (mirrors : scene.Mirrors wording linked mirror)
    {first second : SessionDialogue (Except AgentError Unit × α)} (unmoved : Unmoved wording first second) :
    (second.run other.ask mirror).1 =
        ((first.run cast.ask scene).1.1.mapError (.relayed wording), (first.run cast.ask scene).1.2) ∧
      (first.run cast.ask scene).2.Mirrors wording linked (second.run other.ask mirror).2 := by
  induction unmoved generalizing scene mirror with
  | done answer agent => exact ⟨rfl, mirrors⟩
  | act call goesOn ih =>
    obtain ⟨answers, mirrors⟩ := casts.ask mirrors call
    have later := ih (cast.ask call scene).1 mirrors
    rw [← answers] at later
    exact later

theorem prepare (casts : cast.Mirrors wording linked other)
    (mirrors : scene.Mirrors wording linked mirror) :
    (other.perform .prepare mirror).1 = (cast.perform .prepare scene).1.mapError (.relayed wording) ∧
      (cast.perform .prepare scene).2.Mirrors wording linked (other.perform .prepare mirror).2 := by
  have begun : (scene.record .preparing).Mirrors wording linked (mirror.record .preparing) :=
    mirrors.record .preparing
  -- Each agent talks with its own session, so the two conversations are compared as a whole.
  obtain ⟨same, after⟩ := casts.unmoved begun (casts.robust.prepare scene.agent)
  have performed : other.perform .prepare mirror =
      let told := (cast.agent.prepare scene.agent).run other.ask (mirror.record .preparing)
      (told.1.1, ({ told.2 with agent := told.1.2 } : Scene τ α).record (.prepared told.1.1)) := by
    rw [← casts.agent, ← mirrors.agent]
    rfl
  have direct : cast.perform .prepare scene =
      let told := (cast.agent.prepare scene.agent).run cast.ask (scene.record .preparing)
      (told.1.1, ({ told.2 with agent := told.1.2 } : Scene σ α).record (.prepared told.1.1)) := rfl
  rw [performed, direct]
  generalize (cast.agent.prepare scene.agent).run cast.ask (scene.record .preparing) = one at same after ⊢
  generalize (cast.agent.prepare scene.agent).run other.ask (mirror.record .preparing) = two at same after ⊢
  obtain ⟨⟨answer, agent⟩, scene⟩ := one
  obtain ⟨_, mirror⟩ := two
  cases same
  have settled : ({ scene with agent } : Scene σ α).Mirrors wording linked { mirror with agent } :=
    ⟨after.engine, rfl, after.journal⟩
  exact ⟨rfl, settled.record (.prepared answer)⟩

theorem decide (casts : cast.Mirrors wording linked other) (mirrors : scene.Mirrors wording linked mirror)
    (observation : Observation) :
    (other.perform (.decide observation) mirror).1 =
        (cast.perform (.decide observation) scene).1.mapError (.relayed wording) ∧
      (cast.perform (.decide observation) scene).2.Mirrors wording linked
        (other.perform (.decide observation) mirror).2 := by
  let turn := cast.agent.decide observation scene.agent
  have performed : other.perform (.decide observation) mirror =
      (turn.result, (({ mirror with agent := turn.agent } : Scene τ α).recordNotes turn.notes).record
        (.decided observation turn.result)) := by
    simp only [turn, ← casts.agent, ← mirrors.agent]
    rfl
  have after : ({ scene with agent := turn.agent } : Scene σ α).Mirrors wording linked
      { mirror with agent := turn.agent } := ⟨mirrors.engine, rfl, mirrors.journal⟩
  rw [performed]
  exact ⟨(casts.robust.decide observation scene.agent).symm,
    (after.recordNotes turn.notes).record (.decided observation turn.result)⟩

end Cast.Mirrors

/-! ## Runs -/

namespace Run

def Mirrored (wording : EngineError → String) (linked : σ → τ → Prop) (cast : Cast σ α) (other : Cast τ α)
    (run : Run β) : Prop :=
  ∀ ⦃scene : Scene σ α⦄ ⦃mirror : Scene τ α⦄, scene.Mirrors wording linked mirror →
    (run.perform other mirror).1 = (run.perform cast scene).1.mapError (.relayed wording) ∧
      (run.perform cast scene).2.Mirrors wording linked (run.perform other mirror).2

theorem perform_ofEngine (cast : Cast σ α) (answer : Except EngineError β) (scene : Scene σ α) :
    (ofEngine answer).perform cast scene = (answer.mapError .engine, scene) := by
  cases answer <;> rfl

theorem perform_ofAgent (cast : Cast σ α) (answer : Except AgentError β) (scene : Scene σ α) :
    (ofAgent answer).perform cast scene = (answer.mapError .agent, scene) := by
  cases answer <;> rfl

theorem perform_ask (cast : Cast σ α) (call : Call) (scene : Scene σ α) :
    (ask call).perform cast scene =
      ((cast.ask call scene).1.mapError .engine, (cast.ask call scene).2) :=
  (perform_bind cast (act (.ask call)) ofEngine scene).trans (perform_ofEngine cast _ _)

theorem perform_decide (cast : Cast σ α) (observation : Observation) (scene : Scene σ α) :
    (act (.decide observation) >>= ofAgent).perform cast scene =
      ((cast.perform (.decide observation) scene).1.mapError .agent,
        (cast.perform (.decide observation) scene).2) :=
  (perform_bind cast (act (.decide observation)) ofAgent scene).trans (perform_ofAgent cast _ _)

theorem perform_prepare (cast : Cast σ α) (scene : Scene σ α) :
    (act .prepare >>= ofAgent).perform cast scene =
      ((cast.perform .prepare scene).1.mapError .agent, (cast.perform .prepare scene).2) :=
  (perform_bind cast (act .prepare) ofAgent scene).trans (perform_ofAgent cast _ _)

namespace Mirrored

variable {cast : Cast σ α} {other : Cast τ α} {run : Run β}

theorem pure (result : β) : Mirrored wording linked cast other (Pure.pure result) :=
  fun _ _ mirrors => ⟨rfl, mirrors⟩

theorem bind {next : β → Run γ} (first : Mirrored wording linked cast other run)
    (later : ∀ result, Mirrored wording linked cast other (next result)) :
    Mirrored wording linked cast other (run >>= next) := by
  intro scene mirror mirrors
  obtain ⟨same, after⟩ := first mirrors
  rw [perform_bind, perform_bind]
  generalize run.perform cast scene = performed at same after ⊢
  generalize run.perform other mirror = mirrored at same after ⊢
  obtain ⟨result, scene⟩ := performed
  obtain ⟨_, mirror⟩ := mirrored
  cases same
  cases result with
  | error error => exact ⟨rfl, after⟩
  | ok result => exact later result after

theorem note (line : Note) : Mirrored wording linked cast other (note line) :=
  fun _ _ mirrors => ⟨rfl, mirrors.record (.noted line)⟩

theorem look (casts : cast.Mirrors wording linked other) (watched : Bool) :
    Mirrored wording linked cast other (look watched) := by
  cases watched with
  | false => exact pure false
  | true =>
    intro scene mirror mirrors
    have seen := casts.cancelled scene.journal
    rw [← mirrors.journal] at seen
    refine ⟨congrArg Except.ok seen, ?_⟩
    change (scene.record (.polled (cast.cancelled scene.journal))).Mirrors wording linked
      (mirror.record (.polled (other.cancelled mirror.journal)))
    rw [seen]
    exact mirrors.record (.polled _)

theorem ask (casts : cast.Mirrors wording linked other) (call : Call)
    (supported : ∀ error, call.relayedError wording error = .remote (wording error)) :
    Mirrored wording linked cast other (ask call) := by
  intro scene mirror mirrors
  obtain ⟨answers, after⟩ := casts.ask mirrors call
  rw [perform_ask, perform_ask, answers]
  refine ⟨?_, after⟩
  cases (cast.ask call scene).1 with
  | ok reply => rfl
  | error error => simp [Call.relayed, Except.mapError, supported, RunError.relayed]

theorem settled {answer other : Except AgentError β} (same : other = answer.mapError (.relayed wording)) :
    other.mapError RunError.agent = (answer.mapError RunError.agent).mapError (.relayed wording) := by
  subst same
  cases answer <;> rfl

theorem decide (casts : cast.Mirrors wording linked other) (observation : Observation) :
    Mirrored wording linked cast other (act (.decide observation) >>= ofAgent) := by
  intro scene mirror mirrors
  have decides := casts.decide mirrors observation
  rw [perform_decide, perform_decide]
  exact ⟨settled decides.1, decides.2⟩

theorem prepare (casts : cast.Mirrors wording linked other) :
    Mirrored wording linked cast other (act .prepare >>= ofAgent) := by
  intro scene mirror mirrors
  have prepares := casts.prepare mirrors
  rw [perform_prepare, perform_prepare]
  exact ⟨settled prepares.1, prepares.2⟩

end Mirrored

theorem mirrored_turn {cast : Cast σ α} {other : Cast τ α} (casts : cast.Mirrors wording linked other)
    (run : EpisodeRun) : Mirrored wording linked cast other (turn run) := by
  have taken : turn run = (act (.decide run.last) >>= ofAgent) >>= fun command =>
      ask (.step command) >>= fun observation => note ((run.after observation).stepNote command) >>=
        fun _ => Pure.pure (run.after observation) := by
    simp [turn]
  rw [taken]
  exact .bind (.decide casts run.last) fun command => .bind (.ask casts (.step command) fun _ => rfl)
    fun observation => .bind (.note _) fun _ => .pure _

theorem mirrored_proceed {cast : Cast σ α} {other : Cast τ α} (casts : cast.Mirrors wording linked other)
    (watched : Bool) (budget : Nat) (run : EpisodeRun) :
    Mirrored wording linked cast other (proceed watched budget run) := by
  induction budget generalizing run with
  | zero => exact .pure run
  | succ budget ih =>
    rw [proceed_succ]
    refine .bind (.look casts watched) fun cancelled => ?_
    cases cancelled with
    | true => exact .pure _
    | false =>
      refine .bind (mirrored_turn casts run) fun run => ?_
      cases run.last.done with
      | true => exact .pure run
      | false => exact ih run

theorem mirrored_episode {cast : Cast σ α} {other : Cast τ α} (casts : cast.Mirrors wording linked other)
    (watched : Bool) (maxSteps : Nat) : Mirrored wording linked cast other (episode watched maxSteps) := by
  have parts : episode watched maxSteps = (act .prepare >>= ofAgent) >>= fun _ =>
      ask .reset >>= fun state => proceed watched maxSteps { last := { state } } := by
    simp [episode]
  rw [parts]
  exact .bind (.prepare casts) fun _ => .bind (.ask casts .reset fun _ => rfl) fun state =>
    mirrored_proceed casts watched maxSteps _

end Run
end TextQuest
