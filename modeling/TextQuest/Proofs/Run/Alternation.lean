import TextQuest.Agent.Fixed
import TextQuest.Proofs.Run.Calls
import TextQuest.Rehearsal

namespace TextQuest

structure Exchange where
  seen : Observation
  command : String
  told : Observation

namespace Exchange

def calls (exchange : Exchange) : List Entry :=
  [.decided exchange.seen (.ok exchange.command), .asked (.step exchange.command) (.ok exchange.told)]

/-- Exchanges in a row. The agent is shown each time what was told last, and only while the game goes on. -/
inductive Linked : Observation → List Exchange → Observation → Prop
  | nil (last : Observation) : Linked last [] last
  | cons {seen told last : Observation} {command : String} {exchanges : List Exchange} :
      seen.done = false → Linked told exchanges last →
      Linked seen (⟨seen, command, told⟩ :: exchanges) last

namespace Linked

variable {first last : Observation} {exchanges : List Exchange}

theorem unfinished (linked : Linked first exchanges last) :
    ∀ exchange ∈ exchanges, exchange.seen.done = false := by
  induction linked with
  | nil => simp
  | cons goesOn _ ih => exact List.forall_mem_cons.mpr ⟨goesOn, ih⟩

theorem final (linked : Linked first exchanges last) {before after : List Exchange}
    {exchange : Exchange} (split : exchanges = before ++ exchange :: after)
    (done : exchange.told.done = true) : after = [] := by
  induction linked generalizing before with
  | nil => simp at split
  | cons _ rest ih =>
    cases before with
    | cons _ before =>
      obtain ⟨-, split⟩ := List.cons.inj split
      exact ih split
    | nil =>
      obtain ⟨rfl, rfl⟩ := List.cons.inj split
      cases rest with
      | nil => rfl
      | cons goesOn _ => exact absurd (goesOn.symm.trans done) Bool.false_ne_true

end Linked
end Exchange

namespace EpisodeRun

def Stopped (run : EpisodeRun) (maxSteps : Nat) : Prop :=
  run.last.done = true ∧ run.interrupted = false ∨
    run.last.done = false ∧ run.interrupted = true ∧ run.steps < maxSteps ∨
    run.last.done = false ∧ run.interrupted = false ∧ run.steps = maxSteps

structure Continues (before : EpisodeRun) (exchanges : List Exchange) (after : EpisodeRun) : Prop where
  linked : Exchange.Linked before.last exchanges after.last
  steps : after.steps = before.steps + exchanges.length
  totalReward : after.totalReward =
    (exchanges.map (·.told.reward.value)).foldl (· + ·) before.totalReward

namespace Continues

variable {before after : EpisodeRun}

theorem refl (run : EpisodeRun) (interrupted : Bool) : run.Continues [] { run with interrupted } :=
  ⟨.nil _, rfl, rfl⟩

theorem cons {exchanges : List Exchange} {told : Observation} (goesOn : before.last.done = false)
    (command : String) (continues : (before.after told).Continues exchanges after) :
    before.Continues (⟨before.last, command, told⟩ :: exchanges) after where
  linked := .cons goesOn continues.linked
  steps := by
    rw [continues.steps, List.length_cons]
    simp only [EpisodeRun.after]
    omega
  totalReward := continues.totalReward

end Continues

structure Alternates (run : EpisodeRun) (maxSteps : Nat) (state : GameState)
    (exchanges : List Exchange) : Prop where
  linked : Exchange.Linked { state } exchanges run.last
  unfinished : ∀ exchange ∈ exchanges, exchange.seen.done = false
  final : ∀ before exchange after, exchanges = before ++ exchange :: after →
    exchange.told.done = true → after = []
  steps : run.steps = exchanges.length
  totalReward : run.totalReward = (exchanges.map (·.told.reward.value)).foldl (· + ·) 0
  within : run.steps ≤ maxSteps
  stopped : run.Stopped maxSteps

end EpisodeRun

namespace Run

variable {σ α : Type} {cast : Cast σ α} {scene after : Scene σ α}

theorem look_ok {watched seen : Bool}
    (performed : (look watched).perform cast scene = (.ok seen, after)) :
    after.journal.calls = scene.journal.calls := by
  cases watched with
  | false =>
    cases performed
    rfl
  | true =>
    cases performed
    exact Journal.calls_uncalled rfl _

theorem ask_ok {call : Call} {reply : call.Reply}
    (performed : (ask call).perform cast scene = (.ok reply, after)) :
    after.journal.calls = scene.journal.calls ++ [.asked call (.ok reply)] := by
  obtain ⟨answer, asked, asks, performed⟩ := perform_bind_ok performed
  obtain ⟨rfl, rfl⟩ := ofEngine_ok performed
  have calls := cast.calls_ask call scene
  rwa [show cast.ask call scene = _ from act_ok asks] at calls

theorem turn_ok {run next : EpisodeRun}
    (performed : (turn run).perform cast scene = (.ok next, after)) :
    ∃ command told, next = run.after told ∧
      after.journal.calls = scene.journal.calls ++ Exchange.calls ⟨run.last, command, told⟩ := by
  obtain ⟨answer, decided, decides, performed⟩ := perform_bind_ok performed
  obtain ⟨command, chosen, chooses, performed⟩ := perform_bind_ok performed
  obtain ⟨told, stepped, steps, performed⟩ := perform_bind_ok performed
  obtain ⟨_, noted, notes, performed⟩ := perform_bind_ok performed
  obtain ⟨rfl, rfl⟩ := ofAgent_ok chooses
  have decision := cast.calls_decide run.last scene
  rw [act_ok decides] at decision
  have submission := ask_ok steps
  cases notes
  cases performed
  refine ⟨command, told, rfl, ?_⟩
  calc _ = stepped.journal.calls := Journal.calls_uncalled rfl _
    _ = scene.journal.calls ++ [.decided run.last (.ok command)] ++ [_] := by
      rw [submission, decision]
    _ = _ := List.append_assoc _ _ _

/-- From any point of an episode on, decisions and steps take turns until it stops. -/
theorem proceed_ok {watched : Bool} {budget : Nat} {run result : EpisodeRun}
    (goesOn : run.last.done = false) (uninterrupted : run.interrupted = false)
    (performed : (proceed watched budget run).perform cast scene = (.ok result, after)) :
    ∃ exchanges, run.Continues exchanges result ∧ exchanges.length ≤ budget ∧
      result.Stopped (run.steps + budget) ∧
      after.journal.calls = scene.journal.calls ++ exchanges.flatMap Exchange.calls := by
  induction budget generalizing run scene with
  | zero =>
    cases performed
    exact ⟨[], .refl result result.interrupted, Nat.le_refl 0, .inr (.inr ⟨goesOn, uninterrupted, rfl⟩),
      (List.append_nil _).symm⟩
  | succ budget ih =>
    rw [proceed_succ] at performed
    obtain ⟨seen, looked, looks, performed⟩ := perform_bind_ok performed
    have sameCalls := look_ok looks
    cases seen with
    | true =>
      cases performed
      refine ⟨[], .refl run true, Nat.zero_le _, .inr (.inl ⟨goesOn, rfl, ?_⟩), ?_⟩
      · simp only
        omega
      · exact sameCalls.trans (List.append_nil _).symm
    | false =>
      obtain ⟨next, turned, turns, performed⟩ := perform_bind_ok performed
      obtain ⟨command, told, rfl, calls⟩ := turn_ok turns
      rw [sameCalls] at calls
      split at performed
      · rename_i done
        cases performed
        refine ⟨[_], .cons goesOn command (.refl _ _), ?_, .inl ⟨done, uninterrupted⟩, ?_⟩
        · simp
        · simpa using calls
      · rename_i unfinished
        have undone : (run.after told).last.done = false := by simpa using unfinished
        have uncut : (run.after told).interrupted = false := uninterrupted
        obtain ⟨exchanges, continues, within, stopped, further⟩ :=
          ih undone uncut performed
        refine ⟨_ :: exchanges, continues.cons goesOn command, ?_, ?_, ?_⟩
        · simpa using within
        · have steps : (run.after told).steps + budget = run.steps + (budget + 1) := by
            simp only [EpisodeRun.after]
            omega
          exact steps ▸ stopped
        · rw [further, calls, List.flatMap_cons, List.append_assoc]

end Run

theorem episode_alternates {σ α : Type} {cast : Cast σ α} {watched : Bool} {maxSteps : Nat}
    {scene after : Scene σ α} {run : EpisodeRun}
    (returned : (Run.episode watched maxSteps).perform cast scene = (.ok run, after)) :
    ∃ ready state exchanges, cast.perform .prepare scene = (.ok (), ready) ∧
      after.journal.calls =
        ready.journal.calls ++ .asked .reset (.ok state) :: exchanges.flatMap Exchange.calls ∧
      run.Alternates maxSteps state exchanges := by
  obtain ⟨answer, _, prepares, goesOn⟩ := Run.perform_bind_ok returned
  obtain ⟨_, ready, accepts, plays⟩ := Run.perform_bind_ok goesOn
  obtain ⟨rfl, rfl⟩ := Run.ofAgent_ok accepts
  obtain ⟨state, fresh, resets, proceeds⟩ := Run.perform_bind_ok plays
  obtain ⟨exchanges, continues, within, stopped, calls⟩ := Run.proceed_ok rfl rfl proceeds
  have steps : run.steps = exchanges.length := continues.steps.trans (Nat.zero_add _)
  rw [Nat.zero_add] at stopped
  refine ⟨ready, state, exchanges, Run.act_ok prepares, ?_, ?_⟩
  · rw [calls, Run.ask_ok resets, List.append_assoc, List.singleton_append]
  · exact {
      linked := continues.linked
      unfinished := continues.linked.unfinished
      final := fun _ _ _ => continues.linked.final
      steps := steps
      totalReward := continues.totalReward
      within := steps ▸ within
      stopped := stopped }

theorem lost_episode_alternates :
    let cast : Cast Rehearsal (List String) := ⟨Rehearsal.engine, Agent.fixed, fun _ => false⟩
    let further : Observation := { state := { moves := 1 }, reward := .positive }
    let lost : Observation := { state := { moves := 2, lost := true }, reward := .negative, done := true }
    let scene : Scene Rehearsal (List String) :=
      ⟨{ steps := [.ok further, .ok lost] }, ["look", "jump"], []⟩
    ∃ run after, (Run.episode true 5).perform cast scene = (.ok run, after) ∧
      run.steps = 2 ∧ run.totalReward = 0 ∧
      ∃ ready state exchanges, cast.perform .prepare scene = (.ok (), ready) ∧
        after.journal.calls =
          ready.journal.calls ++ .asked .reset (.ok state) :: exchanges.flatMap Exchange.calls ∧
        run.Alternates 5 state exchanges := by
  intro cast further lost scene
  have ends : ∃ run after, (Run.episode true 5).perform cast scene = (.ok run, after) ∧
      run.steps = 2 ∧ run.totalReward = 0 := ⟨_, _, rfl, rfl, rfl⟩
  obtain ⟨run, after, returned, steps, total⟩ := ends
  exact ⟨run, after, returned, steps, total, episode_alternates returned⟩

end TextQuest
