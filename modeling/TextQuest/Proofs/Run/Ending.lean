import TextQuest.Proofs.Run.Alternation

/-!
What the ending of an episode says of how it stopped. A run that was cancelled always tells so; one that
played on tells whether the engine ended the game, as long as no game is won or lost before its end.
-/
namespace TextQuest

variable {σ α : Type} {cast : Cast σ α} {scene after : Scene σ α}

theorem Exchange.Linked.undone_iff {first last : Observation} {exchanges : List Exchange}
    (linked : Linked first exchanges last) (goesOn : first.done = false) :
    (∀ exchange ∈ exchanges, exchange.told.done = false) ↔ last.done = false := by
  induction linked with
  | nil => simpa using goesOn
  | @cons seen told last command exchanges _ rest ih =>
    rw [List.forall_mem_cons]
    cases done : told.done with
    | false => simpa using ih done
    | true =>
      -- Nothing follows the end of the game, so it is what was told last.
      cases rest with
      | nil => simp [done]
      | cons undone _ => exact absurd (undone.symm.trans done) Bool.false_ne_true

namespace EpisodeRun

structure TellsEnding (run : EpisodeRun) (maxSteps : Nat) (exchanges : List Exchange) (cancelled : Prop) :
    Prop where
  interrupted : run.outcome.termination = .interrupted ↔ cancelled
  stepBudget : ¬ cancelled →
    (run.outcome.termination = .stepBudget ↔ ∀ exchange ∈ exchanges, exchange.told.done = false)
  spent : ¬ cancelled → (∀ exchange ∈ exchanges, exchange.told.done = false) →
    exchanges.length = maxSteps
  won : run.outcome.termination = .won → run.last.done = true ∧ run.last.state.won = true
  lost : run.outcome.termination = .lost →
    run.last.done = true ∧ run.last.state.lost = true ∧ run.last.state.won = false
  ended : run.outcome.termination = .ended →
    run.last.done = true ∧ run.last.state.won = false ∧ run.last.state.lost = false

theorem termination_of_cancelled {run : EpisodeRun} (cancelled : run.interrupted = true) :
    run.outcome.termination = .interrupted := by
  simp [outcome, termination, cancelled]

theorem termination_of_done {run : EpisodeRun} (whole : run.interrupted = false)
    (done : run.last.done = true) :
    run.outcome.termination =
      if run.last.state.won then .won else if run.last.state.lost then .lost else .ended := by
  simp [outcome, termination, whole, done]

theorem termination_of_undecided {run : EpisodeRun} (whole : run.interrupted = false)
    (unfinished : run.last.done = false)
    (undecided : run.last.state.won = false ∧ run.last.state.lost = false) :
    run.outcome.termination = .stepBudget := by
  simp [outcome, termination, whole, unfinished, undecided]

theorem tellsEnding {run : EpisodeRun} {maxSteps : Nat} {exchanges : List Exchange} {cancelled : Prop}
    (undone : (∀ exchange ∈ exchanges, exchange.told.done = false) ↔ run.last.done = false)
    (steps : run.steps = exchanges.length) (stopped : run.Stopped maxSteps)
    (cut : run.interrupted = true ↔ cancelled)
    (settled : run.interrupted = false → run.last.done = false →
      run.last.state.won = false ∧ run.last.state.lost = false) :
    run.TellsEnding maxSteps exchanges cancelled := by
  rcases stopped with ⟨done, whole⟩ | ⟨unfinished, interrupted, -⟩ | ⟨unfinished, whole, spent⟩
  · have told := termination_of_done whole done
    have uncut : ¬ cancelled := by simp [← cut, whole]
    have ended : ¬ ∀ exchange ∈ exchanges, exchange.told.done = false := by simp [undone, done]
    cases won : run.last.state.won <;> cases lost : run.last.state.lost <;>
      constructor <;> simp [told, won, lost, done, uncut, ended]
  · have told := termination_of_cancelled interrupted
    have cut : cancelled := cut.mp interrupted
    constructor <;> simp [told, cut]
  · have told := termination_of_undecided whole unfinished (settled whole unfinished)
    have uncut : ¬ cancelled := by simp [← cut, whole]
    have never : ∀ exchange ∈ exchanges, exchange.told.done = false := undone.mpr unfinished
    exact {
      interrupted := by simp [told, uncut]
      stepBudget := fun _ => iff_of_true told never
      spent := fun _ _ => steps.symm.trans spent
      won := by simp [told]
      lost := by simp [told]
      ended := by simp [told] }

end EpisodeRun

namespace Run

theorem turn_noted {run next : EpisodeRun}
    (performed : (turn run).perform cast scene = (.ok next, after)) :
    next.interrupted = run.interrupted ∧ ∃ line, after.journal.head? = some (.noted line) := by
  obtain ⟨answer, decided, decides, performed⟩ := perform_bind_ok performed
  obtain ⟨command, chosen, chooses, performed⟩ := perform_bind_ok performed
  obtain ⟨told, stepped, steps, performed⟩ := perform_bind_ok performed
  obtain ⟨_, noted, notes, performed⟩ := perform_bind_ok performed
  cases notes
  cases performed
  exact ⟨rfl, _, rfl⟩

/-- An episode is interrupted if and only if the last thing it did was to find the run cancelled. -/
theorem proceed_polled {watched : Bool} {budget : Nat} {run result : EpisodeRun}
    (uninterrupted : run.interrupted = false) (unpolled : scene.journal.head? ≠ some (.polled true))
    (performed : (proceed watched budget run).perform cast scene = (.ok result, after)) :
    result.interrupted = true ↔ after.journal.head? = some (.polled true) := by
  induction budget generalizing run scene with
  | zero =>
    cases performed
    simp [uninterrupted, unpolled]
  | succ budget ih =>
    rw [proceed_succ] at performed
    obtain ⟨seen, looked, looks, performed⟩ := perform_bind_ok performed
    cases seen with
    | true =>
      cases performed
      cases watched with
      | false => cases looks
      | true =>
        obtain ⟨found, rfl⟩ := Prod.mk.inj (act_ok looks)
        simp only [Scene.record, List.head?_cons, true_iff]
        exact congrArg (fun seen => some (Entry.polled seen)) found
    | false =>
      obtain ⟨next, turned, turns, performed⟩ := perform_bind_ok performed
      obtain ⟨same, line, latest⟩ := turn_noted turns
      have unpolled : turned.journal.head? ≠ some (.polled true) := by simp [latest]
      split at performed
      · cases performed
        simp [same, uninterrupted, unpolled]
      · exact ih (same.trans uninterrupted) unpolled performed

theorem episode_ok {watched : Bool} {maxSteps : Nat} {run : EpisodeRun}
    (performed : (episode watched maxSteps).perform cast scene = (.ok run, after)) :
    ∃ ready state fresh, cast.perform .prepare scene = (.ok (), ready) ∧
      cast.ask .reset ready = (.ok state, fresh) ∧
      (proceed watched maxSteps { last := { state } }).perform cast fresh = (.ok run, after) := by
  obtain ⟨answer, _, prepares, goesOn⟩ := perform_bind_ok performed
  obtain ⟨_, ready, accepts, plays⟩ := perform_bind_ok goesOn
  obtain ⟨rfl, rfl⟩ := ofAgent_ok accepts
  obtain ⟨state, fresh, resets, proceeds⟩ := perform_bind_ok plays
  obtain ⟨told, _, asks, resets⟩ := perform_bind_ok resets
  obtain ⟨rfl, rfl⟩ := ofEngine_ok resets
  exact ⟨ready, state, fresh, act_ok prepares, act_ok asks, proceeds⟩

end Run

theorem ending_tells_how_episode_stopped {watched : Bool} {maxSteps : Nat} {run : EpisodeRun}
    (returned : (Run.episode watched maxSteps).perform cast scene = (.ok run, after))
    (settled : run.interrupted = false → run.last.done = false →
      run.last.state.won = false ∧ run.last.state.lost = false) :
    ∃ ready state exchanges, cast.perform .prepare scene = (.ok (), ready) ∧
      after.journal.calls =
        ready.journal.calls ++ .asked .reset (.ok state) :: exchanges.flatMap Exchange.calls ∧
      Exchange.Linked { state } exchanges run.last ∧
      run.TellsEnding maxSteps exchanges (after.journal.head? = some (.polled true)) := by
  obtain ⟨ready, state, fresh, prepares, resets, proceeds⟩ := Run.episode_ok returned
  obtain ⟨exchanges, continues, -, stopped, calls⟩ := Run.proceed_ok rfl rfl proceeds
  have steps : run.steps = exchanges.length := continues.steps.trans (Nat.zero_add _)
  rw [Nat.zero_add] at stopped
  have reset : fresh.journal = .asked .reset (.ok state) :: ready.journal := by
    obtain ⟨answer, rfl⟩ := Prod.mk.inj resets
    exact congrArg (fun answer => Entry.asked .reset answer :: ready.journal) answer
  have unpolled : fresh.journal.head? ≠ some (.polled true) := by simp [reset]
  refine ⟨ready, state, exchanges, prepares, ?_, continues.linked, ?_⟩
  · rw [calls, reset, Journal.calls_call rfl, List.append_assoc, List.singleton_append]
  · exact EpisodeRun.tellsEnding (continues.linked.undone_iff rfl) steps stopped
      (Run.proceed_polled rfl unpolled proceeds) settled

theorem patient_ending_tells_how_it_stopped :
    let cast : Cast Rehearsal (List String) := ⟨Rehearsal.engine, Agent.fixed, fun _ => false⟩
    let told : Observation := { state := { moves := 1 } }
    let scene : Scene Rehearsal (List String) := ⟨{ steps := [.ok told, .ok told] }, ["look"], []⟩
    ∃ run after, (Run.episode true 2).perform cast scene = (.ok run, after) ∧
      (run.interrupted = false → run.last.done = false →
        run.last.state.won = false ∧ run.last.state.lost = false) ∧
      run.outcome.termination = .stepBudget ∧
      ∃ ready state exchanges, cast.perform .prepare scene = (.ok (), ready) ∧
        after.journal.calls =
          ready.journal.calls ++ .asked .reset (.ok state) :: exchanges.flatMap Exchange.calls ∧
        Exchange.Linked { state } exchanges run.last ∧
        run.TellsEnding 2 exchanges (after.journal.head? = some (.polled true)) := by
  intro cast told scene
  have ends : ∃ run after, (Run.episode true 2).perform cast scene = (.ok run, after) ∧
      (run.last.state.won = false ∧ run.last.state.lost = false) ∧
      run.outcome.termination = .stepBudget := ⟨_, _, rfl, ⟨rfl, rfl⟩, rfl⟩
  obtain ⟨run, after, returned, undecided, ending⟩ := ends
  exact ⟨run, after, returned, fun _ _ => undecided, ending,
    ending_tells_how_episode_stopped returned fun _ _ => undecided⟩

theorem won_state_hides_spent_budget :
    let cast : Cast Rehearsal (List String) := ⟨Rehearsal.engine, Agent.fixed, fun _ => false⟩
    let told : Observation := { state := { won := true } }
    let scene : Scene Rehearsal (List String) := ⟨{ steps := [.ok told] }, ["go"], []⟩
    let exchanges : List Exchange := [⟨{ state := {} }, "go", told⟩]
    ∃ run after, (Run.episode true 1).perform cast scene = (.ok run, after) ∧
      after.journal.calls = [.preparing, .prepared (.ok ())] ++ .asked .reset (.ok {}) ::
        exchanges.flatMap Exchange.calls ∧
      run.outcome.termination = .won ∧
      ¬ run.TellsEnding 1 exchanges (after.journal.head? = some (.polled true)) := by
  intro cast told scene exchanges
  have ends : ∃ run after, (Run.episode true 1).perform cast scene = (.ok run, after) ∧
      after.journal.calls = [.preparing, .prepared (.ok ())] ++ .asked .reset (.ok {}) ::
        exchanges.flatMap Exchange.calls ∧
      run.outcome.termination = .won ∧ run.last.done = false := ⟨_, _, rfl, rfl, rfl, rfl⟩
  obtain ⟨run, after, returned, calls, ending, unfinished⟩ := ends
  refine ⟨run, after, returned, calls, ending, fun tells => ?_⟩
  have done := (tells.won ending).1
  exact absurd (unfinished.symm.trans done) Bool.false_ne_true

end TextQuest
