import TextQuest.Proofs.Run.Ending
import TextQuest.Proofs.Run.Pause

/-!
Episodes with step budgets of different sizes. An episode that used up its budget is the beginning of the
same episode with a larger one, and an episode that stopped for any other reason is the same with both.
-/
namespace TextQuest

variable {σ α β : Type}

def EpisodeRun.GoesOn (run : EpisodeRun) : Prop := run.interrupted = false ∧ run.last.done = false

instance (run : EpisodeRun) : Decidable run.GoesOn := inferInstanceAs (Decidable (_ ∧ _))

namespace Run

def extend (watched : Bool) (more : Nat) (run : EpisodeRun) : Run EpisodeRun :=
  if run.GoesOn then proceed watched more run else return run

theorem proceed_add (watched : Bool) (budget more : Nat) {run : EpisodeRun} (goesOn : run.GoesOn) :
    proceed watched (budget + more) run = proceed watched budget run >>= extend watched more := by
  induction budget generalizing run with
  | zero =>
    rw [Nat.zero_add, proceed, pure_bind, extend, if_pos goesOn]
  | succ budget ih =>
    rw [Nat.add_right_comm]
    simp only [proceed_succ, turn, bind_assoc, pure_bind]
    refine bind_congr fun cancelled => ?_
    cases cancelled with
    | true => simp [extend, EpisodeRun.GoesOn]
    | false =>
      simp only [Bool.false_eq_true, if_false, bind_assoc]
      refine bind_congr fun answer => bind_congr fun command => bind_congr fun told =>
        bind_congr fun _ => ?_
      by_cases done : (run.after told).last.done = true
      · simp [done, extend, EpisodeRun.GoesOn]
      · rw [if_neg done, if_neg done]
        exact ih ⟨goesOn.1, by simpa using done⟩

theorem episode_add (watched : Bool) (maxSteps more : Nat) :
    episode watched (maxSteps + more) = episode watched maxSteps >>= extend watched more := by
  simp only [episode, bind_assoc]
  refine bind_congr fun answer => bind_congr fun _ => bind_congr fun state => ?_
  exact proceed_add watched maxSteps more ⟨rfl, rfl⟩

variable {cast : Cast σ α} {scene after : Scene σ α} {watched : Bool} {maxSteps : Nat} {run : EpisodeRun}

theorem episode_of_error {error : RunError}
    (failed : (episode watched maxSteps).perform cast scene = (.error error, after)) (more : Nat) :
    (episode watched (maxSteps + more)).perform cast scene = (.error error, after) := by
  rw [episode_add, perform_bind, failed]

theorem episode_of_ok (performed : (episode watched maxSteps).perform cast scene = (.ok run, after))
    (more : Nat) : (episode watched (maxSteps + more)).perform cast scene =
      if run.GoesOn then (proceed watched more run).perform cast after else (.ok run, after) := by
  rw [episode_add, perform_bind, performed]
  exact apply_ite (fun run : Run EpisodeRun => run.perform cast after) _ _ _

/-- An episode used up its budget, and is the beginning of one that was performed with a larger budget. -/
structure Begins (cast : Cast σ α) (scene : Scene σ α) (run : EpisodeRun) (maxSteps : Nat)
    (small large : Except RunError EpisodeRun × Scene σ α) : Prop where
  journal : small.2.journal <:+ large.2.journal
  calls : small.2.journal.calls <+: large.2.journal.calls
  spent : ∃ ready state exchanges, cast.perform .prepare scene = (.ok (), ready) ∧
    small.2.journal.calls =
      ready.journal.calls ++ .asked .reset (.ok state) :: exchanges.flatMap Exchange.calls ∧
    exchanges.length = maxSteps ∧ run.steps = maxSteps ∧ Exchange.Linked { state } exchanges run.last
  further : ∀ whole, large.1 = .ok whole → ∃ exchanges,
    large.2.journal.calls = small.2.journal.calls ++ exchanges.flatMap Exchange.calls ∧
      run.Continues exchanges whole

theorem begins_larger (performed : (episode watched maxSteps).perform cast scene = (.ok run, after))
    (goesOn : run.GoesOn) (more : Nat) :
    Begins cast scene run maxSteps (.ok run, after) ((proceed watched more run).perform cast after) := by
  obtain ⟨ready, state, fresh, prepares, resets, proceeds⟩ := episode_ok performed
  obtain ⟨exchanges, continues, -, stopped, calls⟩ := proceed_ok rfl rfl proceeds
  have steps : run.steps = exchanges.length := continues.steps.trans (Nat.zero_add _)
  have spent : run.steps = maxSteps := by
    rcases stopped with ⟨done, -⟩ | ⟨-, interrupted, -⟩ | ⟨-, -, spent⟩
    · exact absurd (goesOn.2.symm.trans done) Bool.false_ne_true
    · exact absurd (goesOn.1.symm.trans interrupted) Bool.false_ne_true
    · exact spent.trans (Nat.zero_add maxSteps)
  have reset : fresh.journal.calls = ready.journal.calls ++ [.asked .reset (.ok state)] := by
    have asked := cast.calls_ask .reset ready
    rwa [resets] at asked
  have grown : after.journal <:+ ((proceed watched more run).perform cast after).2.journal :=
    cast.suffix_run (proceed watched more run).run after
  constructor
  case journal => exact grown
  case calls =>
    obtain ⟨later, whole⟩ := grown
    rw [← whole, Journal.calls_append]
    exact List.prefix_append _ _
  case spent =>
    refine ⟨ready, state, exchanges, prepares, ?_, steps.symm.trans spent, spent, continues.linked⟩
    rw [calls, reset, List.append_assoc, List.singleton_append]
  case further =>
    intro whole returned
    obtain ⟨exchanges, continues, -, -, calls⟩ := proceed_ok goesOn.2 goesOn.1 (Prod.ext returned rfl)
    exact ⟨exchanges, calls, continues⟩

end Run

theorem larger_budget_keeps_smaller_one (cast : Cast σ α) (watched : Bool) {maxSteps larger : Nat}
    (within : maxSteps ≤ larger) (scene : Scene σ α) :
    let small := (Run.episode watched maxSteps).perform cast scene
    let large := (Run.episode watched larger).perform cast scene
    (∀ error, small.1 = .error error → large = small) ∧
      (∀ run, small.1 = .ok run → ¬ run.GoesOn → large = small) ∧
      ∀ run, small.1 = .ok run → run.GoesOn → Run.Begins cast scene run maxSteps small large := by
  intro small large
  obtain ⟨more, rfl⟩ := Nat.exists_eq_add_of_le within
  refine ⟨fun error failed => ?_, fun run returned stopped => ?_, fun run returned goesOn => ?_⟩
  · have performed : small = (.error error, small.2) := Prod.ext failed rfl
    exact (Run.episode_of_error performed more).trans performed.symm
  · have performed : small = (.ok run, small.2) := Prod.ext returned rfl
    have same : large = _ := Run.episode_of_ok performed more
    rw [same, if_neg stopped, ← performed]
  · have performed : small = (.ok run, small.2) := Prod.ext returned rfl
    have further : large = _ := Run.episode_of_ok performed more
    rw [further, if_pos goesOn]
    have begins := Run.begins_larger performed goesOn more
    rwa [← performed] at begins

theorem two_steps_begin_four :
    let cast : Cast Rehearsal (List String) := ⟨Rehearsal.engine, Agent.fixed, fun _ => false⟩
    let told (moves : Nat) : Observation := { state := { moves }, reward := .positive }
    let lost : Observation := { state := { moves := 3, lost := true }, reward := .negative, done := true }
    let scene : Scene Rehearsal (List String) :=
      ⟨{ steps := [.ok (told 1), .ok (told 2), .ok lost] }, ["look", "wait", "jump"], []⟩
    let small := (Run.episode true 2).perform cast scene
    let large := (Run.episode true 4).perform cast scene
    2 ≤ 4 ∧ ∃ run whole, small.1 = .ok run ∧ run.GoesOn ∧ large.1 = .ok whole ∧ whole.steps = 3 ∧
      Run.Begins cast scene run 2 small large := by
  intro cast told lost scene small large
  have within : 2 ≤ 4 := by decide
  obtain ⟨run, returned, goesOn⟩ : ∃ run, small.1 = .ok run ∧ run.GoesOn := ⟨_, rfl, rfl, rfl⟩
  obtain ⟨whole, ends, steps⟩ : ∃ whole, large.1 = .ok whole ∧ whole.steps = 3 := ⟨_, rfl, rfl⟩
  exact ⟨within, run, whole, returned, goesOn, ends, steps,
    (larger_budget_keeps_smaller_one cast true within scene).2.2 run returned goesOn⟩

end TextQuest
