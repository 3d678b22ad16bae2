import Mathlib.Data.List.Forall2
import TextQuest.Proofs.Run.Conduct

namespace TextQuest

namespace EpochOrder

theorem size_exchanges (places : List (Nat × Nat)) (games : Array String) :
    (places.foldl Random.exchange games).size = games.size := by
  induction places generalizing games with
  | nil => rfl
  | cons place places ih => exact (ih _).trans Array.size_swapIfInBounds

theorem size_next (order : EpochOrder) : order.next.games.size = order.games.size :=
  size_exchanges _ _

theorem length_orders (count : Nat) (order : EpochOrder) : (orders count order).length = count := by
  induction count generalizing order with
  | zero => rfl
  | succ count ih => exact congrArg Nat.succ (ih order.next)

theorem length_of_mem_orders {count : Nat} {order : EpochOrder} {games : List String}
    (mem : games ∈ orders count order) : games.length = order.games.size := by
  induction count generalizing order with
  | zero => contradiction
  | succ count ih =>
    rcases List.mem_cons.mp mem with rfl | mem
    · exact Array.length_toList.trans order.size_next
    · exact (ih mem).trans order.size_next

end EpochOrder

def epochPlan (epoch : Nat) (games : List String) : List (Nat × String) :=
  games.map fun game => (epoch, Path.gameName (Text.encode game))

def planFrom (first : Nat) (orders : List (List String)) : List (Nat × String) :=
  (orders.zipIdx first).flatMap fun (games, epoch) => epochPlan epoch games

def schedule (config : TrainConfig) (games : List String) : List (Nat × String) :=
  planFrom 0 (EpochOrder.orders config.epochs (.first games config.seed))

theorem planFrom_cons (first : Nat) (games : List String) (orders : List (List String)) :
    planFrom first (games :: orders) = epochPlan first games ++ planFrom (first + 1) orders := by
  simp [planFrom, List.zipIdx_cons]

theorem length_planFrom {size : Nat} (first : Nat) {orders : List (List String)}
    (sizes : ∀ games ∈ orders, games.length = size) :
    (planFrom first orders).length = orders.length * size := by
  induction orders generalizing first with
  | nil => simp [planFrom]
  | cons games orders ih =>
    rw [List.forall_mem_cons] at sizes
    rw [planFrom_cons, List.length_append, ih _ sizes.2, epochPlan, List.length_map, sizes.1,
      List.length_cons, Nat.succ_mul, Nat.add_comm]

theorem length_schedule (config : TrainConfig) (games : List String) :
    (schedule config games).length = config.epochs * games.length := by
  rw [schedule, length_planFrom 0 fun _ => EpochOrder.length_of_mem_orders, EpochOrder.length_orders]
  rfl

namespace GameProgress

def place (progress : GameProgress) : Nat × String := (progress.epoch, progress.game)

structure Tells (progress : GameProgress) (maxSteps : Nat) (game : String) (run : EpisodeRun) : Prop where
  game : progress.game = Path.gameName (Text.encode game)
  outcome : progress.outcome = run.outcome
  uninterrupted : run.interrupted = false
  within : run.steps ≤ maxSteps

end GameProgress

def Recorded (maxSteps : Nat) : List GameProgress → List (String × EpisodeRun) → Prop :=
  List.Forall₂ fun progress shown => progress.Tells maxSteps shown.1 shown.2

def Training.places (training : Training) : List (Nat × String) :=
  (training.recorded.map GameProgress.place).reverse

/-- What further training on a plan comes to: `count` episodes of the plan were recorded, and all of them
unless the run was cancelled. -/
structure Trained (maxSteps : Nat) (before : Training) (plan : List (Nat × String)) (count : Nat)
    (after : Training) (standing : Standing) : Prop where
  stands : standing.At false none after.interrupted
  recorded : Recorded maxSteps after.recorded standing.shown
  within : count ≤ plan.length
  places : after.places = before.places ++ plan.take count
  interrupted : after.interrupted = true ↔ count < plan.length

namespace Trained

variable {maxSteps count : Nat} {before after : Training} {plan rest : List (Nat × String)}
  {standing : Standing}

theorem done (stands : standing.At false none before.interrupted)
    (recorded : Recorded maxSteps before.recorded standing.shown)
    (uninterrupted : before.interrupted = false) : Trained maxSteps before [] 0 before standing :=
  ⟨stands, recorded, Nat.le_refl 0, by simp, by simp [uninterrupted]⟩

theorem cancelled (stands : standing.At false none true)
    (recorded : Recorded maxSteps before.recorded standing.shown) (left : plan ≠ []) :
    Trained maxSteps before plan 0 { before with interrupted := true } standing :=
  ⟨stands, recorded, Nat.zero_le _, by simp [Training.places], by simpa [List.length_pos_iff] using left⟩

theorem further {middle : Training} (first : middle.places = before.places ++ plan)
    (trained : Trained maxSteps middle rest count after standing) :
    Trained maxSteps before (plan ++ rest) (plan.length + count) after standing where
  stands := trained.stands
  recorded := trained.recorded
  within := by simpa using trained.within
  places := by rw [trained.places, first, List.append_assoc, List.take_length_add_append]
  interrupted := by simpa using trained.interrupted

theorem cut (interrupted : after.interrupted = true)
    (trained : Trained maxSteps before plan count after standing) :
    Trained maxSteps before (plan ++ rest) count after standing := by
  have short := trained.interrupted.mp interrupted
  refine ⟨trained.stands, trained.recorded, ?_, ?_, ?_⟩
  · rw [List.length_append]
    omega
  · rw [trained.places, List.take_append_of_le_length trained.within]
  · rw [List.length_append]
    exact iff_of_true interrupted (by omega)

theorem whole (uninterrupted : after.interrupted = false)
    (trained : Trained maxSteps before plan count after standing) : count = plan.length := by
  have within := trained.within
  have enough : ¬ count < plan.length := by simp [← trained.interrupted, uninterrupted]
  omega

end Trained

def Scheduled (config : TrainConfig) (games : List String) (training : Training)
    (standing : Standing) : Prop :=
  ∃ count, Trained config.maxSteps {} (schedule config games) count training standing ∧
    training.epochsCompleted = if games.isEmpty then config.epochs else count / games.length

namespace Run

variable {σ α γ : Type} {cast : Cast σ α} {terms : Terms} {standing : Standing}

theorem meets_releaseInterrupted {game : String} (stands : standing.At true none true) :
    Meets cast terms (releaseInterrupted game) standing
      (Ends false fun _ after => after.At false none true ∧ standing.Stays after) := by
  refine Meets.bind (meets_release stands ?_)
  have stays (answer) := standing.stays_after (.closed answer) rfl rfl
  intro answer
  cases answer with
  | error error => exact Meets.note ⟨stands.closed _, stays _⟩
  | ok _ => exact Meets.pure ⟨stands.closed _, stays _⟩

theorem Meets.showed {run : EpisodeRun} {next : Unit → Run γ} {holds : γ → Standing → Prop}
    (stands : standing.At false none false) (told : standing.run = some run)
    (ended : run.last.done = true ∨ run.steps = terms.maxSteps)
    (rest : ∀ after : Standing, after.At false none false →
      after.shown = (standing.game, run) :: standing.shown →
        Meets cast terms (next ()) after (Ends false holds)) :
    Meets cast terms (act (.finish run.last) >>= fun answer => ofAgent answer >>= next) standing
      (Ends false holds) := by
  have finishing := stands.finishing run.last
  refine Meets.bind (Meets.finish ⟨stands.goesOn, stands.isOpen, run, told, rfl, ended⟩
    (fun _ => ⟨finishing.goesOn, finishing.isOpen⟩) ?_)
  intro answer
  cases answer with
  | error error => exact Meets.bind (Meets.throw (finishing.finished _ _))
  | ok _ =>
    have shown := Standing.shown_finishing told run.last
    exact Meets.bind (Meets.pure (rest _ (finishing.finished run.last _) shown))

theorem meets_trainGames (looks : terms.cancelled = cast.cancelled) (watched : terms.watched = true)
    (epoch : Nat) (games : List String) {training : Training} (stands : standing.At false none false)
    (recorded : Recorded terms.maxSteps training.recorded standing.shown)
    (uninterrupted : training.interrupted = false) :
    Meets cast terms (trainGames terms.maxSteps epoch games training) standing
      (Ends false fun after standing =>
        after.epochsCompleted = training.epochsCompleted ∧
          ∃ count, Trained terms.maxSteps training (epochPlan epoch games) count after standing) := by
  induction games generalizing standing training with
  | nil => exact Meets.pure ⟨rfl, 0, .done (uninterrupted ▸ stands) recorded uninterrupted⟩
  | cons game games ih =>
    have left : epochPlan epoch (game :: games) ≠ [] := by simp [epochPlan]
    refine Meets.bind (Meets.poll (fun _ => ⟨stands.goesOn, stands.unprepared, watched⟩) looks ?_)
    intro seen
    cases seen with
    | true => exact Meets.pure ⟨rfl, 0, .cancelled (stands.polled true) recorded left⟩
    | false =>
      refine Meets.seq (meets_openSession (stands.polled false) (by rw [watched]; rfl)) ?_
      intro _ opened ready
      obtain ⟨stands, sameGame, sameShown⟩ := ready
      have plays := meets_episode looks stands
      rw [watched] at plays
      refine Meets.seq (meets_guarded plays) ?_
      intro run after played
      have stands := played.stands
      have shown : after.shown = _ := played.stays.shown.trans sameShown
      cases interrupted : run.interrupted with
      | true =>
        rw [interrupted] at stands
        refine Meets.seq (meets_releaseInterrupted stands) ?_
        intro _ closed released
        obtain ⟨stands, stays⟩ := released
        have recorded : Recorded terms.maxSteps training.recorded closed.shown := by
          rw [stays.shown, shown]
          exact recorded
        exact Meets.pure ⟨rfl, 0, .cancelled stands recorded left⟩
      | false =>
        rw [interrupted] at stands
        refine Meets.released stands ?_
        refine Meets.showed (stands.closed _) (played.told interrupted) (played.ended interrupted) ?_
        intro finished stands newShown
        let progress : GameProgress := ⟨epoch, Path.gameName (Text.encode game), run.outcome⟩
        have tells : progress.Tells terms.maxSteps game run := ⟨rfl, rfl, interrupted, played.within⟩
        have recorded : Recorded terms.maxSteps (progress :: training.recorded) finished.shown := by
          rw [newShown]
          -- Closing the session changes neither its game nor what was shown before.
          change Recorded _ _ ((after.game, run) :: after.shown)
          rw [played.stays.game, sameGame, shown]
          exact .cons tells recorded
        let recording : Training := { training with recorded := progress :: training.recorded }
        have places : recording.places = training.places ++ [progress.place] := by
          simp [recording, Training.places]
        have rest : Meets cast terms (trainGames terms.maxSteps epoch games recording) finished _ :=
          ih stands recorded uninterrupted
        refine Meets.noted (rest.conclude ?_)
        intro result later ended
        obtain ⟨epochs, count, trained⟩ := ended
        exact ⟨epochs, _, trained.further places⟩

theorem meets_trainEpochs (looks : terms.cancelled = cast.cancelled) (watched : terms.watched = true)
    (more : Nat) (order : EpochOrder) {training : Training} (stands : standing.At false none false)
    (recorded : Recorded terms.maxSteps training.recorded standing.shown)
    (uninterrupted : training.interrupted = false) (nonempty : 0 < order.games.size) :
    Meets cast terms (trainEpochs terms.maxSteps more order training) standing
      (Ends false fun after standing => ∃ count,
        Trained terms.maxSteps training (planFrom training.epochsCompleted (order.orders more)) count
          after standing ∧
        after.epochsCompleted = training.epochsCompleted + count / order.games.size) := by
  -- Each epoch begins where the one before it ended; only the last one played may be cut short.
  induction more generalizing standing order training with
  | zero =>
    exact Meets.pure ⟨0, .done (uninterrupted ▸ stands) recorded uninterrupted, by simp⟩
  | succ more ih =>
    have length : (epochPlan training.epochsCompleted order.next.games.toList).length =
        order.games.size := by simp [epochPlan, EpochOrder.size_next]
    rw [EpochOrder.orders, planFrom_cons]
    refine Meets.seq (meets_trainGames looks watched _ _ stands recorded uninterrupted) ?_
    rintro after standing ⟨epochs, count, trained⟩
    split
    · rename_i interrupted
      have short : count < order.games.size := length ▸ trained.interrupted.mp interrupted
      refine Meets.pure ⟨count, trained.cut interrupted, ?_⟩
      rw [epochs, Nat.div_eq_of_lt short]
      rfl
    · rename_i goes
      have uninterrupted : after.interrupted = false := by simpa using goes
      have whole : count = _ := trained.whole uninterrupted
      let middle : Training := { after with epochsCompleted := after.epochsCompleted + 1 }
      have epochsMiddle : middle.epochsCompleted = training.epochsCompleted + 1 :=
        congrArg Nat.succ epochs
      have places : middle.places = training.places ++ _ := trained.places
      rw [whole, List.take_length] at places
      have rest : Meets cast terms (trainEpochs terms.maxSteps more order.next middle) standing _ :=
        ih order.next (uninterrupted ▸ trained.stands) trained.recorded uninterrupted
          (order.size_next ▸ nonempty)
      refine rest.conclude ?_
      rintro result ending ⟨further, finished, epochsAfter⟩
      rw [epochsMiddle] at finished epochsAfter
      refine ⟨_, finished.further places, ?_⟩
      rw [epochsAfter, EpochOrder.size_next, length, Nat.add_div_left _ nonempty]
      omega

theorem meets_trainAll (config : TrainConfig) (games : List String)
    (stands : standing.At false none false) (unshown : standing.shown = []) :
    Meets cast ⟨config.maxSteps, true, cast.cancelled⟩ (trainAll config games) standing
      (Ends false (Scheduled config games)) := by
  have recorded : Recorded config.maxSteps [] standing.shown := unshown ▸ .nil
  unfold trainAll
  split
  · rename_i empty
    have nothing : schedule config games = [] := by
      rw [← List.length_eq_zero_iff, length_schedule, List.isEmpty_iff.mp empty]
      rfl
    refine Meets.pure ⟨0, ?_, (if_pos empty).symm⟩
    rw [nothing]
    exact ⟨stands, recorded, Nat.le_refl 0, rfl, by simp⟩
  · rename_i nonempty
    have positive : 0 < games.length := by simpa [List.length_pos_iff] using nonempty
    refine (meets_trainEpochs rfl rfl config.epochs (.first games config.seed) stands recorded rfl
      positive).conclude ?_
    rintro after later ⟨count, trained, epochs⟩
    refine ⟨count, trained, ?_⟩
    rw [if_neg nonempty]
    exact epochs.trans (Nat.zero_add _)

theorem meets_trainOn (agentName : String) (config : TrainConfig) (games : List String) :
    Meets cast ⟨config.maxSteps, true, cast.cancelled⟩ (trainOn agentName config games) {}
      (Ends false fun report standing =>
        ∃ training, report = training.report ∧ Scheduled config games training standing) := by
  have fresh : Standing.At {} false none false := ⟨rfl, rfl, rfl, rfl⟩
  refine Meets.noted (Meets.bind (Meets.setTraining ⟨fresh.goesOn, rfl⟩ ?_))
  refine Meets.seq (meets_trainAll config games (fresh.training true) rfl) ?_
  exact fun training after scheduled => Meets.noted (Meets.pure ⟨training, rfl, scheduled⟩)

theorem scheduled_trainOn (cast : Cast σ α) (engine : σ) (agent : α) (agentName : String)
    (config : TrainConfig) (games : List String) :
    let ran := performed cast (trainOn agentName config games) engine agent
    ran.2.journal.Lawful ⟨config.maxSteps, true, cast.cancelled⟩ ∧
      Ends false (fun report after =>
        ∃ training, report = training.report ∧ Scheduled config games training after)
        ran.1 ran.2.journal.standing :=
  meets_trainOn agentName config games ⟨engine, agent, []⟩ trivial rfl

theorem lawful_trainOn (cast : Cast σ α) (engine : σ) (agent : α) (agentName : String)
    (config : TrainConfig) (games : List String) :
    let ran := performed cast (trainOn agentName config games) engine agent
    ran.2.journal.Lawful ⟨config.maxSteps, true, cast.cancelled⟩ ∧
      Ends false (fun report after => after.At false none report.interrupted) ran.1
        ran.2.journal.standing := by
  obtain ⟨lawful, ended⟩ := scheduled_trainOn cast engine agent agentName config games
  refine ⟨lawful, ended.weaken ?_⟩
  rintro report ⟨training, rfl, count, trained, -⟩
  exact trained.stands

end Run
end TextQuest
