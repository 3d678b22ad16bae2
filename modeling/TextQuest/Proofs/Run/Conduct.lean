import TextQuest.Proofs.Run.Logic

/-!
Every run keeps its journal lawful. A failure inside a session leaves it open for the guard to close; a
run that ended leaves no session open, and its result tells of the failure in its journal.
-/
namespace TextQuest.Run

variable {σ α β γ : Type} {cast : Cast σ α} {terms : Terms} {standing : Standing}

/-- How a part of a run ends whose failures find a session open, or find none. -/
def Ends (isOpen : Bool) (holds : β → Standing → Prop) : Except RunError β → Standing → Prop
  | .ok result, standing => holds result standing
  | .error error, standing => standing.At isOpen (some error) false

theorem Ends.weaken {isOpen : Bool} {holds weaker : β → Standing → Prop} {result : Except RunError β}
    (ended : Ends isOpen holds result standing)
    (follows : ∀ result, holds result standing → weaker result standing) :
    Ends isOpen weaker result standing := by
  cases result with
  | error error => exact ended
  | ok result => exact follows result ended

theorem Meets.conclude {run : Run β} {isOpen : Bool} {holds weaker : β → Standing → Prop}
    (meets : Meets cast terms run standing (Ends isOpen holds))
    (follows : ∀ result standing, holds result standing → weaker result standing) :
    Meets cast terms run standing (Ends isOpen weaker) :=
  meets.weaken fun _ after ended => ended.weaken fun result => follows result after

theorem Meets.seq {run : Run β} {next : β → Run γ} {isOpen : Bool} {mid : β → Standing → Prop}
    {holds : γ → Standing → Prop} (first : Meets cast terms run standing (Ends isOpen mid))
    (second : ∀ result standing, mid result standing →
      Meets cast terms (next result) standing (Ends isOpen holds)) :
    Meets cast terms (run >>= next) standing (Ends isOpen holds) := by
  apply Meets.bind
  apply first.weaken
  intro result after ended
  cases result with
  | error error => exact ended
  | ok result => exact second result after ended

theorem Meets.noted {line : Note} {next : Unit → Run γ} {post : Except RunError γ → Standing → Prop}
    (rest : Meets cast terms (next ()) standing post) :
    Meets cast terms (Run.note line >>= next) standing post :=
  Meets.bind (Meets.note rest)

/-! ## Episodes -/

theorem meets_ask {call : Call} (stands : standing.At true none false)
    (due : ∀ command, call = .step command → standing.pending = .chosen command) :
    Meets cast terms (ask call) standing
      (Ends true fun reply after => after = standing.after (.asked call (.ok reply))) := by
  refine Meets.bind (Meets.ask (fun answer => ⟨stands.goesOn, stands.isOpen, .inr due⟩) ?_)
  intro answer
  cases answer with
  | error error => exact Meets.throw (stands.asked call _)
  | ok reply => exact Meets.pure rfl

theorem meets_look (looks : terms.cancelled = cast.cancelled) (stands : standing.At true none false) :
    Meets cast terms (look terms.watched) standing (Ends true fun seen after =>
      after.At true none seen ∧ standing.Stays after ∧ after.run = standing.run ∧
        (seen = true → terms.watched = true) ∧
        (seen = false → terms.watched = true → after.pending = .looked)) := by
  unfold look
  cases watched : terms.watched with
  | false => exact Meets.pure ⟨stands, .refl _, rfl, nofun, nofun⟩
  | true =>
    refine Meets.poll (fun seen => ⟨stands.goesOn, stands.unprepared, watched⟩) looks fun seen => ?_
    have stays := standing.stays_after (.polled seen) rfl rfl
    cases seen with
    | false => exact ⟨stands.polled _, stays, rfl, nofun, fun _ _ => rfl⟩
    | true => exact ⟨stands.polled _, stays, rfl, fun _ => rfl, nofun⟩

structure Played (terms : Terms) (before : Standing) (run : EpisodeRun) (after : Standing) : Prop where
  stands : after.At true none run.interrupted
  stays : before.Stays after
  watched : run.interrupted = true → terms.watched = true
  within : run.steps ≤ terms.maxSteps
  told : run.interrupted = false → after.run = some run
  ended : run.interrupted = false → run.last.done = true ∨ run.steps = terms.maxSteps

theorem meets_turn {run : EpisodeRun} (stands : standing.At true none false)
    (told : standing.run = some run) (unfinished : run.last.done = false)
    (within : run.steps < terms.maxSteps)
    (looked : terms.watched = true → standing.pending = .looked) :
    Meets cast terms (turn run) standing (Ends true fun next after =>
      after.At true none false ∧ standing.Stays after ∧ after.run = some next ∧
        next.steps = run.steps + 1 ∧ next.interrupted = run.interrupted) := by
  refine Meets.bind (Meets.decide (fun answer => ⟨stands.goesOn, stands.isOpen, stands.unprepared,
    looked, run, told, rfl, unfinished, within⟩) ?_)
  intro answer
  cases answer with
  | error error => exact Meets.bind (Meets.throw (stands.decided _ _))
  | ok command =>
    have chosen := stands.decided run.last (.ok command)
    refine Meets.bind (Meets.pure (Meets.seq (meets_ask chosen fun _ same => ?_) ?_))
    · cases same
      rfl
    · intro observation after stepped
      subst stepped
      have stays := (standing.stays_after (.decided run.last (.ok command)) rfl rfl).trans
        (Standing.stays_after _ (.asked (.step command) (.ok observation)) rfl rfl)
      refine Meets.noted (Meets.pure ⟨chosen.asked _ _, stays, ?_, rfl, rfl⟩)
      rw [Standing.run_asked chosen.unprepared]
      exact congrArg (Option.map (·.after observation)) told

theorem meets_proceed (looks : terms.cancelled = cast.cancelled) {before : Standing} (budget : Nat)
    {run : EpisodeRun} (stands : standing.At true none false) (stays : before.Stays standing)
    (told : standing.run = some run) (unfinished : run.last.done = false)
    (uninterrupted : run.interrupted = false) (left : run.steps + budget = terms.maxSteps) :
    Meets cast terms (proceed terms.watched budget run) standing (Ends true (Played terms before)) := by
  induction budget generalizing standing run with
  | zero =>
    exact Meets.pure ⟨uninterrupted ▸ stands, stays, by simp [uninterrupted], by omega,
      fun _ => told, fun _ => .inr left⟩
  | succ budget ih =>
    rw [proceed_succ]
    refine Meets.seq (meets_look looks stands) ?_
    rintro seen after ⟨stands, looking, same, watched, looked⟩
    cases seen with
    | true => exact Meets.pure ⟨stands, stays.trans looking, watched, by simp only; omega, nofun, nofun⟩
    | false =>
      refine Meets.seq (meets_turn stands (same.trans told) unfinished (by omega) (looked rfl)) ?_
      rintro next later ⟨stands, turning, told, steps, interrupted⟩
      have stays := (stays.trans looking).trans turning
      rw [uninterrupted] at interrupted
      split
      · rename_i done
        exact Meets.pure ⟨interrupted ▸ stands, stays, by simp [interrupted], by omega,
          fun _ => told, fun _ => .inl done⟩
      · rename_i goes
        exact ih stands stays told (by simpa using goes) interrupted (by omega)

theorem meets_episode (looks : terms.cancelled = cast.cancelled) (stands : standing.At true none false) :
    Meets cast terms (episode terms.watched terms.maxSteps) standing
      (Ends true (Played terms standing)) := by
  refine Meets.bind (Meets.prepare ⟨stands.goesOn, stands.isOpen, stands.unprepared⟩ ?_)
  intro answer
  cases answer with
  | error error => exact Meets.bind (Meets.throw (stands.prepared _))
  | ok _ =>
    have ready := stands.prepared (.ok ())
    refine Meets.bind (Meets.pure (Meets.seq (meets_ask ready nofun) ?_))
    intro state after asked
    subst asked
    have stays := ((standing.stays_after .preparing rfl rfl).trans
      (Standing.stays_after _ (.prepared (.ok ())) rfl rfl)).trans
      (Standing.stays_after _ (.asked .reset (.ok state)) rfl rfl)
    refine meets_proceed looks terms.maxSteps (ready.asked _ _) stays ?_ rfl rfl (Nat.zero_add _)
    exact Standing.run_asked ready.unprepared _ _

theorem Ends.shut {holds : β → Standing → Prop} {result : Except RunError β}
    (ended : Ends false holds result standing)
    (closed : ∀ result, holds result standing → standing.isOpen = false) : standing.isOpen = false := by
  cases result with
  | error error => exact Standing.At.isOpen ended
  | ok result => exact closed result ended

/-! ## Sessions -/

theorem meets_guarded {game : String} {body : Run β} {holds : β → Standing → Prop}
    (inside : Meets cast terms body standing (Ends true holds)) :
    Meets cast terms (guarded game body) standing (Ends false holds) := by
  refine Meets.tryCatch (inside.weaken ?_)
  intro result after ended
  cases result with
  | ok result => exact ended
  | error error =>
    -- The session is closed, and a second failure is only noted.
    refine Meets.bind (Meets.bind (Meets.close (fun _ => ⟨ended.isOpen, ended.unprepared⟩) ?_))
    intro answer
    cases answer with
    | error second => exact Meets.note (Meets.throw (ended.closed _))
    | ok _ => exact Meets.pure (Meets.throw (ended.closed _))

theorem meets_requests (stands : standing.At true none false) :
    Meets cast terms (do ask .activateTracking; ask .requestIntermediateRewards) standing
      (Ends true fun _ after => after.At true none false ∧ standing.Stays after) := by
  refine Meets.seq (meets_ask stands fun _ => nofun) ?_
  intro _ after tracking
  subst tracking
  refine Meets.conclude (meets_ask (stands.asked _ _) fun _ => nofun) ?_
  intro _ later requested
  subst requested
  refine ⟨(stands.asked _ _).asked _ _, ?_⟩
  exact (standing.stays_after _ rfl rfl).trans (Standing.stays_after _ _ rfl rfl)

theorem meets_openSession {game : String} (stands : standing.At false none false)
    (due : if terms.watched then standing.pending = .looked else standing.starts = 0) :
    Meets cast terms (openSession game) standing (Ends false fun _ after =>
      after.At true none false ∧ after.game = game ∧ after.shown = standing.shown) := by
  refine Meets.bind (Meets.start (fun answer => ⟨stands.goesOn, stands.isOpen, due⟩) ?_)
  intro answer
  cases answer with
  | error error => exact Meets.bind (Meets.throw (stands.started _ _))
  | ok _ =>
    have started := stands.started game (.ok ())
    refine Meets.bind (Meets.pure (Meets.seq (meets_guarded (meets_requests started)) ?_))
    intro _ after requested
    obtain ⟨opened, stays⟩ := requested
    exact Meets.note ⟨opened, stays.game, stays.shown⟩

theorem meets_release {game : String} {cancelled : Bool}
    {post : Except RunError (Except EngineError Unit) → Standing → Prop}
    (stands : standing.At true none cancelled)
    (ends : ∀ answer, post (.ok answer) (standing.after (.closed answer))) :
    Meets cast terms (release game) standing post :=
  Meets.noted (Meets.close (fun _ => ⟨stands.isOpen, stands.unprepared⟩) ends)

theorem Meets.released {game : String} {next : Unit → Run γ} {holds : γ → Standing → Prop}
    (stands : standing.At true none false)
    (rest : Meets cast terms (next ()) (standing.after (.closed (.ok ()))) (Ends false holds)) :
    Meets cast terms (release game >>= fun answer => ofEngine answer >>= next) standing
      (Ends false holds) := by
  refine Meets.bind (meets_release stands ?_)
  intro answer
  cases answer with
  | error error => exact Meets.bind (Meets.throw (stands.closed _))
  | ok _ => exact Meets.bind (Meets.pure rest)

/-! ## Playing -/

theorem meets_episodes (looks : terms.cancelled = cast.cancelled) (unwatched : terms.watched = false)
    (count number : Nat) (played : List EpisodeOutcome) (stands : standing.At true none false) :
    Meets cast terms (episodes terms.maxSteps count number played) standing
      (Ends true fun _ after => after.At true none false) := by
  induction count generalizing standing number played with
  | zero => exact Meets.pure stands
  | succ count ih =>
    have plays := meets_episode looks stands
    rw [unwatched] at plays
    refine Meets.seq plays ?_
    intro run after played
    have uninterrupted : run.interrupted = false := by simpa [unwatched] using played.watched
    exact Meets.noted (ih _ _ (uninterrupted ▸ played.stands))

theorem meets_play (unwatched : terms.watched = false) (looks : terms.cancelled = cast.cancelled)
    (agentName game : String) (count : Nat) :
    Meets cast terms (play agentName game terms.maxSteps count) {}
      (Ends false fun _ after => after.At false none false) := by
  refine Meets.seq (meets_openSession ⟨rfl, rfl, rfl, rfl⟩ (by simp [unwatched])) ?_
  intro _ opened ready
  refine Meets.seq (meets_guarded (meets_episodes looks unwatched count 0 [] ready.1)) ?_
  intro summary after stands
  refine Meets.released stands ?_
  exact Meets.noted (Meets.pure (stands.closed _))

abbrev performed (cast : Cast σ α) (run : Run β) (engine : σ) (agent : α) :
    Except RunError β × Scene σ α :=
  run.perform cast ⟨engine, agent, []⟩

theorem lawful_play (cast : Cast σ α) (engine : σ) (agent : α) (agentName game : String)
    (maxSteps count : Nat) :
    let ran := performed cast (play agentName game maxSteps count) engine agent
    ran.2.journal.Lawful ⟨maxSteps, false, cast.cancelled⟩ ∧
      Ends false (fun _ after => after.At false none false) ran.1 ran.2.journal.standing :=
  meets_play rfl rfl agentName game count ⟨engine, agent, []⟩ trivial rfl

end TextQuest.Run
