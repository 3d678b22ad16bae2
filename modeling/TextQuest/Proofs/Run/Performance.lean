import TextQuest.Run.Train

namespace TextQuest

instance {Act : Type} {Answer : Act → Type} : LawfulMonad (Dialogue Act Answer) := by
  refine LawfulMonad.mk' _ ?_ (fun _ _ => rfl) ?_
  · intro β dialogue
    induction dialogue with
    | done result => rfl
    | act a next ih => exact congrArg (Dialogue.act a) (funext ih)
  · intro β γ δ dialogue first second
    induction dialogue with
    | done result => rfl
    | act a next ih => exact congrArg (Dialogue.act a) (funext ih)

theorem Dialogue.run_keeps {Act : Type} {Answer : Act → Type} {β ω : Type}
    {respond : (a : Act) → ω → Answer a × ω} (holds : ω → Prop)
    (steps : ∀ a world, holds world → holds (respond a world).2) (dialogue : Dialogue Act Answer β)
    {world : ω} (start : holds world) : holds (dialogue.run respond world).2 := by
  induction dialogue generalizing world with
  | done result => exact start
  | act a next ih => exact ih _ (steps a world start)

namespace Run

variable {σ α β γ : Type}

theorem perform_bind (cast : Cast σ α) (first : Run β) (next : β → Run γ) (scene : Scene σ α) :
    (first >>= next).perform cast scene =
      match first.perform cast scene with
      | (.ok result, after) => (next result).perform cast after
      | (.error error, after) => (.error error, after) := by
  refine (Dialogue.run_bind cast.perform first.run _ scene).trans ?_
  unfold perform
  obtain ⟨result | result, after⟩ := Dialogue.run cast.perform first.run scene <;> rfl

theorem perform_tryCatch (cast : Cast σ α) (body : Run β) (handler : RunError → Run β)
    (scene : Scene σ α) :
    (tryCatch body handler).perform cast scene =
      match body.perform cast scene with
      | (.ok result, after) => (.ok result, after)
      | (.error error, after) => (handler error).perform cast after := by
  refine (Dialogue.run_bind cast.perform body.run _ scene).trans ?_
  unfold perform
  obtain ⟨result | result, after⟩ := Dialogue.run cast.perform body.run scene <;> rfl

@[simp] theorem perform_act (cast : Cast σ α) (a : Act) (scene : Scene σ α) :
    (act a).perform cast scene = (.ok (cast.perform a scene).1, (cast.perform a scene).2) := rfl

theorem act_ok {cast : Cast σ α} {a : Act} {scene after : Scene σ α} {answer : a.Answer}
    (performed : (act a).perform cast scene = (.ok answer, after)) :
    cast.perform a scene = (answer, after) := by
  cases performed
  rfl

theorem ofEngine_ok {cast : Cast σ α} {scene after : Scene σ α} {answer : Except EngineError β}
    {result : β} (performed : (ofEngine answer).perform cast scene = (.ok result, after)) :
    answer = .ok result ∧ after = scene := by
  cases answer with
  | error error => cases performed
  | ok _ =>
    cases performed
    exact ⟨rfl, rfl⟩

theorem ofAgent_ok {cast : Cast σ α} {scene after : Scene σ α} {answer : Except AgentError β}
    {result : β} (performed : (ofAgent answer).perform cast scene = (.ok result, after)) :
    answer = .ok result ∧ after = scene := by
  cases answer with
  | error error => cases performed
  | ok _ =>
    cases performed
    exact ⟨rfl, rfl⟩

theorem perform_bind_ok {cast : Cast σ α} {first : Run β} {next : β → Run γ} {scene after : Scene σ α}
    {result : γ} (performed : (first >>= next).perform cast scene = (.ok result, after)) :
    ∃ middle between, first.perform cast scene = (.ok middle, between) ∧
      (next middle).perform cast between = (.ok result, after) := by
  rw [perform_bind] at performed
  split at performed
  · exact ⟨_, _, ‹_›, performed⟩
  · cases performed

def look (watched : Bool) : Run Bool := if watched then act .poll else return false

def turn (run : EpisodeRun) : Run EpisodeRun := do
  let command ← ofAgent (← act (.decide run.last))
  let run := run.after (← ask (.step command))
  note (run.stepNote command)
  return run

theorem proceed_succ (watched : Bool) (budget : Nat) (run : EpisodeRun) :
    proceed watched (budget + 1) run = (do
      if ← look watched then return { run with interrupted := true }
      let run ← turn run
      if run.last.done then return run
      proceed watched budget run) := by
  cases watched <;> simp [proceed, look, turn]

end Run
end TextQuest
