import TextQuest.Proofs.Run.Alike

/-!
Where runs lead. Performed where it stands, a run that succeeds ends as a postcondition says, and one that
fails leaves what is to hold after failures.
-/
namespace TextQuest.Run

variable {σ α β γ : Type} {cast : Cast σ α} {scene : Scene σ α} {fails : Scene σ α → Prop}

def Leads (cast : Cast σ α) (fails : Scene σ α → Prop) (run : Run β) (scene : Scene σ α)
    (ends : β → Scene σ α → Prop) : Prop :=
  match run.perform cast scene with
  | (.ok result, after) => ends result after
  | (.error _, after) => fails after

namespace Leads

variable {run : Run β} {ends stronger : β → Scene σ α → Prop}

theorem pure {result : β} (holds : ends result scene) : Leads cast fails (pure result) scene ends := holds

theorem weaken (leads : Leads cast fails run scene stronger)
    (weaker : ∀ result after, stronger result after → ends result after) :
    Leads cast fails run scene ends := by
  unfold Leads at leads ⊢
  generalize run.perform cast scene = performed at leads ⊢
  obtain ⟨_ | result, after⟩ := performed
  · exact leads
  · exact weaker result after leads

theorem bind {next : β → Run γ} {ends : γ → Scene σ α → Prop}
    (first : Leads cast fails run scene fun result after => Leads cast fails (next result) after ends) :
    Leads cast fails (run >>= next) scene ends := by
  unfold Leads at first ⊢
  rw [perform_bind]
  generalize run.perform cast scene = performed at first ⊢
  obtain ⟨_ | result, after⟩ := performed
  · exact first
  · exact first

theorem act {a : Act} {ends : a.Answer → Scene σ α → Prop}
    (holds : ends (cast.perform a scene).1 (cast.perform a scene).2) :
    Leads cast fails (act a) scene ends := holds

theorem ofEngine {answer : Except EngineError β} (holds : ∀ result, answer = .ok result → ends result scene)
    (failed : fails scene) : Leads cast fails (ofEngine answer) scene ends := by
  cases answer with
  | error error => exact failed
  | ok result => exact holds result rfl

theorem ofAgent {answer : Except AgentError β} (holds : ∀ result, answer = .ok result → ends result scene)
    (failed : fails scene) : Leads cast fails (ofAgent answer) scene ends := by
  cases answer with
  | error error => exact failed
  | ok result => exact holds result rfl

theorem aside (aside : Aside cast run) (holds : ∀ result after, scene.Level after → ends result after)
    (failed : ∀ after, scene.Level after → fails after) : Leads cast fails run scene ends := by
  have level := aside scene
  unfold Leads
  generalize run.perform cast scene = performed at level ⊢
  obtain ⟨_ | result, after⟩ := performed
  · exact failed after level
  · exact holds result after level

theorem guarded {game : String} (leads : Leads cast fails run scene ends)
    (stable : ∀ before after, before.Level after → fails before → fails after) :
    Leads cast fails (guarded game run) scene ends := by
  unfold Leads at leads ⊢
  rw [Run.guarded, perform_tryCatch]
  generalize run.perform cast scene = performed at leads ⊢
  obtain ⟨error | result, after⟩ := performed
  · obtain ⟨later, abandons, level⟩ :
        ∃ later, (do abandon game; throw error : Run β).perform cast after = (.error error, later) ∧
          after.Level later := perform_abandoned cast game error after
    simpa only [abandons] using stable after later level leads
  · exact leads

end Leads
end TextQuest.Run
