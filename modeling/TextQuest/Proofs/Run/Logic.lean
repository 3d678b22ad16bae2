import TextQuest.Proofs.Run.Standing

/-!
Reasoning about runs by where they stand. A run meets a postcondition if it keeps its journal lawful and
ends as the postcondition says, whatever its engine and its agent answer.
-/
namespace TextQuest

variable {σ α β γ : Type} {cast : Cast σ α} {terms : Terms}

@[simp] theorem Standing.after_noted (standing : Standing) (note : Note) :
    standing.after (.noted note) = standing := by
  simp [after, moved, failureOf, closingFailureOf]

namespace Scene

@[simp] theorem standing_recordNotes (scene : Scene σ α) (notes : List Note) :
    (scene.recordNotes notes).journal.standing = scene.journal.standing := by
  induction notes generalizing scene with
  | nil => rfl
  | cons note notes ih => exact (ih _).trans (Standing.after_noted _ note)

@[simp] theorem lawful_recordNotes (scene : Scene σ α) (notes : List Note) :
    Journal.Lawful terms (scene.recordNotes notes).journal ↔
      Journal.Lawful terms scene.journal := by
  induction notes generalizing scene with
  | nil => rfl
  | cons note notes ih => exact (ih _).trans (by simp [record, Journal.Lawful, Standing.Allows])

end Scene

namespace Run

/-- Starting lawfully where the run stands, it goes on lawfully and ends as the postcondition says. -/
def Meets (cast : Cast σ α) (terms : Terms) (run : Run β) (standing : Standing)
    (post : Except RunError β → Standing → Prop) : Prop :=
  ∀ scene : Scene σ α, scene.journal.Lawful terms → scene.journal.standing = standing →
    (run.perform cast scene).2.journal.Lawful terms ∧
      post (run.perform cast scene).1 (run.perform cast scene).2.journal.standing

namespace Meets

variable {run : Run β} {standing : Standing} {post stronger : Except RunError β → Standing → Prop}

theorem pure {result : β} (ends : post (.ok result) standing) :
    Meets cast terms (pure result) standing post := by
  intro scene lawful stands
  subst stands
  exact ⟨lawful, ends⟩

theorem throw {error : RunError} (ends : post (.error error) standing) :
    Meets cast terms (throw error) standing post := by
  intro scene lawful stands
  subst stands
  exact ⟨lawful, ends⟩

theorem weaken (meets : Meets cast terms run standing stronger)
    (weaker : ∀ result standing, stronger result standing → post result standing) :
    Meets cast terms run standing post := by
  intro scene lawful stands
  obtain ⟨lawful, ends⟩ := meets scene lawful stands
  exact ⟨lawful, weaker _ _ ends⟩

theorem bind {next : β → Run γ} {post : Except RunError γ → Standing → Prop}
    (first : Meets cast terms run standing fun
      | .ok result, after => Meets cast terms (next result) after post
      | .error error, after => post (.error error) after) :
    Meets cast terms (run >>= next) standing post := by
  intro scene lawful stands
  have ended := first scene lawful stands
  rw [perform_bind]
  generalize run.perform cast scene = performed at ended ⊢
  obtain ⟨result | result, after⟩ := performed
  · exact ended
  · exact ended.2 after ended.1 rfl

theorem tryCatch {handler : RunError → Run β}
    (body : Meets cast terms run standing fun
      | .ok result, after => post (.ok result) after
      | .error error, after => Meets cast terms (handler error) after post) :
    Meets cast terms (tryCatch run handler) standing post := by
  intro scene lawful stands
  have ended := body scene lawful stands
  rw [perform_tryCatch]
  generalize run.perform cast scene = performed at ended ⊢
  obtain ⟨result | result, after⟩ := performed
  · exact ended.2 after ended.1 rfl
  · exact ended

theorem note {line : Note} {post : Except RunError Unit → Standing → Prop}
    (ends : post (.ok ()) standing) : Meets cast terms (note line) standing post := by
  intro scene lawful stands
  subst stands
  refine ⟨⟨lawful, trivial, nofun⟩, ?_⟩
  change post _ (scene.journal.standing.after (.noted line))
  rw [Standing.after_noted]
  exact ends

theorem poll {post : Except RunError Bool → Standing → Prop}
    (allowed : ∀ seen, standing.Allows terms (.polled seen))
    (looks : terms.cancelled = cast.cancelled)
    (ends : ∀ seen, post (.ok seen) (standing.after (.polled seen))) :
    Meets cast terms (act .poll) standing post := by
  intro scene lawful stands
  subst stands
  refine ⟨⟨lawful, allowed _, ?_⟩, ends _⟩
  intro seen same
  cases same
  rw [looks]

theorem setTraining {on : Bool} {post : Except RunError Unit → Standing → Prop}
    (allowed : standing.Allows terms (.training on))
    (ends : post (.ok ()) (standing.after (.training on))) :
    Meets cast terms (act (.setTraining on)) standing post := by
  intro scene lawful stands
  subst stands
  exact ⟨⟨lawful, allowed, nofun⟩, ends⟩

theorem start {game : String} {post : Except RunError (Act.start game).Answer → Standing → Prop}
    (allowed : ∀ answer, standing.Allows terms (.started game answer))
    (ends : ∀ answer, post (.ok answer) (standing.after (.started game answer))) :
    Meets cast terms (act (.start game)) standing post := by
  intro scene lawful stands
  subst stands
  refine ⟨(Scene.lawful_recordNotes _ _).mpr ⟨lawful, allowed _, nofun⟩, ?_⟩
  change post _ (Scene.recordNotes _ _).journal.standing
  rw [Scene.standing_recordNotes]
  exact ends _

theorem ask {call : Call} {post : Except RunError call.Answer → Standing → Prop}
    (allowed : ∀ answer, standing.Allows terms (.asked call answer))
    (ends : ∀ answer, post (.ok answer) (standing.after (.asked call answer))) :
    Meets cast terms (act (.ask call)) standing post := by
  intro scene lawful stands
  subst stands
  exact ⟨⟨lawful, allowed _, nofun⟩, ends _⟩

theorem close {post : Except RunError Act.close.Answer → Standing → Prop}
    (allowed : ∀ answer, standing.Allows terms (.closed answer))
    (ends : ∀ answer, post (.ok answer) (standing.after (.closed answer))) :
    Meets cast terms (act .close) standing post := by
  intro scene lawful stands
  subst stands
  exact ⟨⟨lawful, allowed _, nofun⟩, ends _⟩

theorem decide {observation : Observation}
    {post : Except RunError (Act.decide observation).Answer → Standing → Prop}
    (allowed : ∀ answer, standing.Allows terms (.decided observation answer))
    (ends : ∀ answer, post (.ok answer) (standing.after (.decided observation answer))) :
    Meets cast terms (act (.decide observation)) standing post := by
  intro scene lawful stands
  subst stands
  let turn := cast.agent.decide observation scene.agent
  let agreed := Scene.recordNotes { scene with agent := turn.agent } turn.notes
  have stands : agreed.journal.standing = scene.journal.standing := Scene.standing_recordNotes _ _
  have lawfully : agreed.journal.Lawful terms := (Scene.lawful_recordNotes _ _).mpr lawful
  have ended := ends turn.result
  rw [← stands] at ended
  exact ⟨⟨lawfully, stands ▸ allowed turn.result, nofun⟩, ended⟩

theorem finish {observation : Observation}
    {post : Except RunError (Act.finish observation).Answer → Standing → Prop}
    (begins : standing.Allows terms (.finishing observation))
    (allowed : ∀ answer,
      (standing.after (.finishing observation)).Allows terms (.finished observation answer))
    (ends : ∀ answer, post (.ok answer)
      ((standing.after (.finishing observation)).after (.finished observation answer))) :
    Meets cast terms (act (.finish observation)) standing post := by
  intro scene lawful stands
  subst stands
  let turn := cast.agent.finish observation scene.agent
  let begun : Scene σ α := ⟨scene.engine, turn.agent, .finishing observation :: scene.journal⟩
  let agreed := begun.recordNotes turn.notes
  have stands : agreed.journal.standing = scene.journal.standing.after (.finishing observation) :=
    Scene.standing_recordNotes begun turn.notes
  have lawfully : agreed.journal.Lawful terms :=
    (Scene.lawful_recordNotes begun turn.notes).mpr ⟨lawful, begins, nofun⟩
  have ended := ends turn.result
  rw [← stands] at ended
  exact ⟨⟨lawfully, stands ▸ allowed turn.result, nofun⟩, ended⟩

theorem aside (cast : Cast σ α) {standing : Standing}
    (allowed : ∀ call answer, standing.Allows terms (.asked call answer))
    (stays : ∀ call answer, standing.after (.asked call answer) = standing)
    (dialogue : SessionDialogue β) (scene : Scene σ α) (lawful : scene.journal.Lawful terms)
    (stands : scene.journal.standing = standing) :
    (dialogue.run cast.ask scene).2.journal.Lawful terms ∧
      (dialogue.run cast.ask scene).2.journal.standing = standing := by
  induction dialogue generalizing scene with
  | done result => exact ⟨lawful, stands⟩
  | act call next ih =>
    apply ih
    · exact ⟨lawful, stands ▸ allowed call _, nofun⟩
    · change scene.journal.standing.after _ = standing
      rw [stands, stays]

theorem prepare {post : Except RunError Act.prepare.Answer → Standing → Prop}
    (allowed : standing.Allows terms .preparing)
    (ends : ∀ answer, post (.ok answer) ((standing.after .preparing).after (.prepared answer))) :
    Meets cast terms (act .prepare) standing post := by
  intro scene lawful stands
  subst stands
  let busy := scene.journal.standing.after .preparing
  have isOpen : scene.journal.standing.isOpen = true := allowed.2.1
  have prepares : busy.preparing = true := rfl
  have goesOn : busy.GoesOn := by
    obtain ⟨unfailed, uncancelled⟩ := allowed.1
    refine ⟨?_, uncancelled⟩
    simp [busy, Standing.after, Standing.failureOf, Standing.closingFailureOf, unfailed]
  have stays (call : Call) (answer : call.Answer) : busy.after (.asked call answer) = busy := by
    simp [busy, Standing.after, Standing.moved, Standing.failureOf, Standing.closingFailureOf]
  have allows (call : Call) (answer : call.Answer) : busy.Allows terms (.asked call answer) :=
    ⟨goesOn, isOpen, .inl prepares⟩
  have aside := aside cast allows stays (cast.agent.prepare scene.agent)
    (scene.record .preparing) ⟨lawful, allowed, by simp⟩ rfl
  let ended := (cast.agent.prepare scene.agent).run cast.ask (scene.record .preparing)
  have closes : post (.ok ended.1.1) (busy.after (.prepared ended.1.1)) := ends ended.1.1
  rw [← aside.2] at closes
  exact ⟨⟨aside.1, aside.2 ▸ ⟨goesOn, isOpen, prepares⟩, by simp⟩, closes⟩

end Meets
end Run
end TextQuest
