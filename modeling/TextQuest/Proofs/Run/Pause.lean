import TextQuest.Proofs.Run.Calls

namespace TextQuest

namespace Dialogue

variable {Act : Type} {Answer : Act → Type} {β ω : Type} {respond : (a : Act) → ω → Answer a × ω}

def advance (respond : (a : Act) → ω → Answer a × ω) :
    Nat → Dialogue Act Answer β → ω → Dialogue Act Answer β × ω
  | 0, dialogue, world => (dialogue, world)
  | _ + 1, done result, world => (done result, world)
  | count + 1, act a next, world =>
    (next (respond a world).1).advance respond count (respond a world).2

theorem run_advance (count : Nat) (dialogue : Dialogue Act Answer β) (world : ω) :
    (dialogue.advance respond count world).1.run respond (dialogue.advance respond count world).2 =
      dialogue.run respond world := by
  induction count generalizing dialogue world with
  | zero => rfl
  | succ count ih =>
    cases dialogue with
    | done result => rfl
    | act a next => exact ih _ _

end Dialogue

variable {σ α β : Type}

namespace Cast

theorem perform_keeps (cast : Cast σ α) (a : Act) {holds : Journal → Prop}
    (keeps : ∀ (entry : Entry) journal,
      (entry.isFinish = true → ∃ observation, a = .finish observation) →
        holds journal → holds (entry :: journal))
    {scene : Scene σ α} (start : holds scene.journal) : holds (cast.perform a scene).2.journal := by
  have other (entry : Entry) (unfinishing : entry.isFinish = false) (journal : Journal) :
      holds journal → holds (entry :: journal) := keeps entry journal (by simp [unfinishing])
  have noted (note : Note) := other (.noted note) rfl
  cases a with
  | start game => exact Scene.recordNotes_keeps holds noted _ _ (other (.started game _) rfl _ start)
  | ask call => exact other (.asked call _) rfl _ start
  | close => exact other (.closed _) rfl _ start
  | prepare =>
    have asks (call : Call) (scene : Scene σ α) :
        holds scene.journal → holds (cast.ask call scene).2.journal := other (.asked call _) rfl _
    have begun : holds (scene.record .preparing).journal := other .preparing rfl _ start
    refine other (.prepared _) rfl _ ?_
    exact Dialogue.run_keeps (fun scene : Scene σ α => holds scene.journal) asks _ begun
  | decide observation =>
    refine other (.decided observation _) rfl _ ?_
    exact Scene.recordNotes_keeps holds noted _ _ start
  | finish observation =>
    have begun : holds (.finishing observation :: scene.journal) := keeps _ _ (fun _ => ⟨_, rfl⟩) start
    refine keeps (.finished observation _) _ (fun _ => ⟨_, rfl⟩) ?_
    exact Scene.recordNotes_keeps holds noted _ _ begun
  | setTraining on => exact other (.training on) rfl _ start
  | poll => exact other (.polled _) rfl _ start
  | note note => exact noted note _ start

theorem suffix_perform (cast : Cast σ α) (a : Act) (scene : Scene σ α) :
    scene.journal <:+ (cast.perform a scene).2.journal :=
  cast.perform_keeps a (fun _ _ _ earlier => earlier.trans (List.suffix_cons _ _)) (List.suffix_refl _)

theorem suffix_run (cast : Cast σ α) (dialogue : Dialogue Act Act.Answer β) (scene : Scene σ α) :
    scene.journal <:+ (dialogue.run cast.perform scene).2.journal :=
  Dialogue.run_keeps (fun after : Scene σ α => scene.journal <:+ after.journal)
    (fun a between earlier => earlier.trans (cast.suffix_perform a between)) dialogue (List.suffix_refl _)

def undisturbed (cast : Cast σ α) : Cast σ α := { cast with cancelled := fun _ => false }

theorem perform_undisturbed (cast : Cast σ α) (a : Act) (scene : Scene σ α) :
    cast.perform a scene = cast.undisturbed.perform a scene ∨
      a = .poll ∧ cast.cancelled scene.journal = true := by
  cases a with
  | poll =>
    cases cancelled : cast.cancelled scene.journal with
    | false => exact .inl (by simp [perform, undisturbed, cancelled])
    | true => exact .inr ⟨rfl, rfl⟩
  | _ => exact .inl rfl

end Cast

namespace Run

def paused (cast : Cast σ α) (run : Run β) (count : Nat) (scene : Scene σ α) : Scene σ α :=
  (run.run.advance cast.perform count scene).2

theorem suffix_paused (cast : Cast σ α) (run : Run β) (count : Nat) (scene : Scene σ α) :
    (run.paused cast count scene).journal <:+ (run.perform cast scene).2.journal := by
  have further := cast.suffix_run (run.run.advance cast.perform count scene).1
    (run.run.advance cast.perform count scene).2
  rw [Dialogue.run_advance] at further
  exact further

end Run

/-- A run goes as if nothing cancelled it, to its end or up to a look that finds it cancelled. -/
theorem Cast.parts (cast : Cast σ α) (dialogue : Dialogue Act Act.Answer β) (scene : Scene σ α) :
    ∃ count,
      let paused := (dialogue.advance cast.undisturbed.perform count scene).2
      (dialogue.run cast.perform scene = dialogue.run cast.undisturbed.perform scene ∧
          (dialogue.run cast.perform scene).2 = paused) ∨
        cast.cancelled paused.journal = true ∧
          ∃ rest : Dialogue Act Act.Answer β,
            dialogue.run cast.perform scene = rest.run cast.perform (paused.record (.polled true)) := by
  induction dialogue generalizing scene with
  | done result => exact ⟨0, .inl ⟨rfl, rfl⟩⟩
  | act a next ih =>
    -- All acts are answered alike, up to the first look that finds the run cancelled.
    rcases cast.perform_undisturbed a scene with same | ⟨rfl, cancelled⟩
    · obtain ⟨count, parts⟩ :=
        ih (cast.undisturbed.perform a scene).1 (cast.undisturbed.perform a scene).2
      refine ⟨count + 1, ?_⟩
      rw [Dialogue.run_act, same]
      exact parts
    · refine ⟨0, .inr ⟨cancelled, next true, ?_⟩⟩
      have looks : cast.perform .poll scene = (true, scene.record (.polled true)) := by
        simp [perform, cancelled]
      rw [Dialogue.run_act, looks]
      rfl

end TextQuest
