import TextQuest.Proofs.Run.Standing

namespace TextQuest

def Journal.calls (journal : Journal) : List Entry := (journal.filter Entry.isCall).reverse

namespace Journal

theorem calls_append (later earlier : Journal) :
    calls (later ++ earlier) = calls earlier ++ calls later := by
  simp [calls]

@[simp] theorem calls_call {entry : Entry} (isCall : entry.isCall = true) (journal : Journal) :
    calls (entry :: journal) = calls journal ++ [entry] := by
  simp [calls, isCall]

@[simp] theorem calls_uncalled {entry : Entry} (uncalled : entry.isCall = false) (journal : Journal) :
    calls (entry :: journal) = calls journal := by
  simp [calls, uncalled]

end Journal

variable {σ α β : Type}

namespace Scene

theorem recordNotes_keeps (holds : Journal → Prop)
    (keeps : ∀ note journal, holds journal → holds (.noted note :: journal)) (scene : Scene σ α)
    (notes : List Note) (start : holds scene.journal) : holds (scene.recordNotes notes).journal := by
  induction notes generalizing scene with
  | nil => exact start
  | cons note notes ih => exact ih _ (keeps note _ start)

@[simp] theorem calls_recordNotes (scene : Scene σ α) (notes : List Note) :
    (scene.recordNotes notes).journal.calls = scene.journal.calls :=
  recordNotes_keeps (·.calls = scene.journal.calls)
    (fun _ _ same => (Journal.calls_uncalled rfl _).trans same) scene notes rfl

@[simp] theorem engine_recordNotes (scene : Scene σ α) (notes : List Note) :
    (scene.recordNotes notes).engine = scene.engine := by
  induction notes generalizing scene with
  | nil => rfl
  | cons note notes ih => exact ih _

@[simp] theorem agent_recordNotes (scene : Scene σ α) (notes : List Note) :
    (scene.recordNotes notes).agent = scene.agent := by
  induction notes generalizing scene with
  | nil => rfl
  | cons note notes ih => exact ih _

end Scene

namespace Cast

theorem calls_ask (cast : Cast σ α) (call : Call) (scene : Scene σ α) :
    (cast.ask call scene).2.journal.calls =
      scene.journal.calls ++ [.asked call (cast.ask call scene).1] :=
  Journal.calls_call rfl _

theorem calls_decide (cast : Cast σ α) (observation : Observation) (scene : Scene σ α) :
    (cast.perform (.decide observation) scene).2.journal.calls =
      scene.journal.calls ++ [.decided observation (cast.perform (.decide observation) scene).1] := by
  refine (Journal.calls_call rfl _).trans ?_
  rw [Scene.calls_recordNotes]
  rfl

theorem calls_start (cast : Cast σ α) (game : String) (scene : Scene σ α) :
    (cast.perform (.start game) scene).2.journal.calls =
      scene.journal.calls ++ [.started game (cast.perform (.start game) scene).1] :=
  (Scene.calls_recordNotes _ _).trans (Journal.calls_call rfl _)

theorem calls_finish (cast : Cast σ α) (observation : Observation) (scene : Scene σ α) :
    (cast.perform (.finish observation) scene).2.journal.calls =
      scene.journal.calls ++
        [.finishing observation, .finished observation (cast.perform (.finish observation) scene).1] := by
  refine (Journal.calls_call rfl _).trans ?_
  rw [Scene.calls_recordNotes, Journal.calls_call rfl, List.append_assoc]
  rfl

theorem calls_prepare (cast : Cast σ α) (scene : Scene σ α) :
    scene.journal.calls ++ [.preparing] <+: (cast.perform .prepare scene).2.journal.calls := by
  have begins : scene.journal.calls ++ [.preparing] <+: (scene.record .preparing).journal.calls :=
    ⟨[], (List.append_nil _).trans (Journal.calls_call rfl _).symm⟩
  have asks (call : Call) (between : Scene σ α)
      (before : scene.journal.calls ++ [.preparing] <+: between.journal.calls) :
      scene.journal.calls ++ [.preparing] <+: (cast.ask call between).2.journal.calls := by
    rw [calls_ask]
    exact before.trans (List.prefix_append _ _)
  have prepares := Dialogue.run_keeps
    (fun after : Scene σ α => scene.journal.calls ++ [.preparing] <+: after.journal.calls) asks
    (cast.agent.prepare scene.agent) begins
  have ends (answer : Except AgentError Unit) (journal : Journal) :
      journal.calls <+: Journal.calls (.prepared answer :: journal) := by
    rw [Journal.calls_call rfl]
    exact List.prefix_append _ _
  exact prepares.trans (ends _ _)

end Cast
end TextQuest
