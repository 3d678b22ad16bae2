import TextQuest.Proofs.Run.Progress

/-!
Interrupted training. Up to the look that ends it, an interrupted run is the same as one that nothing
cancels; after that at most the open session is closed, and the agent stays as it is.
-/
namespace TextQuest

variable {σ α β : Type}

structure Scene.Change (cast : Cast σ α) (before : Scene σ α) (calls : List Entry)
    (after : Scene σ α) : Prop where
  made : after.journal.calls = before.journal.calls ++ calls
  quiet : calls = [] → after.engine = before.engine ∧ after.agent = before.agent
  closing : ∀ answer, calls = [.closed answer] →
    answer = (cast.engine.close before.engine).1 ∧ after.agent = before.agent

namespace Scene.Change

variable {cast : Cast σ α} {before between after : Scene σ α} {calls more : List Entry}

theorem nothing (engine : after.engine = before.engine) (agent : after.agent = before.agent)
    (same : after.journal.calls = before.journal.calls) : Change cast before [] after :=
  ⟨same.trans (List.append_nil _).symm, fun _ => ⟨engine, agent⟩, nofun⟩

theorem works {first : Entry} (other : first.isClose = false)
    (made : after.journal.calls = before.journal.calls ++ first :: calls) :
    Change cast before (first :: calls) after := by
  refine ⟨made, nofun, ?_⟩
  rintro answer ⟨⟩
  contradiction

theorem trans (first : Change cast before calls between) (second : Change cast between more after) :
    Change cast before (calls ++ more) after := by
  refine ⟨by rw [second.made, first.made, List.append_assoc], fun none => ?_, fun answer closes => ?_⟩
  · obtain ⟨none, noMore⟩ := List.append_eq_nil_iff.mp none
    obtain ⟨engine, agent⟩ := first.quiet none
    obtain ⟨engineAfter, agentAfter⟩ := second.quiet noMore
    exact ⟨engineAfter.trans engine, agentAfter.trans agent⟩
  · rcases List.append_eq_singleton_iff.mp closes with ⟨none, closes⟩ | ⟨closes, none⟩
    · obtain ⟨engine, agent⟩ := first.quiet none
      obtain ⟨same, agentAfter⟩ := second.closing answer closes
      exact ⟨engine ▸ same, agentAfter.trans agent⟩
    · obtain ⟨same, agent⟩ := first.closing answer closes
      exact ⟨same, (second.quiet none).2.trans agent⟩

end Scene.Change

namespace Cast

variable (cast : Cast σ α)

theorem change_perform (a : Act) (scene : Scene σ α) :
    ∃ calls, Scene.Change cast scene calls (cast.perform a scene).2 := by
  cases a with
  | start game => exact ⟨_, .works rfl (cast.calls_start game scene)⟩
  | ask call => exact ⟨_, .works rfl (cast.calls_ask call scene)⟩
  | close =>
    refine ⟨[.closed (cast.engine.close scene.engine).1], Journal.calls_call rfl _, nofun, ?_⟩
    rintro answer ⟨⟩
    exact ⟨rfl, rfl⟩
  | prepare =>
    obtain ⟨rest, calls⟩ := cast.calls_prepare scene
    rw [List.append_assoc] at calls
    exact ⟨_, .works rfl calls.symm⟩
  | decide observation => exact ⟨_, .works rfl (cast.calls_decide observation scene)⟩
  | finish observation => exact ⟨_, .works rfl (cast.calls_finish observation scene)⟩
  | setTraining on => exact ⟨[.training on], .works rfl (Journal.calls_call rfl _)⟩
  | poll => exact ⟨[], .nothing rfl rfl (Journal.calls_uncalled rfl _)⟩
  | note note => exact ⟨[], .nothing rfl rfl (Journal.calls_uncalled rfl _)⟩

theorem change_run (dialogue : Dialogue Act Act.Answer β) (scene : Scene σ α) :
    ∃ calls, Scene.Change cast scene calls (dialogue.run cast.perform scene).2 := by
  refine Dialogue.run_keeps (fun after => ∃ calls, Scene.Change cast scene calls after) ?_ dialogue
    ⟨[], .nothing rfl rfl rfl⟩
  rintro a between ⟨calls, before⟩
  obtain ⟨more, performed⟩ := cast.change_perform a between
  exact ⟨calls ++ more, before.trans performed⟩

end Cast

structure Scene.Interrupted (cast : Cast σ α) (paused ended : Scene σ α) : Prop where
  calls : ended.journal.calls = paused.journal.calls ∨
    paused.journal.standing.isOpen = true ∧
      ended.journal.calls = paused.journal.calls ++ [.closed (cast.engine.close paused.engine).1]
  agent : ended.agent = paused.agent
  accepted : ended.journal.accepted = paused.journal.accepted

theorem Journal.Lawful.interrupted {cast : Cast σ α} {terms : Terms}
    {rest : Dialogue Act Act.Answer β} {paused ended : Scene σ α} (lawful : ended.journal.Lawful terms)
    (ran : (rest.run cast.perform (paused.record (.polled true))).2 = ended) :
    Scene.Interrupted cast paused ended := by
  let looked := paused.record (.polled true)
  obtain ⟨calls, change⟩ := cast.change_run rest looked
  obtain ⟨later, split⟩ := cast.suffix_run rest looked
  rw [ran] at change split
  have made : calls = Journal.calls later := by
    have both := change.made
    rw [← split, Journal.calls_append] at both
    exact (List.append_cancel_left both).symm
  have before : looked.journal.calls = paused.journal.calls := Journal.calls_uncalled rfl _
  have stopped : ¬ looked.journal.standing.GoesOn :=
    Standing.not_goesOn_of_cancelled ((Journal.cancelled_standing _).mpr (by simp [looked, Scene.record]))
  rw [← split] at lawful
  -- A run that found itself cancelled calls nothing more, or closes the session that is open.
  rcases lawful.calls_after_end stopped with ⟨none, -⟩ | ⟨⟨answer, closes⟩, isOpen, -⟩
  · have nothing : calls = [] := by
      rw [made, Journal.calls, none]
      rfl
    refine ⟨.inl ?_, (change.quiet nothing).2, ?_⟩
    · rw [change.made, nothing, before, List.append_nil]
    · rw [← split, Journal.accepted_unshown (by simp [← made, nothing])]
      rfl
  · have once : calls = [.closed answer] := by
      rw [made, Journal.calls, closes]
      rfl
    obtain ⟨rfl, agent⟩ := change.closing answer once
    refine ⟨.inr ⟨isOpen, ?_⟩, agent, ?_⟩
    · rw [change.made, once, before]
      rfl
    · rw [← split, Journal.accepted_unshown (by simp [← made, once, Entry.isFinish])]
      rfl

theorem interrupted_training_is_prefix (cast : Cast σ α) (engine : σ) (agent : α) (agentName : String)
    (config : TrainConfig) (games : List String) :
    let run := Run.trainOn agentName config games
    let ran := Run.performed cast run engine agent
    let free := Run.performed cast.undisturbed run engine agent
    ∃ count,
      let paused := run.paused cast.undisturbed count ⟨engine, agent, []⟩
      (ran = free ∨ cast.cancelled paused.journal = true) ∧
        paused.journal.calls <+: free.2.journal.calls ∧
        (ran.2.journal.calls = paused.journal.calls ∨
          paused.journal.standing.isOpen = true ∧
            ran.2.journal.calls =
              paused.journal.calls ++ [.closed (cast.engine.close paused.engine).1]) ∧
        ran.2.agent = paused.agent ∧
        (∀ report, ran.1 = .ok report →
          report.progress <+: free.2.journal.progress games.length) ∧
        ∀ report, free.1 = .ok report → report.progress = free.2.journal.progress games.length := by
  intro run ran free
  obtain ⟨count, parted⟩ := cast.parts run.run ⟨engine, agent, []⟩
  refine ⟨count, ?_⟩
  intro paused
  have further : paused.journal <:+ free.2.journal := Run.suffix_paused cast.undisturbed run count _
  have interrupted : Scene.Interrupted cast paused ran.2 := by
    rcases parted with ⟨-, whole⟩ | ⟨-, rest, same⟩
    · exact ⟨.inl (congrArg (·.journal.calls) whole), congrArg (·.agent) whole,
        congrArg (·.journal.accepted) whole⟩
    · exact (Run.lawful_trainOn cast engine agent agentName config games).1.interrupted
        (congrArg Prod.snd same).symm
  refine ⟨parted.imp And.left And.left, ?_, interrupted.calls, interrupted.agent,
    fun report returned => ?_, fun report =>
      Run.progress_trainOn cast.undisturbed engine agent agentName config games⟩
  · obtain ⟨later, grown⟩ := further
    rw [← grown, Journal.calls_append]
    exact List.prefix_append _ _
  · rw [Run.progress_trainOn cast engine agent agentName config games returned, Journal.progress,
      interrupted.accepted]
    exact Journal.progress_prefix games.length further

end TextQuest
