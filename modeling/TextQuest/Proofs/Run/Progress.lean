import TextQuest.Proofs.Run.FirstFailure
import TextQuest.Proofs.Run.Pause
import TextQuest.Proofs.Run.Schedule

/-!
Training progress, read off a journal. It grows with the journal, also in a run that fails later, and it is
what a report of the run tells.
-/
namespace TextQuest

namespace Journal

def accepted : Journal → List (String × EpisodeRun)
  | [] => []
  | .finished _ (.ok _) :: earlier =>
    accepted earlier ++ ((standing earlier).run.map ((standing earlier).game, ·)).toList
  | _ :: earlier => accepted earlier

def progress (perEpoch : Nat) (journal : Journal) : List GameProgress :=
  journal.accepted.mapIdx fun index (game, run) =>
    ⟨index / perEpoch, Path.gameName (Text.encode game), run.outcome⟩

theorem accepted_unfinished {entry : Entry} (unfinishing : entry.isFinish = false) (journal : Journal) :
    accepted (entry :: journal) = accepted journal := by
  cases entry with
  | finished _ _ => contradiction
  | _ => rfl

theorem accepted_append (later earlier : Journal) : accepted earlier <+: accepted (later ++ earlier) := by
  induction later with
  | nil => exact List.prefix_refl _
  | cons entry later ih =>
    cases entry with
    | finished _ answer =>
      cases answer with
      | ok _ => exact ih.trans (List.prefix_append _ _)
      | error error => exact ih
    | _ => exact ih

theorem progress_prefix (perEpoch : Nat) {earlier journal : Journal} (before : earlier <:+ journal) :
    earlier.progress perEpoch <+: journal.progress perEpoch := by
  obtain ⟨later, rfl⟩ := before
  obtain ⟨more, grown⟩ := accepted_append later earlier
  unfold progress
  rw [← grown, List.mapIdx_append]
  exact List.prefix_append _ _

theorem accepted_unshown {later earlier : Journal}
    (unshown : ∀ entry ∈ later.calls, entry.isFinish = false) :
    accepted (later ++ earlier) = accepted earlier := by
  have unfinishing : ∀ entry ∈ later, entry.isFinish = false := by
    intro entry mem
    cases isCall : entry.isCall with
    | true => exact unshown entry (by simp [calls, mem, isCall])
    | false => cases entry <;> first | contradiction | rfl
  clear unshown
  induction later with
  | nil => rfl
  | cons entry later ih =>
    rw [List.forall_mem_cons] at unfinishing
    exact (accepted_unfinished unfinishing.1 _).trans (ih unfinishing.2)

def Tallies (journal : Journal) : Prop :=
  (∀ observation error, Entry.finished observation (.error error) ∉ journal) →
    journal.accepted = journal.episodes

theorem Tallies.record {journal : Journal} (tallies : journal.Tallies) {entry : Entry}
    (unfinishing : entry.isFinish = false) : Tallies (entry :: journal) := by
  intro unfailed
  have before : journal.accepted = journal.episodes :=
    tallies fun observation error mem => unfailed observation error (List.mem_cons_of_mem _ mem)
  have unshown : entry.shown? = none := by
    cases entry <;> first | contradiction | rfl
  rw [accepted_unfinished unfinishing, before, episodes, episodes, standing, Standing.shown_after _ unshown]

end Journal

variable {σ α : Type}

theorem Scene.accepted_recordNotes (scene : Scene σ α) (notes : List Note) :
    (scene.recordNotes notes).journal.accepted = scene.journal.accepted :=
  Scene.recordNotes_keeps (·.accepted = scene.journal.accepted) (fun _ _ same => same) scene notes rfl

namespace Cast

variable (cast : Cast σ α)

theorem finish_tallies (observation : Observation) (scene : Scene σ α)
    (tallies : scene.journal.Tallies) : (cast.perform (.finish observation) scene).2.journal.Tallies := by
  intro unfailed
  let turn := cast.agent.finish observation scene.agent
  let begun : Scene σ α := ⟨scene.engine, turn.agent, .finishing observation :: scene.journal⟩
  have performed : (cast.perform (.finish observation) scene).2.journal =
      .finished observation turn.result :: (begun.recordNotes turn.notes).journal := rfl
  have before : scene.journal.accepted = scene.journal.episodes :=
    tallies fun shown error mem => unfailed shown error ((cast.suffix_perform _ scene).mem mem)
  rw [performed] at unfailed ⊢
  cases result : turn.result with
  | error error => exact absurd (by simp [result]) (unfailed observation error)
  | ok _ =>
    have accepted : (begun.recordNotes turn.notes).journal.accepted = scene.journal.accepted :=
      Scene.accepted_recordNotes begun turn.notes
    have stands : (begun.recordNotes turn.notes).journal.standing =
        scene.journal.standing.after (.finishing observation) :=
      Scene.standing_recordNotes begun turn.notes
    rw [Journal.episodes, Journal.standing, Journal.accepted, stands, accepted, before]
    simp only [Standing.after, Standing.moved, Journal.episodes, List.reverse_append]
    cases scene.journal.standing.run <;> rfl

theorem perform_tallies (a : Act) (scene : Scene σ α) (tallies : scene.journal.Tallies) :
    (cast.perform a scene).2.journal.Tallies := by
  by_cases finishes : ∃ observation, a = .finish observation
  · obtain ⟨observation, rfl⟩ := finishes
    exact cast.finish_tallies observation scene tallies
  · exact cast.perform_keeps a
      (fun entry journal only before => before.record (by simpa using fun finish => finishes (only finish)))
      tallies

end Cast

theorem epoch_planFrom {size : Nat} (first : Nat) {orders : List (List String)}
    (sizes : ∀ games ∈ orders, games.length = size) {index : Nat} {place : Nat × String}
    (found : (planFrom first orders)[index]? = some place) : place.1 = first + index / size := by
  have positive : 0 < size := by
    have within := (List.getElem?_eq_some_iff.mp found).1
    rw [length_planFrom first sizes] at within
    exact Nat.pos_of_mul_pos_left (Nat.zero_lt_of_lt within)
  induction orders generalizing first index with
  | nil => simp [planFrom] at found
  | cons games orders ih =>
    rw [List.forall_mem_cons] at sizes
    have length : (epochPlan first games).length = size := by simpa [epochPlan] using sizes.1
    rw [planFrom_cons] at found
    by_cases within : index < size
    · rw [List.getElem?_append_left (by omega), epochPlan, List.getElem?_map, Option.map_eq_some_iff]
        at found
      obtain ⟨_, -, rfl⟩ := found
      simp [Nat.div_eq_of_lt within]
    · obtain ⟨rest, rfl⟩ := Nat.exists_eq_add_of_le (Nat.le_of_not_lt within)
      rw [List.getElem?_append_right (by omega), length, Nat.add_sub_cancel_left] at found
      rw [ih _ sizes.2 found, Nat.add_div_left _ positive]
      omega

theorem GameProgress.Tells.eq {progress : GameProgress} {maxSteps epoch : Nat} {game : String}
    {run : EpisodeRun} (tells : progress.Tells maxSteps game run) (same : progress.epoch = epoch) :
    progress = ⟨epoch, Path.gameName (Text.encode game), run.outcome⟩ := by
  obtain ⟨rest, name, outcome⟩ := progress
  obtain ⟨rfl, rfl, -, -⟩ := tells
  cases same
  rfl

namespace Run

variable (cast : Cast σ α) (engine : σ) (agent : α)

theorem tallies_performed {β : Type} (run : Run β) : (performed cast run engine agent).2.journal.Tallies :=
  Dialogue.run_keeps (fun after : Scene σ α => after.journal.Tallies) cast.perform_tallies run.run
    fun _ => rfl

theorem progress_trainOn (agentName : String) (config : TrainConfig) (games : List String)
    {report : TrainReport}
    (returned : (performed cast (trainOn agentName config games) engine agent).1 = .ok report) :
    report.progress =
      (performed cast (trainOn agentName config games) engine agent).2.journal.progress games.length := by
  obtain ⟨lawful, ended⟩ := lawful_trainOn cast engine agent agentName config games
  -- A run with a report had no failure, so the agent took every end that it was shown.
  have accepted := tallies_performed cast engine agent (trainOn agentName config games)
    fun observation error mem => by
      obtain ⟨later, earlier, split⟩ := List.append_of_mem mem
      have stops := Ends.stopsAtFailure lawful ended later _ earlier (.agent error) split rfl
      exact absurd (returned.symm.trans stops.1) nofun
  have scheduled := (scheduled_trainOn cast engine agent agentName config games).2
  rw [returned] at scheduled
  obtain ⟨training, rfl, count, trained, -⟩ := scheduled
  have recorded : Recorded config.maxSteps training.report.progress (Journal.episodes _) :=
    List.forall₂_reverse_iff.mpr trained.recorded
  rw [← accepted] at recorded
  have places : training.report.progress.map GameProgress.place = (schedule config games).take count := by
    have places := trained.places
    rwa [Training.places, ← List.map_reverse] at places
  refine List.ext_getElem (by simp [Journal.progress, recorded.length_eq]) fun index within _ => ?_
  simp only [Journal.progress, List.getElem_mapIdx]
  refine ((List.forall₂_iff_get.mp recorded).2 index within (recorded.length_eq ▸ within)).eq ?_
  have found : (schedule config games)[index]? = some training.report.progress[index].place := by
    have taken : ((schedule config games).take count)[index]? =
        some training.report.progress[index].place := by
      rw [← places, List.getElem?_map, List.getElem?_eq_getElem within]
      rfl
    rw [List.getElem?_take] at taken
    split at taken
    · exact taken
    · cases taken
  exact (epoch_planFrom 0 (fun _ => EpochOrder.length_of_mem_orders) found).trans (Nat.zero_add _)

end Run
end TextQuest
