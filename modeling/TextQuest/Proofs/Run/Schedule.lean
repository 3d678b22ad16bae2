import TextQuest.Agent.Fixed
import TextQuest.Proofs.Run.Lawful
import TextQuest.Proofs.Run.Training
import TextQuest.Rehearsal

namespace TextQuest

def Entry.shown? : Entry → Option Observation
  | finishing observation => some observation
  | _ => none

namespace Standing

theorem shown_after (standing : Standing) {entry : Entry} (unshown : entry.shown? = none) :
    (standing.after entry).shown = standing.shown := by
  cases entry with
  | finishing _ => contradiction
  | started _ answer => cases answer <;> rfl
  | finished _ _ => rfl
  | _ => exact (standing.stays_after _ rfl rfl).shown

theorem game_after (standing : Standing) {entry : Entry} (starts : entry.isStart = false) :
    (standing.after entry).game = standing.game := by
  cases entry with
  | started _ _ => contradiction
  | finishing _ | finished _ _ => rfl
  | _ => exact (standing.stays_after _ rfl rfl).game

end Standing

theorem EpisodeRun.termination_ne_interrupted {run : EpisodeRun} (uninterrupted : run.interrupted = false) :
    run.termination ≠ .interrupted := by
  rw [termination, uninterrupted, if_neg Bool.false_ne_true]
  split
  · nofun
  split
  · nofun
  split <;> nofun

theorem Recorded.outcomes {maxSteps : Nat} {progress : List GameProgress}
    {shown : List (String × EpisodeRun)} (recorded : Recorded maxSteps progress shown) :
    ∀ episode ∈ progress,
      episode.outcome.termination ≠ .interrupted ∧ episode.outcome.steps ≤ maxSteps := by
  induction recorded with
  | nil => simp
  | cons tells _ ih =>
    rw [List.forall_mem_cons, tells.outcome]
    exact ⟨⟨EpisodeRun.termination_ne_interrupted tells.uninterrupted, tells.within⟩, ih⟩

namespace Journal

variable {terms : Terms} {journal : Journal}

def ends (journal : Journal) : List Observation := (journal.filterMap Entry.shown?).reverse

def episodes (journal : Journal) : List (String × EpisodeRun) := journal.standing.shown.reverse

/-- When the agent is shown the end of an episode, the session of the episode is closed. -/
def ClosedBeforeEnds (journal : Journal) : Prop :=
  ∀ later observation earlier, journal = later ++ .finishing observation :: earlier →
    ∃ game run newer answer during older,
      episodes (.finishing observation :: earlier) = episodes earlier ++ [(game, run)] ∧
        run.last = observation ∧
        earlier = newer ++ .closed answer :: (during ++ .started game (.ok ()) :: older) ∧
        ∀ entry ∈ newer ++ during, entry.isStart = false

theorem Lawful.ends_eq (lawful : journal.Lawful terms) :
    journal.ends = journal.episodes.map (·.2.last) := by
  rw [ends, episodes, List.map_reverse]
  refine congrArg List.reverse ?_
  induction journal with
  | nil => rfl
  | cons entry earlier ih =>
    have before := ih lawful.1
    cases shows : entry.shown? with
    | none => rw [List.filterMap_cons_none shows, standing, Standing.shown_after _ shows, before]
    | some observation =>
      cases entry with
      | finishing observation =>
        obtain ⟨-, -, run, told, last, -⟩ := lawful.2.1
        rw [List.filterMap_cons_some shows, standing, Standing.shown_finishing told, before,
          List.map_cons, last]
        cases shows
        rfl
      | _ => contradiction

theorem Lawful.latest_start (lawful : journal.Lawful terms) (goesOn : journal.standing.GoesOn) :
    journal.standing.isOpen = false ∧ journal.standing.run = none ∨
      ∃ during older, journal = during ++ .started journal.standing.game (.ok ()) :: older ∧
        ∀ entry ∈ during, entry.isStart = false := by
  induction journal with
  | nil => exact .inl ⟨rfl, rfl⟩
  | cons entry earlier ih =>
    cases starts : entry.isStart with
    | true =>
      cases entry with
      | started game answer =>
        cases answer with
        | ok _ => exact .inr ⟨[], earlier, rfl, by simp⟩
        | error error =>
          have failed := goesOn.unfailed
          simp [standing, Standing.after, Standing.failureOf, Standing.failure?] at failed
      | _ => contradiction
    | false =>
      rcases ih lawful.1 goesOn.before with ⟨shut, none⟩ | ⟨during, older, same, between⟩
      · have allowed := lawful.2.1
        cases entry with
        | started _ _ => contradiction
        | asked _ _ => exact absurd allowed.2.1 (by simp [shut])
        | decided _ answer => exact absurd allowed.2.1 (by simp [shut])
        | polled seen => cases seen <;> exact .inl ⟨shut, none⟩
        | closed _ => exact .inl ⟨rfl, none⟩
        | _ => exact .inl ⟨shut, none⟩
      · refine .inr ⟨entry :: during, older, ?_, List.forall_mem_cons.mpr ⟨starts, between⟩⟩
        rw [standing, Standing.game_after _ starts, List.cons_append]
        exact congrArg _ same

theorem Lawful.closedBeforeEnds (lawful : journal.Lawful terms) : journal.ClosedBeforeEnds := by
  rintro later observation earlier rfl
  obtain ⟨goesOn, shut, run, told, last, -⟩ := lawful.allowed
  have before := lawful.before.1
  rcases before.latest_start goesOn with ⟨-, none⟩ | ⟨during, older, same, between⟩
  · exact absurd (told.symm.trans none) nofun
  have found := same
  generalize game : (standing earlier).game = started at found
  subst found
  obtain ⟨newer, answer, since, rfl, -⟩ := before.closes rfl shut
  refine ⟨started, run, newer, answer, since, older, ?_, last, by simp, fun entry mem => ?_⟩
  · rw [episodes, standing, Standing.shown_finishing told, List.reverse_cons, game]
    rfl
  · rw [List.mem_append] at mem
    exact between entry (by simp only [List.mem_append, List.mem_cons]; tauto)

end Journal

theorem report_follows_schedule {σ α : Type} (cast : Cast σ α) (engine : σ) (agent : α)
    (agentName : String) (config : TrainConfig) (games : List String) {report : TrainReport}
    (returned :
      (Run.performed cast (Run.trainOn agentName config games) engine agent).1 = .ok report) :
    let journal := (Run.performed cast (Run.trainOn agentName config games) engine agent).2.journal
    let count := report.progress.length
    report.progress.map GameProgress.place = (schedule config games).take count ∧
      (report.interrupted = true ↔ count < config.epochs * games.length) ∧
      report.epochsCompleted = (if games.isEmpty then config.epochs else count / games.length) ∧
      (∀ progress ∈ report.progress, progress.outcome.termination ≠ .interrupted ∧
        progress.outcome.steps ≤ config.maxSteps) ∧
      Recorded config.maxSteps report.progress journal.episodes ∧
      journal.ends.length = count ∧ journal.ends = journal.episodes.map (·.2.last) ∧
      journal.ClosedBeforeEnds := by
  obtain ⟨lawful, ended⟩ := Run.scheduled_trainOn cast engine agent agentName config games
  rw [returned] at ended
  obtain ⟨training, rfl, count, trained, epochs⟩ := ended
  have length : training.report.progress.length = count := by
    have places := congrArg List.length trained.places
    simpa [Training.places, Training.report, trained.within] using places
  have recorded : Recorded config.maxSteps training.report.progress _ :=
    List.forall₂_reverse_iff.mpr trained.recorded
  have within := trained.interrupted
  rw [length_schedule] at within
  simp only [length]
  refine ⟨?_, within, epochs, recorded.outcomes, recorded, ?_, lawful.ends_eq,
    lawful.closedBeforeEnds⟩
  · have places := trained.places
    rwa [Training.places, ← List.map_reverse] at places
  · rw [lawful.ends_eq, List.length_map, ← length]
    exact recorded.length_eq.symm

theorem cancelled_report_follows_schedule :
    let config : TrainConfig := { maxSteps := 1, epochs := 2 }
    let cast : Cast Rehearsal (List String) :=
      ⟨Rehearsal.engine, Agent.fixed, fun journal => journal.any Entry.isFinish⟩
    let engine : Rehearsal := { steps := [.ok { state := {} }] }
    ∃ report, (Run.performed cast (Run.trainOn "fixed" config ["zork"]) engine ["look"]).1 = .ok report ∧
      report.interrupted = true ∧ report.progress.length = 1 ∧
      report.progress.map GameProgress.place = (schedule config ["zork"]).take 1 := by
  intro config cast engine
  have ends : ∃ report,
      (Run.performed cast (Run.trainOn "fixed" config ["zork"]) engine ["look"]).1 = .ok report ∧
        report.interrupted = true ∧ report.progress.length = 1 := ⟨_, rfl, rfl, rfl⟩
  obtain ⟨report, returned, interrupted, once⟩ := ends
  have follows := (report_follows_schedule cast engine ["look"] "fixed" config ["zork"] returned).1
  rw [once] at follows
  exact ⟨report, returned, interrupted, once, follows⟩
end TextQuest
