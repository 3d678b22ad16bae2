import TextQuest.Agent.Fixed
import TextQuest.Proofs.Run.Lawful
import TextQuest.Proofs.Run.Training
import TextQuest.Rehearsal

namespace TextQuest

def Journal.Unfailed (journal : Journal) : Prop :=
  ∀ later entry earlier, journal = later ++ entry :: earlier →
    (standing earlier).failureOf entry = none

/-- A failure of a call other than a close is the result, and the only call after it closes the session
that is open then. -/
def Journal.StopsAtFailure {β : Type} (journal : Journal) (result : Except RunError β) : Prop :=
  ∀ later entry earlier error, journal = later ++ entry :: earlier →
    (standing earlier).failureOf entry = some error →
    result = .error error ∧
      if (standing (entry :: earlier)).isOpen then ∃ answer, later.filter Entry.isCall = [.closed answer]
      else later.filter Entry.isCall = []

namespace Standing

variable {terms : Terms} {standing : Standing} {entry : Entry} {error : RunError}

theorem Allows.of_failure (allowed : standing.Allows terms entry)
    (failed : standing.failureOf entry = some error) : standing.GoesOn := by
  cases entry with
  | started _ _ | asked _ _ | prepared _ | decided _ _ | finished _ _ => exact allowed.1
  | _ => contradiction

theorem failure_of_first (goesOn : standing.GoesOn) (failed : standing.failureOf entry = some error) :
    (standing.after entry).failure = some error := by
  simp [after, goesOn.unfailed, failed]

end Standing

namespace Journal

variable {terms : Terms} {later earlier journal : Journal}

theorem Lawful.unfailed_of_isOpen (lawful : journal.Lawful terms) (unfailed : journal.Unfailed)
    (isOpen : journal.standing.isOpen = true) : journal.standing.failure = none := by
  induction journal with
  | nil => rfl
  | cons entry earlier ih =>
    have unfailedBefore : Journal.Unfailed earlier := by
      intro later older rest same
      exact unfailed (entry :: later) older rest (by simp [same])
    have before := ih lawful.1 unfailedBefore
    have succeeds : (standing earlier).failureOf entry = none := unfailed [] entry earlier rfl
    rw [standing, Standing.isOpen_after] at isOpen
    cases entry with
    | closed answer => simp [Entry.opens, Entry.isClose] at isOpen
    | started game answer =>
      have goesOn := lawful.2.1.1
      simp [standing, Standing.after, goesOn.unfailed, succeeds, Standing.closingFailureOf]
    | _ => simp_all [standing, Standing.after, Standing.closingFailureOf, Entry.opens, Entry.isClose]

theorem Lawful.calls_after_failure (lawful : Lawful terms (later ++ earlier))
    (stopped : ¬ (standing earlier).GoesOn) (shut : (standing (later ++ earlier)).isOpen = false) :
    if (standing earlier).isOpen then ∃ answer, later.filter Entry.isCall = [.closed answer]
    else later.filter Entry.isCall = [] := by
  rcases lawful.calls_after_end stopped with ⟨none, same⟩ | ⟨closes, opened, -⟩
  · rw [← same, shut]
    exact none
  · rw [opened]
    exact closes

end Journal

namespace Run

variable {β : Type} {terms : Terms} {journal later earlier : Journal} {result : Except RunError β}
  {interrupted : β → Bool} {error : RunError}

theorem Ends.result_of_failure
    (ended : Ends false (fun result after => after.At false none (interrupted result)) result
      journal.standing)
    (failed : journal.standing.failure = some error) : result = .error error := by
  cases result with
  | error first => exact congrArg Except.error (Option.some.inj (ended.failure.symm.trans failed))
  | ok result => exact absurd (ended.failure.symm.trans failed) nofun

theorem Ends.result_of_cancelled
    (ended : Ends false (fun result after => after.At false none (interrupted result)) result
      journal.standing)
    (cancelled : journal.standing.cancelled = true) :
    ∃ returned, result = .ok returned ∧ interrupted returned = true := by
  cases result with
  | error first => exact absurd (ended.cancelled.symm.trans cancelled) nofun
  | ok returned => exact ⟨returned, rfl, ended.cancelled.symm.trans cancelled⟩

theorem Ends.stopsAtFailure (lawful : journal.Lawful terms)
    (ended : Ends false (fun result after => after.At false none (interrupted result)) result
      journal.standing) : journal.StopsAtFailure result := by
  rintro later entry earlier error rfl failed
  have first : (Journal.standing (entry :: earlier)).failure = some error :=
    Standing.failure_of_first (lawful.allowed.of_failure failed) failed
  have stopped := Standing.not_goesOn_of_failure first
  exact ⟨ended.result_of_failure (Journal.failure_append first later),
    lawful.calls_after_failure stopped (ended.shut fun _ stands => stands.isOpen)⟩

theorem Ends.stopsAtClose {error : EngineError} (lawful : journal.Lawful terms)
    (ended : Ends false (fun result after => after.At false none (interrupted result)) result
      journal.standing) (same : journal = later ++ .closed (.error error) :: earlier)
    (unfailed : journal.Unfailed) :
    later.filter Entry.isCall = [] ∧
      (.polled true ∉ earlier → result = .error (.engine error)) ∧
      (.polled true ∈ earlier → ∃ returned, result = .ok returned ∧ interrupted returned = true) := by
  subst same
  have unfailedBefore : (Journal.standing earlier).failure = none := by
    refine lawful.before.1.unfailed_of_isOpen ?_ lawful.allowed.1
    rintro newer entry older rfl
    exact unfailed (later ++ .closed (.error error) :: newer) entry older (by simp)
  have shut : (Journal.standing (later ++ .closed (.error error) :: earlier)).isOpen = false :=
    ended.shut fun _ stands => stands.isOpen
  cases cancelled : (Journal.standing earlier).cancelled with
  | false =>
    have failed : (Journal.standing (.closed (.error error) :: earlier)).failure = some (.engine error) := by
      simp [Journal.standing, Standing.after, Standing.failureOf, Standing.closingFailureOf,
        Standing.failure?, unfailedBefore, cancelled]
    have stopped := Standing.not_goesOn_of_failure failed
    refine ⟨lawful.calls_after_failure stopped shut, fun _ =>
      ended.result_of_failure (Journal.failure_append failed later), fun looked => ?_⟩
    exact absurd ((Journal.cancelled_standing earlier).mpr looked) (by simp [cancelled])
  | true =>
    have looked := (Journal.cancelled_standing earlier).mp cancelled
    have still : (Journal.standing (.closed (.error error) :: earlier)).cancelled = true := cancelled
    have stopped := Standing.not_goesOn_of_cancelled still
    refine ⟨lawful.calls_after_failure stopped shut, fun unlooked => absurd looked unlooked, fun _ => ?_⟩
    exact ended.result_of_cancelled ((Journal.cancelled_standing _).mpr (by simp [looked]))

end Run

theorem first_failure_ends_run {σ α : Type} (cast : Cast σ α) (engine : σ) (agent : α)
    (agentName : String) :
    (∀ game maxSteps count,
      let ran := Run.performed cast (Run.play agentName game maxSteps count) engine agent
      ran.2.journal.StopsAtFailure ran.1 ∧
        ∀ later error earlier, ran.2.journal = later ++ .closed (.error error) :: earlier →
          ran.2.journal.Unfailed →
          later.filter Entry.isCall = [] ∧ ran.1 = .error (.engine error)) ∧
    ∀ config games,
      let ran := Run.performed cast (Run.trainOn agentName config games) engine agent
      ran.2.journal.StopsAtFailure ran.1 ∧
        ∀ later error earlier, ran.2.journal = later ++ .closed (.error error) :: earlier →
          ran.2.journal.Unfailed →
          later.filter Entry.isCall = [] ∧
            (.polled true ∉ earlier → ran.1 = .error (.engine error)) ∧
            (.polled true ∈ earlier → ∃ report, ran.1 = .ok report ∧ report.interrupted = true) := by
  constructor
  · intro game maxSteps count
    obtain ⟨lawful, ended⟩ := Run.lawful_play cast engine agent agentName game maxSteps count
    refine ⟨Run.Ends.stopsAtFailure lawful ended, fun later error earlier same unfailed => ?_⟩
    obtain ⟨calls, stops, interrupts⟩ := Run.Ends.stopsAtClose lawful ended same unfailed
    refine ⟨calls, stops fun looked => ?_⟩
    obtain ⟨_, -, interrupted⟩ := interrupts looked
    exact Bool.false_ne_true interrupted
  · intro config games
    obtain ⟨lawful, ended⟩ := Run.lawful_trainOn cast engine agent agentName config games
    refine ⟨Run.Ends.stopsAtFailure lawful ended, fun later error earlier same unfailed => ?_⟩
    exact Run.Ends.stopsAtClose lawful ended same unfailed

theorem failed_step_ends_run :
    let cast : Cast Rehearsal (List String) := ⟨Rehearsal.engine, Agent.fixed, fun _ => false⟩
    let engine : Rehearsal := { steps := [.error "lost"], closeError := some "gone" }
    let ran := Run.performed cast (Run.play "fixed" "zork" 1 1) engine ["look"]
    let journal := ran.2.journal
    let failed : Entry := .asked (.step "look") (.error (.remote "lost"))
    journal = journal.take 2 ++ failed :: journal.drop 3 ∧ ran.1 = .error (.engine (.remote "lost")) ∧
      ∃ answer, (journal.take 2).filter Entry.isCall = [.closed answer] := by
  intro cast engine ran journal failed
  have found : journal.drop 2 = failed :: journal.drop 3 := rfl
  have split : journal = journal.take 2 ++ failed :: journal.drop 3 := by
    rw [← found, List.take_append_drop]
  have stops := ((first_failure_ends_run cast engine ["look"] "fixed").1 "zork" 1 1).1
  obtain ⟨returned, closes⟩ := stops _ _ _ (.engine (.remote "lost")) split rfl
  have isOpen : (Journal.standing (failed :: journal.drop 3)).isOpen = true := rfl
  rw [if_pos isOpen] at closes
  exact ⟨split, returned, closes⟩

end TextQuest
