import TextQuest.Proofs.Run.Lawful
import TextQuest.Proofs.Run.Training

namespace TextQuest

structure Journal.ClosesSessions (journal : Journal) : Prop where
  /-- A started session is closed before another start and before the agent is shown an end, and what is
  called on a session after that is called on a later one. -/
  closed_once : ∀ later game earlier, journal = later ++ .started game (.ok ()) :: earlier →
    ∃ newer answer during, later = newer ++ .closed answer :: during ∧
      (∀ entry ∈ during, entry.isStart = false ∧ entry.isClose = false ∧ entry.isFinish = false) ∧
      ∀ newest entry between, newer = newest ++ entry :: between → entry.onSession = true →
        ∃ start ∈ between, start.opens = true
  called_open : ∀ later entry earlier, journal = later ++ entry :: earlier → entry.onSession = true →
    ∃ during game older, earlier = during ++ .started game (.ok ()) :: older ∧
      ∀ entry ∈ during, entry.isStart = false ∧ entry.isClose = false
  failed_start : ∀ later game error earlier, journal = later ++ .started game (.error error) :: earlier →
    ∀ entry ∈ later, entry.isCall = false
  balanced : journal.countP Entry.opens = journal.countP Entry.isClose

namespace Journal

variable {terms : Terms} {journal : Journal}

theorem Lawful.called_open {later earlier : Journal} {entry : Entry}
    (lawful : Lawful terms (later ++ entry :: earlier)) (onSession : entry.onSession = true) :
    ∃ during game older, earlier = during ++ .started game (.ok ()) :: older ∧
      ∀ entry ∈ during, entry.isStart = false ∧ entry.isClose = false :=
  lawful.before.1.opened (lawful.allowed.isOpen onSession)

theorem Lawful.closesSessions (lawful : journal.Lawful terms)
    (closed : journal.standing.isOpen = false) : journal.ClosesSessions where
  closed_once := by
    rintro later game earlier rfl
    obtain ⟨newer, answer, during, rfl, between⟩ := lawful.closes rfl closed
    refine ⟨newer, answer, during, rfl, between, ?_⟩
    rintro newest entry between rfl onSession
    rw [List.append_assoc, List.append_assoc, List.cons_append, List.cons_append] at lawful
    obtain ⟨since, other, older, same, unclosed⟩ := lawful.called_open onSession
    rcases List.append_eq_append_iff.mp same with ⟨rest, rfl, found⟩ | ⟨rest, rfl, found⟩
    · -- The close would stand after the start of the open session.
      cases rest with
      | nil => simp at found
      | cons first rest =>
        obtain ⟨rfl, -⟩ := List.cons.inj found
        exact absurd (unclosed (.closed answer) (by simp)).2 (by simp [Entry.isClose])
    · cases rest with
      | nil => simp at found
      | cons first rest =>
        obtain ⟨rfl, -⟩ := List.cons.inj found
        exact ⟨.started other (.ok ()), by simp, rfl⟩
  called_open := by
    rintro later entry earlier rfl
    exact lawful.called_open
  failed_start := by
    rintro later game error earlier rfl
    have failed : (standing (.started game (.error error) :: earlier)).failure =
        some (.engine error) := by
      simp [standing, Standing.after, Standing.failureOf, Standing.failure?, lawful.allowed.1.unfailed]
    have shut : (standing (.started game (.error error) :: earlier)).isOpen = false :=
      (Standing.isOpen_after _ _).trans lawful.allowed.2.1
    have stopped := Standing.not_goesOn_of_failure failed
    rcases lawful.calls_after_end stopped with ⟨none, -⟩ | ⟨-, opened, -⟩
    · simpa using none
    · simp [shut] at opened
  balanced := by
    have balanced := lawful.balanced
    simpa [closed] using balanced

theorem Lawful.starts_le_one (lawful : journal.Lawful terms) (unwatched : terms.watched = false) :
    journal.countP Entry.isStart ≤ 1 := by
  induction journal with
  | nil => exact Nat.zero_le 1
  | cons entry earlier ih =>
    rw [List.countP_cons]
    cases starts : entry.isStart with
    | false => simpa using ih lawful.1
    | true =>
      cases entry with
      | started game answer =>
        have first : (standing earlier).starts = 0 := by simpa [unwatched] using lawful.2.1.2.2
        simp [← starts_standing, first]
      | _ => contradiction

end Journal

theorem sessions_closed_once {σ α : Type} (cast : Cast σ α) (engine : σ) (agent : α)
    (agentName : String) :
    (∀ game maxSteps count,
      let journal := (Run.performed cast (Run.play agentName game maxSteps count) engine agent).2.journal
      journal.ClosesSessions ∧ journal.countP Entry.isStart ≤ 1) ∧
    ∀ config games,
      (Run.performed cast (Run.trainOn agentName config games) engine agent).2.journal.ClosesSessions := by
  constructor
  · intro game maxSteps count
    obtain ⟨lawful, ended⟩ := Run.lawful_play cast engine agent agentName game maxSteps count
    exact ⟨lawful.closesSessions (ended.shut fun _ stands => stands.isOpen), lawful.starts_le_one rfl⟩
  · intro config games
    obtain ⟨lawful, ended⟩ := Run.lawful_trainOn cast engine agent agentName config games
    exact lawful.closesSessions (ended.shut fun _ stands => stands.isOpen)

end TextQuest
