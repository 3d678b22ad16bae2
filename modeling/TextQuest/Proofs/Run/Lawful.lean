import Mathlib.Data.List.Induction
import TextQuest.Proofs.Run.Standing

namespace TextQuest

variable {terms : Terms}

namespace Standing

theorem Allows.of_isOpen {standing : Standing} {entry : Entry} (allowed : standing.Allows terms entry)
    (isOpen : standing.isOpen = true) : entry.isStart = false ∧ entry.isFinish = false := by
  cases entry <;> simp_all [Allows, Entry.isStart, Entry.isFinish]

theorem Allows.isOpen {standing : Standing} {entry : Entry} (allowed : standing.Allows terms entry)
    (onSession : entry.onSession = true) : standing.isOpen = true := by
  cases entry with
  | asked call answer => exact allowed.2.1
  | closed answer => exact allowed.1
  | _ => contradiction

theorem Allows.of_end {standing : Standing} {entry : Entry} (allowed : standing.Allows terms entry)
    (stopped : ¬ standing.GoesOn) : entry.isCall = false ∨ ∃ answer, entry = .closed answer := by
  cases entry <;> simp_all [Allows, Entry.isCall]

theorem isOpen_after (standing : Standing) (entry : Entry) :
    (standing.after entry).isOpen =
      if entry.opens then true else if entry.isClose then false else standing.isOpen := by
  cases entry with
  | started _ answer => cases answer <;> rfl
  | asked call answer =>
    obtain ⟨_, _, _, same⟩ := standing.after_asked call answer
    rw [same]
    rfl
  | decided _ answer => cases answer <;> rfl
  | polled seen => cases seen <;> rfl
  | _ => rfl

theorem starts_after (standing : Standing) (entry : Entry) :
    (standing.after entry).starts = standing.starts + if entry.isStart then 1 else 0 := by
  cases entry with
  | started _ answer => cases answer <;> rfl
  | asked call answer =>
    obtain ⟨_, _, _, same⟩ := standing.after_asked call answer
    rw [same]
    rfl
  | decided _ answer => cases answer <;> rfl
  | polled seen => cases seen <;> rfl
  | _ => rfl

theorem cancelled_after (standing : Standing) (entry : Entry) :
    (standing.after entry).cancelled = true ↔ standing.cancelled = true ∨ entry = .polled true := by
  cases entry with
  | started _ answer => cases answer <;> simp [after, moved]
  | asked call answer =>
    obtain ⟨_, _, _, same⟩ := standing.after_asked call answer
    simp [same]
  | decided _ answer => cases answer <;> simp [after, moved]
  | polled seen => cases seen <;> simp [after, moved]
  | _ => simp [after, moved]

theorem failure_after {standing : Standing} {error : RunError} (failed : standing.failure = some error)
    (entry : Entry) : (standing.after entry).failure = some error := by
  simp [after, failed]

theorem not_goesOn_of_failure {standing : Standing} {error : RunError}
    (failed : standing.failure = some error) : ¬ standing.GoesOn := by
  intro goesOn
  simp [goesOn.unfailed] at failed

theorem not_goesOn_of_cancelled {standing : Standing} (cancelled : standing.cancelled = true) :
    ¬ standing.GoesOn := by
  intro goesOn
  simp [goesOn.uncancelled] at cancelled

theorem GoesOn.before {standing : Standing} {entry : Entry} (goesOn : (standing.after entry).GoesOn) :
    standing.GoesOn := by
  constructor
  · cases failed : standing.failure with
    | none => rfl
    | some error => exact absurd goesOn (not_goesOn_of_failure (failure_after failed entry))
  · cases cancelled : standing.cancelled with
    | false => rfl
    | true =>
      have still := (cancelled_after standing entry).mpr (.inl cancelled)
      exact absurd goesOn (not_goesOn_of_cancelled still)

end Standing

namespace Journal

theorem Lawful.before {later earlier : Journal} (lawful : Lawful terms (later ++ earlier)) :
    Lawful terms earlier := by
  induction later with
  | nil => exact lawful
  | cons entry later ih => exact ih lawful.1

theorem Lawful.allowed {later earlier : Journal} {entry : Entry}
    (lawful : Lawful terms (later ++ entry :: earlier)) :
    (standing earlier).Allows terms entry :=
  lawful.before.2.1

theorem cancelled_standing (journal : Journal) :
    journal.standing.cancelled = true ↔ Entry.polled true ∈ journal := by
  induction journal with
  | nil => simp [standing]
  | cons entry earlier ih =>
    rw [standing, Standing.cancelled_after, ih, List.mem_cons, or_comm, eq_comm]

theorem starts_standing (journal : Journal) :
    journal.standing.starts = journal.countP Entry.isStart := by
  induction journal with
  | nil => rfl
  | cons entry earlier ih => rw [standing, Standing.starts_after, ih, List.countP_cons]

theorem stopped_append {earlier : Journal} (stopped : ¬ (standing earlier).GoesOn) (later : Journal) :
    ¬ (standing (later ++ earlier)).GoesOn := by
  induction later with
  | nil => exact stopped
  | cons entry later ih => exact fun goesOn => ih (Standing.GoesOn.before goesOn)

theorem failure_append {earlier : Journal} {error : RunError}
    (failed : (standing earlier).failure = some error) (later : Journal) :
    (standing (later ++ earlier)).failure = some error := by
  induction later with
  | nil => exact failed
  | cons entry later ih => exact Standing.failure_after ih entry

theorem Lawful.opened {journal : Journal} (lawful : Lawful terms journal)
    (isOpen : journal.standing.isOpen = true) :
    ∃ during game older, journal = during ++ .started game (.ok ()) :: older ∧
      ∀ entry ∈ during, entry.isStart = false ∧ entry.isClose = false := by
  induction journal with
  | nil => contradiction
  | cons entry earlier ih =>
    rw [standing, Standing.isOpen_after] at isOpen
    cases opens : entry.opens with
    | true =>
      obtain ⟨game, rfl⟩ := Entry.opens_iff.mp opens
      exact ⟨[], game, earlier, rfl, by simp⟩
    | false =>
      cases closes : entry.isClose with
      | true => simp [opens, closes] at isOpen
      | false =>
        simp only [opens, closes, Bool.false_eq_true, if_false] at isOpen
        obtain ⟨during, game, older, rfl, between⟩ := ih lawful.1 isOpen
        refine ⟨entry :: during, game, older, rfl, ?_⟩
        rw [List.forall_mem_cons]
        exact ⟨⟨(lawful.2.1.of_isOpen isOpen).1, closes⟩, between⟩

theorem Lawful.closes {later earlier : Journal} (lawful : Lawful terms (later ++ earlier))
    (opened : (standing earlier).isOpen = true) (closed : (standing (later ++ earlier)).isOpen = false) :
    ∃ newer answer during, later = newer ++ .closed answer :: during ∧
      ∀ entry ∈ during, entry.isStart = false ∧ entry.isClose = false ∧ entry.isFinish = false := by
  -- From the entry that came right after, towards the latest.
  induction later using List.reverseRecOn generalizing earlier with
  | nil => simp [opened] at closed
  | append_singleton later entry ih =>
    rw [List.append_assoc, List.singleton_append] at lawful closed
    have allowed := lawful.allowed.of_isOpen opened
    cases closes : entry.isClose with
    | true =>
      obtain ⟨answer, rfl⟩ := Entry.isClose_iff.mp closes
      exact ⟨later, answer, [], rfl, by simp⟩
    | false =>
      have stays : (standing (entry :: earlier)).isOpen = true := by
        simp [standing, Standing.isOpen_after, closes, opened]
      obtain ⟨newer, answer, during, rfl, between⟩ := ih lawful stays closed
      refine ⟨newer, answer, during ++ [entry], by simp, ?_⟩
      rw [List.forall_mem_append, List.forall_mem_singleton]
      exact ⟨between, allowed.1, closes, allowed.2⟩

theorem Lawful.balanced {journal : Journal} (lawful : Lawful terms journal) :
    journal.countP Entry.opens =
      journal.countP Entry.isClose + if journal.standing.isOpen then 1 else 0 := by
  induction journal with
  | nil => rfl
  | cons entry earlier ih =>
    have balanced := ih lawful.1
    rw [standing, Standing.isOpen_after, List.countP_cons, List.countP_cons]
    cases opens : entry.opens with
    | true =>
      obtain ⟨game, rfl⟩ := Entry.opens_iff.mp opens
      have closed : (standing earlier).isOpen = false := lawful.2.1.2.1
      simpa [closed, Entry.isClose] using balanced
    | false =>
      cases closes : entry.isClose with
      | true =>
        obtain ⟨answer, rfl⟩ := Entry.isClose_iff.mp closes
        have opened : (standing earlier).isOpen = true := lawful.2.1.1
        simpa [opened] using balanced
      | false => simpa using balanced

theorem Lawful.calls_after_end {later earlier : Journal} (lawful : Lawful terms (later ++ earlier))
    (stopped : ¬ (standing earlier).GoesOn) :
    later.filter Entry.isCall = [] ∧
        (standing (later ++ earlier)).isOpen = (standing earlier).isOpen ∨
      (∃ answer, later.filter Entry.isCall = [.closed answer]) ∧
        (standing earlier).isOpen = true ∧ (standing (later ++ earlier)).isOpen = false := by
  induction later with
  | nil => exact .inl ⟨rfl, rfl⟩
  | cons entry later ih =>
    have tail := ih lawful.1
    rcases lawful.2.1.of_end (stopped_append stopped later) with quiet | ⟨answer, rfl⟩
    · have stays : (standing (entry :: later ++ earlier)).isOpen =
          (standing (later ++ earlier)).isOpen := by
        rw [List.cons_append, standing, Standing.isOpen_after]
        cases entry <;> first | contradiction | rfl
      rw [stays, List.filter_cons_of_neg (by simp [quiet])]
      exact tail
    · have closed : (standing (.closed answer :: later ++ earlier)).isOpen = false := rfl
      have opened : (standing (later ++ earlier)).isOpen = true := lawful.2.1.1
      rcases tail with ⟨none, same⟩ | ⟨-, -, shut⟩
      · exact .inr ⟨⟨answer, by rw [List.filter_cons_of_pos rfl, none]⟩, same ▸ opened, closed⟩
      · simp [opened] at shut

end Journal
end TextQuest
