import TextQuest.Agent.Fixed
import TextQuest.Proofs.Run.Sessions
import TextQuest.Rehearsal

namespace TextQuest

variable {terms : Terms}

namespace Standing

/-- Nothing is left to be done but what was left then, and nothing was submitted since but that. -/
def WindingDown (begun standing : Standing) : Prop :=
  standing.pending = begun.pending ∧ standing.submitted = begun.submitted ∨
    standing.pending = .nothing ∧ (standing.submitted = begun.submitted ∨
      ∃ command, begun.pending = .chosen command ∧ standing.submitted = command :: begun.submitted)

variable {begun standing after : Standing} {entry : Entry}

theorem WindingDown.settled (winding : begun.WindingDown standing) (nothing : after.pending = .nothing)
    (same : after.submitted = standing.submitted) : begun.WindingDown after := by
  rcases winding with ⟨-, submitted⟩ | ⟨-, submitted⟩
  · exact .inr ⟨nothing, .inl (same.trans submitted)⟩
  · exact .inr ⟨nothing, same ▸ submitted⟩

theorem WindingDown.asked (winding : begun.WindingDown standing) {call : Call}
    (allowed : standing.preparing = true ∨
      ∀ command, call = .step command → standing.pending = .chosen command)
    (answer : call.Answer) : begun.WindingDown (standing.after (.asked call answer)) := by
  by_cases preparing : standing.preparing = true
  · apply winding.settled <;> simp [Standing.after, moved, preparing]
  have own := allowed.resolve_left preparing
  cases call with
  | step command =>
    have chosen := own command rfl
    have submits : (standing.after (.asked (.step command) answer)).submitted =
        command :: standing.submitted := by
      cases answer <;> simp [Standing.after, moved, told, preparing]
    refine .inr ⟨by simp [Standing.after, moved, preparing], .inr ⟨command, ?_⟩⟩
    rcases winding with ⟨same, submitted⟩ | ⟨nothing, -⟩
    · exact ⟨same ▸ chosen, submitted ▸ submits⟩
    · simp [nothing] at chosen
  | _ =>
    apply winding.settled
    · simp [Standing.after, moved, preparing]
    · cases answer <;> simp [Standing.after, moved, told, preparing]

theorem Allows.windingDown (allowed : standing.Allows terms entry) (watched : terms.watched = true)
    (winding : begun.WindingDown standing) (unlooked : begun.pending ≠ .looked)
    (seen : entry ≠ .polled false) :
    (entry.isStart = false ∧ entry.isDecision = false) ∧ begun.WindingDown (standing.after entry) := by
  have idle : standing.pending ≠ .looked := by
    rcases winding with ⟨same, -⟩ | ⟨nothing, -⟩
    · exact same ▸ unlooked
    · simp [nothing]
  cases entry with
  | started _ _ =>
    have looked := allowed.2.2
    rw [if_pos watched] at looked
    exact absurd looked idle
  | decided _ _ => exact absurd (allowed.2.2.2.1 watched) idle
  | asked call answer => exact ⟨⟨rfl, rfl⟩, winding.asked allowed.2.2 answer⟩
  | noted note => exact ⟨⟨rfl, rfl⟩, by rw [after_noted]; exact winding⟩
  | polled cancelled =>
    cases cancelled with
    | false => exact absurd rfl seen
    | true => exact ⟨⟨rfl, rfl⟩, winding.settled rfl rfl⟩
  | _ => exact ⟨⟨rfl, rfl⟩, winding.settled rfl rfl⟩

theorem pending_of_call (standing : Standing) {call : Entry} (isCall : call.isCall = true) :
    (standing.after call).pending = .nothing ∨ ∃ observation command,
      call = .decided observation (.ok command) ∧ (standing.after call).pending = .chosen command := by
  cases call with
  | polled _ | noted _ => contradiction
  | started _ answer => cases answer <;> exact .inl rfl
  | asked call answer =>
    obtain ⟨_, _, _, same⟩ := standing.after_asked call answer
    exact .inl (by rw [same])
  | decided observation answer =>
    cases answer with
    | ok command => exact .inr ⟨observation, command, rfl, rfl⟩
    | error error => exact .inl rfl
  | _ => exact .inl rfl

end Standing

namespace Journal

variable {later earlier : Journal} {call : Entry}

/-- What follows a call in a journal, if the run counts as cancelled from that call on. -/
structure WindsDown (maxSteps : Nat) (later : Journal) (call : Entry) (earlier : Journal) : Prop where
  begins_nothing : ∀ entry ∈ later, entry.isStart = false ∧ entry.isDecision = false
  submits : (standing (later ++ call :: earlier)).submitted = (standing (call :: earlier)).submitted ∨
    ∃ observation command, call = .decided observation (.ok command) ∧
      (standing (later ++ call :: earlier)).submitted =
        command :: (standing (call :: earlier)).submitted
  closed_once : ∀ game during older, call :: earlier = during ++ .started game (.ok ()) :: older →
    (∀ entry ∈ during, entry.isStart = false) → (later ++ during).countP Entry.isClose = 1
  shows : ∀ newer observation since, later = newer ++ .finishing observation :: since →
    .polled true ∉ since ++ call :: earlier ∧
      ∃ run, (standing (since ++ call :: earlier)).run = some run ∧ run.last = observation ∧
        (observation.done = true ∨ run.steps = maxSteps)

theorem Lawful.windingDown (watched : terms.watched = true) (isCall : call.isCall = true)
    (set : ∀ since, terms.cancelled (since ++ call :: earlier) = true)
    (lawful : Lawful terms (later ++ call :: earlier)) :
    (∀ entry ∈ later, entry.isStart = false ∧ entry.isDecision = false) ∧
      (standing (call :: earlier)).WindingDown (standing (later ++ call :: earlier)) := by
  have unlooked : (standing (call :: earlier)).pending ≠ .looked := by
    rcases (standing earlier).pending_of_call isCall with nothing | ⟨_, _, -, chosen⟩
    · simp [standing, nothing]
    · simp [standing, chosen]
  induction later with
  | nil => exact ⟨by simp, .inl ⟨rfl, rfl⟩⟩
  | cons entry since ih =>
    obtain ⟨before, winding⟩ := ih lawful.1
    have seen : entry ≠ .polled false := by
      intro same
      exact Bool.false_ne_true ((lawful.2.2 false same).trans (set since))
    obtain ⟨begins, winding⟩ := lawful.2.1.windingDown watched winding unlooked seen
    exact ⟨List.forall_mem_cons.mpr ⟨begins, before⟩, winding⟩

theorem ClosesSessions.countP_isClose {journal since older : Journal} {game : String}
    (closes : journal.ClosesSessions) (same : journal = since ++ .started game (.ok ()) :: older)
    (last : ∀ entry ∈ since, entry.isStart = false) : since.countP Entry.isClose = 1 := by
  obtain ⟨newer, answer, during, rfl, between, calls⟩ := closes.closed_once since game older same
  have before : during.countP Entry.isClose = 0 := by
    rw [List.countP_eq_zero]
    intro entry mem
    simp [(between entry mem).2.1]
  have after : newer.countP Entry.isClose = 0 := by
    rw [List.countP_eq_zero]
    intro entry mem closing
    obtain ⟨newest, rest, rfl⟩ := List.append_of_mem mem
    obtain ⟨other, rfl⟩ := Entry.isClose_iff.mp closing
    obtain ⟨start, found, opens⟩ := calls newest _ rest rfl rfl
    obtain ⟨again, rfl⟩ := Entry.opens_iff.mp opens
    exact absurd (last (.started again (.ok ())) (by simp [found])) nofun
  rw [List.countP_append, List.countP_cons, before, after]
  rfl

end Journal

theorem cancelled_run_winds_down {σ α : Type} (cast : Cast σ α) (engine : σ) (agent : α)
    (agentName : String) (config : TrainConfig) (games : List String) {later earlier : Journal}
    {call : Entry}
    (split : (Run.performed cast (Run.trainOn agentName config games) engine agent).2.journal =
      later ++ call :: earlier)
    (isCall : call.isCall = true) (set : ∀ since, cast.cancelled (since ++ call :: earlier) = true) :
    Journal.WindsDown config.maxSteps later call earlier := by
  obtain ⟨lawful, ended⟩ := Run.lawful_trainOn cast engine agent agentName config games
  have shut := ended.shut fun _ stands => stands.isOpen
  rw [split] at lawful shut
  obtain ⟨begins, winding⟩ := lawful.windingDown rfl isCall set
  refine ⟨begins, ?_, ?_, ?_⟩
  · rcases winding with ⟨-, submitted⟩ | ⟨-, submitted | ⟨command, chosen, submitted⟩⟩
    · exact .inl submitted
    · exact .inl submitted
    · rcases (Journal.standing earlier).pending_of_call isCall with
        nothing | ⟨observation, other, rfl, same⟩
      · exact absurd (chosen.symm.trans nothing) nofun
      · cases chosen.symm.trans same
        exact .inr ⟨observation, command, rfl, submitted⟩
  · intro game during older same last
    refine (lawful.closesSessions shut).countP_isClose (by rw [same, List.append_assoc]) ?_
    rw [List.forall_mem_append]
    exact ⟨fun entry mem => (begins entry mem).1, last⟩
  · rintro newer observation since rfl
    rw [List.append_assoc, List.cons_append] at lawful
    obtain ⟨goesOn, -, run, told, last, ended⟩ := lawful.allowed
    refine ⟨fun looked => ?_, run, told, last, ended⟩
    exact absurd ((Journal.cancelled_standing _).mpr looked) (by simp [goesOn.uncancelled])

theorem cancelled_decision_winds_down :
    let cast : Cast Rehearsal (List String) :=
      ⟨Rehearsal.engine, Agent.fixed, fun journal => journal.any Entry.isDecision⟩
    let config : TrainConfig := { maxSteps := 2, epochs := 1 }
    let engine : Rehearsal := { steps := [.ok { state := {} }] }
    let journal := (Run.performed cast (Run.trainOn "fixed" config ["zork"]) engine ["look"]).2.journal
    let call : Entry := .decided { state := {} } (.ok "look")
    journal = journal.take 6 ++ call :: journal.drop 7 ∧ call.isCall = true ∧
      (∀ since, cast.cancelled (since ++ call :: journal.drop 7) = true) ∧
      Journal.WindsDown config.maxSteps (journal.take 6) call (journal.drop 7) := by
  intro cast config engine journal call
  have found : journal.drop 6 = call :: journal.drop 7 := rfl
  have split : journal = journal.take 6 ++ call :: journal.drop 7 := by
    rw [← found, List.take_append_drop]
  have set (since : Journal) : cast.cancelled (since ++ call :: journal.drop 7) = true := by
    simp [cast, call, Entry.isDecision]
  exact ⟨split, rfl, set,
    cancelled_run_winds_down cast engine ["look"] "fixed" config ["zork"] split rfl set⟩

end TextQuest
