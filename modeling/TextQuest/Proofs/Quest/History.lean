import TextQuest.Proofs.Quest.Sound
import TextQuest.Run.Basic

namespace TextQuest

inductive Operation
  | ask (call : Call)
  | close

namespace Quest

def operate : Operation → Quest → Entry × Quest
  | .ask call, quest =>
    let (answer, quest) := session.ask call quest
    (.asked call answer, quest)
  | .close, quest =>
    let (answer, quest) := session.close quest
    (.closed answer, quest)

end Quest

/-- A new quest after operations on it, and the journal of these. The latest one stands first. -/
def Script.operated (script : Script) : List Operation → Quest × Journal
  | [] => ({ script }, [])
  | operation :: earlier =>
    let (quest, journal) := script.operated earlier
    let (entry, quest) := quest.operate operation
    (quest, entry :: journal)

def Journal.moves : Journal → Nat
  | [] => 0
  | .asked .reset (.ok _) :: _ => 0
  | .asked (.step _) (.ok _) :: earlier => moves earlier + 1
  | _ :: earlier => moves earlier

def Call.state? : (call : Call) → call.Answer → Option GameState
  | .reset, .ok state => some state
  | .step _, .ok observation => some observation.state
  | _, _ => none

namespace Quest

/-- What a quest is, by its script and by what was done with it. -/
structure Traced (quest : Quest) (script : Script) (journal : Journal) : Prop where
  sound : quest.Sound
  sameScript : quest.script = script
  moves : quest.moves = journal.moves
  tracking : quest.tracking = true ↔ .asked .activateTracking (.ok ()) ∈ journal
  intermediate : quest.intermediate = true ↔ .asked .requestIntermediateRewards (.ok ()) ∈ journal
  closed : quest.closed = true ↔ .closed (.ok ()) ∈ journal

structure Tells (quest : Quest) (state : GameState) : Prop where
  score : state.score = if quest.won then 1 else 0
  maxScore : state.maxScore = 1
  moves : state.moves = quest.moves
  won : state.won = quest.won
  lost : state.lost = quest.lost
  policy : state.policyCommands =
    if quest.tracking = true ∧ quest.won = false ∧ quest.lost = false then
      (quest.script.stages.drop quest.stage).map (·.command)
    else []
  admissible : ∀ command, command ∈ state.admissibleCommands ↔
    (quest.tracking = true ∧ quest.won = false ∧ quest.lost = false) ∧
      ∃ stage, quest.stage? = some stage ∧ command ∈ stage.commands

structure Answers (quest : Quest) : Prop where
  steps : ∀ command, (session.ask (.step command) quest).1.isOk = true ↔
    quest.closed = false ∧ 0 < quest.script.stages.length ∧ quest.won = false ∧ quest.lost = false
  advances : ∀ command, (session.ask (.step command) quest).1.isOk = true →
    ∃ stage, quest.stage? = some stage ∧
      (session.ask (.step command) quest).2.stage =
        if Text.trim command = stage.command then quest.stage + 1 else quest.stage
  unchanged : ∀ call error, (session.ask call quest).1 = .error error →
    (session.ask call quest).2 = quest ∧ error = if quest.closed then .closed else .gameOver
  tells : ∀ call state, call.state? (session.ask call quest).1 = some state →
    (session.ask call quest).2.Tells state

theorem tells_snapshot (quest : Quest) : quest.Tells quest.snapshot where
  score := rfl
  maxScore := rfl
  moves := rfl
  won := rfl
  lost := rfl
  policy := by
    simp [snapshot, done, policy]
  admissible command := by
    simp only [snapshot, admissible]
    cases found : quest.stage? <;> simp [done]

theorem answer_of_error {quest : Quest} {call : Call} {error : EngineError}
    (fails : (quest.answer call).1 = .error error) :
    quest.answer call = (.error .gameOver, quest) := by
  cases call with
  | step command => exact step_of_error fails
  | _ => cases fails

namespace Sound

variable {quest : Quest}

theorem isOk_step (sound : quest.Sound) (command : String) :
    (quest.step command).1.isOk = true ↔
      0 < quest.script.stages.length ∧ quest.won = false ∧ quest.lost = false := by
  rw [← done_eq_false]
  constructor
  · intro succeeds
    cases answer : (quest.step command).1 with
    | error error => simp [answer, Except.isOk, Except.toBool] at succeeds
    | ok observation =>
      have stepped := stepped_of_ok answer
      obtain ⟨stage, found, -⟩ := stepped.response
      exact ⟨Nat.zero_lt_of_lt (lt_of_stage? found), stepped.unfinished⟩
  · rintro ⟨nonempty, unfinished⟩
    obtain ⟨stage, found⟩ := sound.exists_stage unfinished nonempty
    obtain ⟨observation, answer, -⟩ := stepped_of_stage unfinished found command
    rw [answer]
    rfl

theorem answers (sound : quest.Sound) : quest.Answers where
  steps command := by
    cases isOpen : quest.closed with
    | true => simp [ask_of_closed isOpen, Except.isOk, Except.toBool]
    | false =>
      rw [ask_of_open isOpen]
      exact (sound.isOk_step command).trans (by simp)
  advances command succeeds := by
    cases isOpen : quest.closed with
    | true => simp [ask_of_closed isOpen, Except.isOk, Except.toBool] at succeeds
    | false =>
      rw [ask_of_open isOpen] at succeeds ⊢
      cases answer : (quest.step command).1 with
      | error error => simp [Quest.answer, answer, Except.isOk, Except.toBool] at succeeds
      | ok observation =>
        obtain ⟨stage, found, response⟩ := (stepped_of_ok answer).response
        exact ⟨stage, found, response.stage_eq⟩
  unchanged call error fails := by
    cases isOpen : quest.closed with
    | true =>
      rw [ask_of_closed isOpen] at fails ⊢
      cases fails
      exact ⟨rfl, rfl⟩
    | false =>
      rw [ask_of_open isOpen] at fails ⊢
      have refused := answer_of_error fails
      rw [refused] at fails ⊢
      cases fails
      exact ⟨rfl, rfl⟩
  tells call state told := by
    cases isOpen : quest.closed with
    | true =>
      rw [ask_of_closed isOpen] at told
      cases call <;> cases told
    | false =>
      rw [ask_of_open isOpen] at told ⊢
      cases call with
      | reset =>
        cases told
        exact tells_snapshot _
      | step command =>
        cases answer : (quest.step command).1 with
        | error error => simp [Quest.answer, answer, Call.state?] at told
        | ok observation =>
          have same : observation.state = state := by
            simpa [Quest.answer, answer, Call.state?] using told
          rw [← same, (stepped_of_ok answer).state]
          exact tells_snapshot _
      | _ => cases told

end Sound

namespace Traced

variable {quest : Quest} {script : Script} {journal : Journal}

theorem fresh (script : Script) : Traced { script } script [] where
  sound := .fresh script
  sameScript := rfl
  moves := rfl
  tracking := by simp
  intermediate := by simp
  closed := by simp

theorem refused (traced : quest.Traced script journal) (call : Call) (error : EngineError) :
    quest.Traced script (.asked call (.error error) :: journal) where
  sound := traced.sound
  sameScript := traced.sameScript
  moves := by cases call <;> exact traced.moves
  tracking := by cases call <;> simp [traced.tracking]
  intermediate := by cases call <;> simp [traced.intermediate]
  closed := by simp [traced.closed]

theorem stepped (traced : quest.Traced script journal) {command : String} {observation : Observation}
    {after : Quest} (stepped : quest.Stepped command observation after) :
    after.Traced script (.asked (.step command) (.ok observation) :: journal) where
  sound := traced.sound.stepped stepped
  sameScript := stepped.kept.script.trans traced.sameScript
  moves := by rw [stepped.moves, traced.moves, Journal.moves]
  tracking := by simp [stepped.kept.tracking, traced.tracking]
  intermediate := by simp [stepped.kept.intermediate, traced.intermediate]
  closed := by simp [stepped.kept.closed, traced.closed]

theorem answered (traced : quest.Traced script journal) (call : Call) :
    (quest.answer call).2.Traced script (.asked call (quest.answer call).1 :: journal) := by
  obtain ⟨sound, sameScript, moves, tracking, intermediate, closed⟩ := traced
  cases call with
  | activateTracking =>
    exact ⟨⟨sound.within, sound.won, sound.lost, sound.inventory⟩, sameScript, moves, by simp [Quest.answer],
      by simp [Quest.answer, intermediate], by simp [Quest.answer, closed]⟩
  | requestIntermediateRewards =>
    exact ⟨⟨sound.within, sound.won, sound.lost, sound.inventory⟩, sameScript, moves,
      by simp [Quest.answer, tracking], by simp [Quest.answer], by simp [Quest.answer, closed]⟩
  | reset =>
    exact ⟨.restarted quest, sameScript, rfl, by simp [Quest.answer, Quest.restarted, tracking],
      by simp [Quest.answer, Quest.restarted, intermediate], by simp [Quest.answer, Quest.restarted, closed]⟩
  | walkthrough =>
    exact ⟨sound, sameScript, moves, by simp [Quest.answer, tracking],
      by simp [Quest.answer, intermediate], by simp [Quest.answer, closed]⟩
  | step command =>
    have traced : quest.Traced script journal := ⟨sound, sameScript, moves, tracking, intermediate, closed⟩
    cases answer : (quest.step command).1 with
    | error error =>
      have refused := step_of_error answer
      simp only [Quest.answer, refused]
      exact traced.refused _ _
    | ok observation =>
      simp only [Quest.answer, answer]
      exact traced.stepped (stepped_of_ok answer)

theorem operated (script : Script) (operations : List Operation) :
    (script.operated operations).1.Traced script (script.operated operations).2 := by
  induction operations with
  | nil => exact .fresh script
  | cons operation earlier ih =>
    simp only [Script.operated]
    generalize script.operated earlier = before at ih ⊢
    obtain ⟨quest, journal⟩ := before
    cases operation with
    | close =>
      obtain ⟨sound, sameScript, moves, tracking, intermediate, -⟩ := ih
      exact ⟨⟨sound.within, sound.won, sound.lost, sound.inventory⟩, sameScript, moves,
        by simp [operate, session, tracking], by simp [operate, session, intermediate],
        by simp [operate, session]⟩
    | ask call =>
      cases isOpen : quest.closed with
      | true =>
        simp only [operate, ask_of_closed isOpen]
        exact ih.refused call .closed
      | false =>
        simp only [operate, ask_of_open isOpen]
        exact ih.answered call

end Traced
end Quest

theorem operated_quest_is_sound (script : Script) (operations : List Operation) :
    let quest := (script.operated operations).1
    quest.Traced script (script.operated operations).2 ∧ ¬ (quest.won = true ∧ quest.lost = true) ∧
      quest.Answers := by
  intro quest
  have traced := Quest.Traced.operated script operations
  exact ⟨traced, traced.sound.exclusive, traced.sound.answers⟩

end TextQuest
