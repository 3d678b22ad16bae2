import Mathlib.Data.List.Forall2
import TextQuest.Proofs.Quest.Roles

/-!
The two switches of a session: tracking commands and rewarding every stage. They decide what is told of a
game and never how it goes, so two sessions with the same calls differ by no more than what they were asked
to tell.
-/
namespace TextQuest

def Operation.isSwitch : Operation → Bool
  | .ask .activateTracking => true
  | .ask .requestIntermediateRewards => true
  | _ => false

structure Happening where
  quest : Quest
  earlier : Journal
  entry : Entry

def Script.happenings (script : Script) : List Operation → List Happening
  | [] => []
  | operation :: earlier =>
    if operation.isSwitch then script.happenings earlier
    else
      let (quest, journal) := script.operated earlier
      ⟨quest, journal, (quest.operate operation).1⟩ :: script.happenings earlier

def GameState.untracked (state : GameState) : GameState :=
  { state with admissibleCommands := [], policyCommands := [] }

namespace Happening

def Tracked (happening : Happening) : Prop := .asked .activateTracking (.ok ()) ∈ happening.earlier

def Rewarded (happening : Happening) : Prop :=
  .asked .requestIntermediateRewards (.ok ()) ∈ happening.earlier

def ClearsInner (happening : Happening) (command : String) : Prop :=
  ∃ stage, happening.quest.stage? = some stage ∧ Text.trim command = stage.command ∧
    happening.quest.stage + 1 < happening.quest.script.stages.length

structure Shows (one other : Happening) (state further : GameState) : Prop where
  untracked : state.untracked = further.untracked
  tracked : one.Tracked → other.Tracked →
    state.admissibleCommands = further.admissibleCommands ∧ state.policyCommands = further.policyCommands
  oneUntracked : ¬ one.Tracked → state.admissibleCommands = [] ∧ state.policyCommands = []
  otherUntracked : ¬ other.Tracked → further.admissibleCommands = [] ∧ further.policyCommands = []

def RewardsInner (happening : Happening) (reward : Reward) : Prop :=
  (happening.Rewarded → reward = .positive) ∧ (¬ happening.Rewarded → reward = .neutral)

structure Observes (one other : Happening) (command : String) (observation further : Observation) : Prop where
  shows : Shows one other observation.state further.state
  done : observation.done = further.done
  clears : one.ClearsInner command ↔ other.ClearsInner command
  rewards : ¬ one.ClearsInner command → observation.reward = further.reward
  inner : one.ClearsInner command →
    one.RewardsInner observation.reward ∧ other.RewardsInner further.reward

inductive Answers (one other : Happening) : Entry → Entry → Prop
  | refused (call : Call) (error : EngineError) :
      Answers one other (.asked call (.error error)) (.asked call (.error error))
  | reset {state further : GameState} : Shows one other state further →
      Answers one other (.asked .reset (.ok state)) (.asked .reset (.ok further))
  | step {command : String} {observation further : Observation} :
      Observes one other command observation further →
      Answers one other (.asked (.step command) (.ok observation)) (.asked (.step command) (.ok further))
  | walkthrough (commands : List String) :
      Answers one other (.asked .walkthrough (.ok commands)) (.asked .walkthrough (.ok commands))
  | closed : Answers one other (.closed (.ok ())) (.closed (.ok ()))

def Agrees (one other : Happening) : Prop := Answers one other one.entry other.entry

end Happening

namespace Quest

def switched (quest : Quest) (tracking intermediate : Bool) : Quest := { quest with tracking, intermediate }

def Level (one other : Quest) : Prop := other = one.switched other.tracking other.intermediate

variable {quest one other : Quest} {stage : Stage}

theorem Level.symm (level : one.Level other) : other.Level one := by
  unfold Level at level ⊢
  rw [level]
  rfl

theorem Level.trans {third : Quest} (first : one.Level other) (second : other.Level third) :
    one.Level third := by
  unfold Level at first second ⊢
  rw [second, first]
  rfl

theorem played_switched (quest : Quest) (tracking intermediate : Bool) (stage : Stage) (role : Option Role) :
    ((quest.switched tracking intermediate).played stage role).1 =
      (quest.played stage role).1.switched tracking intermediate := by
  rcases role with _ | _ | _ | _ <;> rfl

theorem Level.played (level : one.Level other) (stage : Stage) (role : Option Role) :
    (one.played stage role).1.Level (other.played stage role).1 := by
  rw [level, played_switched]
  rfl

theorem tracking_played (quest : Quest) (stage : Stage) (role : Option Role) :
    (quest.played stage role).1.tracking = quest.tracking := by
  rcases role with _ | _ | _ | _ <;> rfl

theorem Level.step (level : one.Level other) (command : String) :
    (one.step command).2.Level (other.step command).2 := by
  rw [level]
  generalize other.tracking = tracking, other.intermediate = intermediate
  cases unfinished : one.done with
  | true =>
    have also : (one.switched tracking intermediate).done = true := unfinished
    rw [step_of_done unfinished, step_of_done also]
    rfl
  | false =>
    have also : (one.switched tracking intermediate).done = false := unfinished
    cases found : one.stage? with
    | none =>
      have nowhere : (one.switched tracking intermediate).stage? = none := found
      rw [step_of_end found, step_of_end nowhere]
      rfl
    | some stage =>
      have there : (one.switched tracking intermediate).stage? = some stage := found
      rw [step_eq unfinished found, step_eq also there]
      simp only [response, played_switched]
      rfl

theorem Level.answer (level : one.Level other) {call : Call} (plain : Operation.isSwitch (.ask call) = false) :
    (one.answer call).2.Level (other.answer call).2 := by
  cases call with
  | activateTracking => cases plain
  | requestIntermediateRewards => cases plain
  | reset =>
    rw [level]
    rfl
  | step command => exact level.step command
  | walkthrough => exact level

theorem Level.closed (level : one.Level other) : other.closed = one.closed := by
  rw [level]
  rfl

theorem Level.done (level : one.Level other) : other.done = one.done := by
  rw [level]
  rfl

theorem Level.script (level : one.Level other) : other.script = one.script := by
  rw [level]
  rfl

theorem Level.stage_eq (level : one.Level other) : other.stage = one.stage := by
  rw [level]
  rfl

theorem Level.stage? (level : one.Level other) : other.stage? = one.stage? := by
  rw [level]
  rfl

theorem Level.restarted (level : one.Level other) : one.restarted.Level other.restarted := by
  rw [level]
  rfl

theorem Level.operate (level : one.Level other) {operation : Operation}
    (plain : operation.isSwitch = false) :
    (one.operate operation).2.Level (other.operate operation).2 := by
  cases operation with
  | close =>
    rw [level]
    rfl
  | ask call =>
    cases closed : one.closed with
    | true =>
      simp only [Quest.operate, ask_of_closed closed, ask_of_closed (level.closed.trans closed)]
      exact level
    | false =>
      simp only [Quest.operate, ask_of_open closed, ask_of_open (level.closed.trans closed)]
      exact level.answer plain

theorem level_switch (quest : Quest) {operation : Operation} (switch : operation.isSwitch = true) :
    quest.Level (quest.operate operation).2 := by
  cases operation with
  | close => cases switch
  | ask call =>
    cases closed : quest.closed with
    | true =>
      simp only [Quest.operate, ask_of_closed closed]
      rfl
    | false =>
      simp only [Quest.operate, ask_of_open closed]
      cases call <;> first | rfl | cases switch

end Quest

namespace Happening

variable {one other : Happening} {quest further : Quest} {stage : Stage} {command : String}

theorem shows_snapshot (level : quest.Level further) (tracked : quest.tracking = true ↔ one.Tracked)
    (also : further.tracking = true ↔ other.Tracked) :
    Shows one other quest.snapshot further.snapshot := by
  rw [level]
  generalize further.tracking = tracking, further.intermediate = intermediate at also
  constructor
  case untracked => rfl
  case tracked =>
    intro first second
    have first : quest.tracking = true := tracked.mpr first
    obtain rfl : tracking = true := also.mpr second
    simp only [Quest.snapshot, first]
    exact ⟨rfl, rfl⟩
  case oneUntracked =>
    intro untracked
    have off : quest.tracking = false := by simpa [← tracked] using untracked
    simp [Quest.snapshot, off]
  case otherUntracked =>
    intro untracked
    obtain rfl : tracking = false := by simpa [← also] using untracked
    exact ⟨rfl, rfl⟩

theorem clearsInner_iff (found : one.quest.stage? = some stage) :
    one.ClearsInner command ↔ stage.role? (Text.trim command) = some .key ∧
      one.quest.stage + 1 < one.quest.script.stages.length := by
  simp only [ClearsInner, found, Option.some.injEq, exists_eq_left', Stage.role?_eq_key]

structure Told (happening : Happening) : Prop where
  tracking : happening.quest.tracking = true ↔ happening.Tracked
  intermediate : happening.quest.intermediate = true ↔ happening.Rewarded

theorem Told.rewardsInner (told : one.Told)
    (inner : one.quest.stage + 1 < one.quest.script.stages.length) (stage : Stage) :
    one.RewardsInner (one.quest.played stage (some .key)).2 := by
  have notLast : one.quest.stage + 1 ≠ one.quest.script.stages.length := Nat.ne_of_lt inner
  simp only [RewardsInner, Quest.played, notLast, false_or, ← told.intermediate]
  exact ⟨fun on => if_pos on, fun off => if_neg off⟩

theorem observes_played (level : one.quest.Level other.quest) (told : one.Told) (also : other.Told)
    (found : one.quest.stage? = some stage) (there : other.quest.stage? = some stage) {role : Option Role}
    (plays : stage.role? (Text.trim command) = role) :
    let first := one.quest.played stage role
    let second := other.quest.played stage role
    Observes one other command ⟨first.1.snapshot, first.2, first.1.done⟩
      ⟨second.1.snapshot, second.2, second.1.done⟩ := by
  intro first second
  have after : first.1.Level second.1 := level.played stage role
  have clears : one.ClearsInner command ↔ other.ClearsInner command := by
    rw [clearsInner_iff found, clearsInner_iff there, level.script, level.stage_eq]
  constructor
  case shows =>
    refine shows_snapshot after ?_ ?_
    · rw [← told.tracking, Quest.tracking_played]
    · rw [← also.tracking, Quest.tracking_played]
  case done => exact after.done.symm
  case clears => exact clears
  case rewards =>
    intro outer
    rw [clearsInner_iff found, plays] at outer
    by_cases cleared : role = some .key
    · have bound : one.quest.stage < one.quest.script.stages.length := Quest.lt_of_stage? found
      have last : one.quest.stage + 1 = one.quest.script.stages.length := by
        have notInner := mt (And.intro cleared) outer
        omega
      have lastToo : other.quest.stage + 1 = other.quest.script.stages.length := by
        rw [level.script, level.stage_eq, last]
      simp only [first, second, cleared, Quest.played, last, lastToo, true_or, if_true]
    · simp only [first, second]
      rcases role with _ | _ | _ | _
      · rfl
      · exact absurd rfl cleared
      · rfl
      · rfl
  case inner =>
    intro inner
    obtain ⟨cleared, notLast⟩ := (clearsInner_iff found).mp inner
    obtain ⟨-, notLastToo⟩ := (clearsInner_iff there).mp (clears.mp inner)
    have key : role = some .key := plays.symm.trans cleared
    simp only [first, second, key]
    exact ⟨told.rewardsInner notLast stage, also.rewardsInner notLastToo stage⟩

theorem answers_step (level : one.quest.Level other.quest) (told : one.Told) (also : other.Told)
    (command : String) :
    Answers one other (.asked (.step command) (one.quest.step command).1)
      (.asked (.step command) (other.quest.step command).1) := by
  cases unfinished : one.quest.done with
  | true =>
    rw [Quest.step_of_done unfinished, Quest.step_of_done (level.done.trans unfinished)]
    exact .refused _ _
  | false =>
    cases found : one.quest.stage? with
    | none =>
      rw [Quest.step_of_end found, Quest.step_of_end (level.stage?.trans found)]
      exact .refused _ _
    | some stage =>
      have there := level.stage?.trans found
      rw [Quest.step_eq unfinished found, Quest.step_eq (level.done.trans unfinished) there]
      -- The role is kept closed: only that it is the same in both quests matters.
      generalize plays : stage.role? (Text.trim command) = role
      exact .step (observes_played level told also found there plays)

theorem answers_operate (level : one.quest.Level other.quest) (told : one.Told) (also : other.Told)
    {operation : Operation} (plain : operation.isSwitch = false) :
    Answers one other (one.quest.operate operation).1 (other.quest.operate operation).1 := by
  cases operation with
  | close => exact .closed
  | ask call =>
    cases closed : one.quest.closed with
    | true =>
      simp only [Quest.operate, Quest.ask_of_closed closed, Quest.ask_of_closed (level.closed.trans closed)]
      exact .refused _ _
    | false =>
      simp only [Quest.operate, Quest.ask_of_open closed, Quest.ask_of_open (level.closed.trans closed)]
      cases call with
      | activateTracking => cases plain
      | requestIntermediateRewards => cases plain
      | reset => exact .reset (shows_snapshot level.restarted told.tracking also.tracking)
      | step command => exact answers_step level told also command
      | walkthrough =>
        simp only [Quest.answer, level.script]
        exact .walkthrough _

end Happening

namespace Script

variable (script : Script) {one other : List Operation}

theorem operated_switches {switches : List Operation} (all : ∀ operation ∈ switches, operation.isSwitch = true)
    (earlier : List Operation) :
    (script.operated earlier).1.Level (script.operated (switches ++ earlier)).1 ∧
      script.happenings (switches ++ earlier) = script.happenings earlier := by
  induction switches with
  | nil => exact ⟨rfl, rfl⟩
  | cons operation switches ih =>
    obtain ⟨switch, all⟩ := List.forall_mem_cons.mp all
    obtain ⟨level, same⟩ := ih all
    refine ⟨level.trans (Quest.level_switch _ switch), ?_⟩
    simp only [List.cons_append, happenings, switch, if_true, same]

theorem agrees_of_level {operation : Operation} (plain : operation.isSwitch = false)
    (level : (script.operated one).1.Level (script.operated other).1) :
    Happening.Agrees
      ⟨(script.operated one).1, (script.operated one).2, ((script.operated one).1.operate operation).1⟩
      ⟨(script.operated other).1, (script.operated other).2,
        ((script.operated other).1.operate operation).1⟩ := by
  have traced := Quest.Traced.operated script one
  have also := Quest.Traced.operated script other
  exact Happening.answers_operate level ⟨traced.tracking, traced.intermediate⟩
    ⟨also.tracking, also.intermediate⟩ plain

theorem level_happenings (same : one.filter (!·.isSwitch) = other.filter (!·.isSwitch)) :
    (script.operated one).1.Level (script.operated other).1 ∧
      List.Forall₂ Happening.Agrees (script.happenings one) (script.happenings other) := by
  induction one generalizing other with
  | nil =>
    have all : ∀ operation ∈ other, operation.isSwitch = true := by
      simpa using List.filter_eq_nil_iff.mp same.symm
    obtain ⟨level, none⟩ := script.operated_switches all []
    rw [List.append_nil] at level none
    rw [none]
    exact ⟨level, .nil⟩
  | cons operation earlier ih =>
    by_cases switch : operation.isSwitch = true
    · obtain ⟨level, agree⟩ := ih (by simpa [switch] using same)
      simp only [happenings, switch, if_true]
      exact ⟨(Quest.level_switch _ switch).symm.trans level, agree⟩
    · have plain : operation.isSwitch = false := by simpa using switch
      rw [List.filter_cons_of_pos (by simp [plain])] at same
      obtain ⟨switches, rest, rfl, all, -, further⟩ := List.filter_eq_cons_iff.mp same.symm
      obtain ⟨level, agree⟩ := ih further.symm
      obtain ⟨onward, skipped⟩ := script.operated_switches (by simpa using all) (operation :: rest)
      rw [skipped]
      simp only [happenings, plain, Bool.false_eq_true, if_false]
      exact ⟨(level.operate plain).trans onward, .cons (script.agrees_of_level plain level) agree⟩

end Script

theorem switches_only_tell_more (script : Script) {one other : List Operation}
    (same : one.filter (!·.isSwitch) = other.filter (!·.isSwitch)) :
    List.Forall₂ Happening.Agrees (script.happenings one) (script.happenings other) :=
  (script.level_happenings same).2

theorem late_switches_only_tell_more :
    let script : Script :=
      { objective := "Leave.",
        stages := [{ description := "A hall.", command := "take key", distractors := ["wait"] },
          { description := "A door.", command := "unlock door", hazards := ["kick door"] }] }
    let one : List Operation :=
      [.ask .activateTracking, .close, .ask (.step "unlock door"), .ask .requestIntermediateRewards,
        .ask (.step "take key"), .ask .activateTracking, .ask .reset]
    let other : List Operation :=
      [.close, .ask (.step "unlock door"), .ask (.step "take key"), .ask .reset,
        .ask .requestIntermediateRewards]
    one.filter (!·.isSwitch) = other.filter (!·.isSwitch) ∧
      List.Forall₂ Happening.Agrees (script.happenings one) (script.happenings other) := by
  intro script one other
  exact ⟨rfl, switches_only_tell_more script rfl⟩

end TextQuest
