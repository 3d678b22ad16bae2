import TextQuest.Agent.Walkthrough
import TextQuest.Proofs.Quest.History
import TextQuest.Proofs.Quest.Winning
import TextQuest.Proofs.Run.Success

/-!
Episodes of the agent that plays the winning commands. It wins a quest if and only if it may submit a
command for every stage and each of them is trimmed, wherever it has the commands from.
-/
namespace TextQuest

def Engine.withoutWalkthrough {σ : Type} (engine : Engine σ) (complaint : String) : Engine σ :=
  { engine with
    ask := fun call state =>
      match call with
      | .walkthrough => (.error (.unsupported complaint), state)
      | call => engine.ask call state }

structure Engine.PlaysQuests (engine : Engine (Option Quest)) : Prop where
  resets : ∀ quest, engine.ask .reset (some quest) =
    ((Quest.session.ask .reset quest).1, some (Quest.session.ask .reset quest).2)
  steps : ∀ command quest, engine.ask (.step command) (some quest) =
    ((Quest.session.ask (.step command) quest).1, some (Quest.session.ask (.step command) quest).2)
  walkthrough : ∀ quest, quest.closed = false →
    engine.ask .walkthrough (some quest) = (.ok quest.script.walkthrough, some quest) ∨
      ∃ complaint, engine.ask .walkthrough (some quest) = (.error (.unsupported complaint), some quest)

theorem Quest.engine_playsQuests (find : String → Except EngineError Script) :
    (Quest.engine find).PlaysQuests where
  resets _ := rfl
  steps _ _ := rfl
  walkthrough quest isOpen := by
    refine .inl ?_
    simp [Quest.engine, Quest.ask_of_open isOpen, Quest.answer]

theorem Quest.withoutWalkthrough_playsQuests (find : String → Except EngineError Script)
    (complaint : String) : ((Quest.engine find).withoutWalkthrough complaint).PlaysQuests where
  resets _ := rfl
  steps _ _ := rfl
  walkthrough _ _ := .inr ⟨complaint, rfl⟩

namespace Agent.Walkthrough

variable {agent after : Walkthrough} {budget : Nat} {left : List Stage} {stage : Stage} {rest : List Stage}
  {state : GameState} {command : String}

def Follows (agent : Walkthrough) (left : List Stage) : Prop :=
  agent.commands = none ∨ agent.commands = some (left.map (·.command))

theorem next_of_follows (follows : agent.Follows (stage :: rest))
    (policy : state.policyCommands = (stage :: rest).map (·.command)) :
    ∃ after, agent.next state = some (stage.command, after) ∧ after.Follows rest := by
  rcases follows with states | given
  · exact ⟨⟨none, agent.issued + 1⟩, by simp [next, states, policy], .inl rfl⟩
  · exact ⟨⟨some (rest.map (·.command)), agent.issued + 1⟩, by simp [next, given], .inr rfl⟩

theorem next_eq_some (chosen : agent.next state = some (command, after)) :
    (∃ given, agent.commands = some (command :: given) ∧ after.commands = some given) ∨
      agent.commands = none ∧ state.policyCommands.head? = some command ∧ after.commands = none := by
  unfold next at chosen
  split at chosen
  · cases chosen
  · rename_i given
    cases chosen
    exact .inl ⟨_, given, rfl⟩
  · rename_i states
    obtain ⟨_, first, same⟩ := Option.map_eq_some_iff.mp chosen
    cases same
    exact .inr ⟨states, first, rfl⟩

/-- The agent will not clear all these stages: it may not submit enough commands, or has not got enough of
them, or comes to a stage that its command does not clear. -/
inductive Fails (agent : Walkthrough) (budget : Nat) (left : List Stage) : Prop
  | budget : budget < left.length → Fails agent budget left
  | commands {given : List String} : agent.commands = some given → given.length < left.length →
      Fails agent budget left
  | stage {stage : Stage} : stage ∈ left → ¬ stage.Trimmed → agent.Follows left → Fails agent budget left

theorem Fails.further (fails : agent.Fails (budget + 1) (stage :: rest))
    (policy : state.policyCommands = (stage :: rest).map (·.command))
    (chosen : agent.next state = some (command, after))
    (remains : left = if Text.trim command = stage.command then rest else stage :: rest) :
    left ≠ [] ∧ after.Fails budget left := by
  have length : rest.length ≤ left.length := by
    rw [remains]
    split <;> simp
  cases fails with
  | budget fewer =>
    have fewer : budget < left.length := by
      rw [List.length_cons] at fewer
      omega
    exact ⟨List.ne_nil_of_length_pos (by omega), .budget fewer⟩
  | commands given fewer =>
    rcases next_eq_some chosen with ⟨later, same, afterwards⟩ | ⟨states, -⟩
    · cases given.symm.trans same
      have fewer : later.length < left.length := by
        simp only [List.length_cons] at fewer
        omega
      exact ⟨List.ne_nil_of_length_pos (by omega), .commands afterwards fewer⟩
    · cases given.symm.trans states
  | @stage blocking mem untrimmed follows =>
    obtain ⟨_, same, followsAfter⟩ := next_of_follows follows policy
    cases chosen.symm.trans same
    by_cases trimmed : stage.Trimmed
    · rw [if_pos (by exact trimmed)] at remains
      have mem : blocking ∈ rest := by
        rcases List.mem_cons.mp mem with rfl | mem
        · exact absurd trimmed untrimmed
        · exact mem
      subst remains
      exact ⟨List.ne_nil_of_mem mem, .stage mem untrimmed followsAfter⟩
    · rw [if_neg (by exact trimmed)] at remains
      subst remains
      refine ⟨List.cons_ne_nil _ _, ?_⟩
      rcases followsAfter with states | given
      · exact .stage List.mem_cons_self trimmed (.inl states)
      · exact .commands given (by simp)

end Agent.Walkthrough

theorem EpisodeRun.termination_eq_won {run : EpisodeRun} :
    run.termination = .won ↔ run.interrupted = false ∧ run.last.state.won = true := by
  unfold EpisodeRun.termination
  cases run.interrupted with
  | true => simp
  | false =>
    cases run.last.state.won with
    | true => simp
    | false => cases run.last.state.lost <;> cases run.last.done <;> simp

namespace Quest

def wonOutcome (quest : Quest) : EpisodeOutcome where
  steps := quest.script.stages.length
  moves := quest.script.stages.length
  score := 1
  maxScore := 1
  done := true
  totalReward := if quest.intermediate then quest.script.stages.length else 1
  termination := .won

structure Led (quest start : Quest) (run : EpisodeRun) : Prop where
  kept : start.Kept quest
  sound : quest.Sound
  uninterrupted : run.interrupted = false
  state : run.last.state = quest.snapshot
  done : run.last.done = quest.done

structure Flawless (quest start : Quest) (run : EpisodeRun) : Prop extends quest.Led start run where
  steps : run.steps = quest.stage
  moves : quest.moves = quest.stage
  unlost : quest.lost = false
  rewards : run.totalReward = if quest.intermediate then (quest.stage : Int) else quest.won.toNat

variable {quest after start : Quest} {run : EpisodeRun} {command : String} {observation : Observation}
  {stage : Stage} {rest : List Stage}

theorem flawless_restarted (quest : Quest) :
    quest.restarted.Flawless quest { last := { state := quest.restarted.snapshot } } where
  kept := ⟨rfl, rfl, rfl, rfl⟩
  sound := .restarted quest
  uninterrupted := rfl
  state := rfl
  done := rfl
  steps := rfl
  moves := rfl
  unlost := rfl
  rewards := (ite_self (0 : Int)).symm

namespace Led

theorem stepped (led : quest.Led start run) (stepped : quest.Stepped command observation after) :
    after.Led start (run.after observation) where
  kept :=
    { script := stepped.kept.script.trans led.kept.script
      tracking := stepped.kept.tracking.trans led.kept.tracking
      intermediate := stepped.kept.intermediate.trans led.kept.intermediate
      closed := stepped.kept.closed.trans led.kept.closed }
  sound := led.sound.stepped stepped
  uninterrupted := led.uninterrupted
  state := stepped.state
  done := stepped.done

theorem won_iff (led : quest.Led start run) (nonempty : 0 < start.script.stages.length) :
    run.termination = .won ↔ quest.left = [] := by
  rw [EpisodeRun.termination_eq_won, led.state]
  rw [← led.kept.script] at nonempty
  exact (and_iff_right led.uninterrupted).trans
    (led.sound.won_iff_left.trans (and_iff_right nonempty))

theorem policy (led : quest.Led start run) (tracking : start.tracking = true)
    (unfinished : quest.done = false) :
    run.last.state.policyCommands = quest.left.map (·.command) := by
  rw [led.state, policyCommands_snapshot (led.kept.tracking.trans tracking) unfinished]

end Led

theorem Flawless.cleared (flawless : quest.Flawless start run)
    (stepped : quest.Stepped command observation after) (same : quest.left = stage :: rest)
    (fits : Text.trim command = stage.command) : after.Flawless start (run.after observation) := by
  obtain ⟨other, found, response⟩ := stepped.response
  cases found.symm.trans (stage?_of_left same)
  have advanced : after.stage = quest.stage + 1 := by
    rw [response.stage_eq, if_pos fits]
  have reward : observation.reward =
      if after.won || quest.intermediate then .positive else .neutral := response.reward_eq fits
  have unwon : quest.won = false := (done_eq_false.mp stepped.unfinished).1
  refine { flawless.toLed.stepped stepped with steps := ?_, moves := ?_, unlost := ?_, rewards := ?_ }
  · rw [advanced, ← flawless.steps]
    rfl
  · rw [advanced, stepped.moves, flawless.moves]
  · exact stepped.unlost same fits
  · have rewards := flawless.rewards
    rw [unwon] at rewards
    simp only [EpisodeRun.after, reward, rewards, advanced, stepped.kept.intermediate]
    cases quest.intermediate <;> cases after.won <;> simp [Reward.value]

theorem Flawless.outcome_eq (flawless : quest.Flawless start run)
    (nonempty : 0 < start.script.stages.length) (none : quest.left = []) :
    run.outcome = start.wonOutcome := by
  have won : quest.won = true := flawless.sound.won_iff_left.mpr ⟨flawless.kept.script ▸ nonempty, none⟩
  have last : quest.stage = start.script.stages.length := by
    rw [← flawless.kept.script]
    exact (flawless.sound.won.mp won).2
  have termination := (flawless.won_iff nonempty).mpr none
  simp [EpisodeRun.outcome, wonOutcome, flawless.steps, flawless.state, flawless.done, flawless.rewards,
    flawless.moves, termination, snapshot, done, won, last, flawless.kept.intermediate]

end Quest

namespace Run

abbrev walking {σ : Type} (engine : Engine σ) : Cast σ Agent.Walkthrough :=
  ⟨engine, Agent.walkthrough, fun _ => false⟩

def start : Run EpisodeRun := do
  ofAgent (← act .prepare)
  return { last := { state := ← ask .reset } }

theorem episode_eq (watched : Bool) (maxSteps : Nat) :
    episode watched maxSteps = start >>= proceed watched maxSteps := by
  simp [episode, start]

variable {engine : Engine (Option Quest)} {scene : Scene (Option Quest) Agent.Walkthrough}
  {quest begun : Quest} {stage : Stage} {rest : List Stage} {run : EpisodeRun}

theorem perform_prepare_walking (engine : Engine (Option Quest))
    (scene : Scene (Option Quest) Agent.Walkthrough) :
    let asked := engine.ask .walkthrough scene.engine
    let prepared := scene.agent.prepared asked.1
    (walking engine).perform .prepare scene = (prepared.1, ⟨asked.2, prepared.2,
      .prepared prepared.1 :: .asked .walkthrough asked.1 :: .preparing :: scene.journal⟩) := rfl

theorem succeeds_prepare (plays : engine.PlaysQuests) (current : scene.engine = some quest)
    (isOpen : quest.closed = false) :
    ∃ after, (walking engine).perform .prepare scene = (.ok (), after) ∧ after.engine = some quest ∧
      after.agent.Follows quest.script.stages := by
  have prepares := perform_prepare_walking engine scene
  rw [current] at prepares
  rcases plays.walkthrough quest isOpen with asked | ⟨complaint, asked⟩
  · rw [asked] at prepares
    exact ⟨_, prepares, rfl, .inr rfl⟩
  · rw [asked] at prepares
    exact ⟨_, prepares, rfl, .inl rfl⟩

theorem succeeds_start (plays : engine.PlaysQuests) (current : scene.engine = some quest)
    (isOpen : quest.closed = false) :
    Succeeds (walking engine) start scene fun run after =>
      after.engine = some quest.restarted ∧ after.agent.Follows quest.script.stages ∧
        run = { last := { state := quest.restarted.snapshot } } := by
  obtain ⟨prepared, prepares, still, follows⟩ := succeeds_prepare plays current isOpen
  have reset := plays.resets quest
  rw [Quest.ask_of_open isOpen, ← still] at reset
  refine Succeeds.bind (Succeeds.act (Succeeds.bind (Succeeds.ofAgent (congrArg Prod.fst prepares) ?_)))
  rw [prepares]
  exact Succeeds.bind (Succeeds.ask (congrArg Prod.fst reset)
    (Succeeds.pure ⟨congrArg Prod.snd reset, follows, rfl⟩))

theorem walks_on (plays : engine.PlaysQuests) (current : scene.engine = some quest)
    (led : quest.Led begun run) (isOpen : begun.closed = false) (unfinished : quest.done = false)
    (same : quest.left = stage :: rest) {command : String} {agent : Agent.Walkthrough}
    (chosen : scene.agent.next run.last.state = some (command, agent)) (watched : Bool) (budget : Nat) :
    ∃ observation after next, quest.Stepped command observation after ∧ next.engine = some after ∧
      next.agent = agent ∧ (proceed watched (budget + 1) run).perform (walking engine) scene =
        if after.done then (.ok (run.after observation), next)
        else (proceed watched budget (run.after observation)).perform (walking engine) next := by
  obtain ⟨observation, answer, stepped⟩ :=
    Quest.stepped_of_stage unfinished (Quest.stage?_of_left same) command
  have asked := plays.steps command quest
  rw [Quest.ask_step_of_open (led.kept.closed.trans isOpen), ← current] at asked
  obtain ⟨looked, engine_eq, agent_eq, passed⟩ :=
    proceed_of_uncancelled (walking engine) (fun _ => rfl) watched budget run scene
  rw [passed]
  have decides : Agent.walkthrough.decide run.last looked.agent = ⟨.ok command, agent, []⟩ := by
    simp [Agent.walkthrough, agent_eq, chosen]
  rw [← engine_eq] at asked
  have turns : Succeeds (walking engine) (turn run) looked _ :=
    Succeeds.turn (congrArg Turn.result decides) ((congrArg Prod.fst asked).trans answer)
  obtain ⟨_, next, ⟨rfl, engine_eq, agent_eq⟩, passed⟩ := turns.perform_bind _
  refine ⟨observation, _, next, stepped, engine_eq.trans (congrArg Prod.snd asked),
    agent_eq.trans (congrArg Turn.agent decides), passed.trans ?_⟩
  have done : (run.after observation).last.done = (quest.step command).2.done := stepped.done
  rw [done]
  cases (quest.step command).2.done <;> rfl

theorem not_walks_on (chosen : scene.agent.next run.last.state = none) (watched : Bool) (budget : Nat)
    (result : EpisodeRun) (after : Scene (Option Quest) Agent.Walkthrough) :
    (proceed watched (budget + 1) run).perform (walking engine) scene ≠ (.ok result, after) := by
  intro performed
  obtain ⟨looked, -, agent_eq, passed⟩ :=
    proceed_of_uncancelled (walking engine) (fun _ => rfl) watched budget run scene
  rw [passed] at performed
  obtain ⟨_, _, turns, -⟩ := perform_bind_ok performed
  have refuses : (Agent.walkthrough.decide run.last looked.agent).result =
      .error (.walkthroughExhausted looked.agent.issued) := by
    simp [Agent.walkthrough, agent_eq, chosen]
  have refused : ((turn run).perform (walking engine) looked).1 = _ := turn_of_error refuses
  rw [turns] at refused
  cases refused

theorem walks_to_win (plays : engine.PlaysQuests) (isOpen : begun.closed = false)
    (tracking : begun.tracking = true) (nonempty : 0 < begun.script.stages.length) (watched : Bool)
    {budget : Nat} {left : List Stage} (current : scene.engine = some quest)
    (flawless : quest.Flawless begun run) (same : quest.left = left) (follows : scene.agent.Follows left)
    (some : left ≠ []) (enough : left.length ≤ budget) (trimmed : ∀ stage ∈ left, stage.Trimmed) :
    Succeeds (walking engine) (proceed watched budget run) scene fun result _ =>
      result.outcome = begun.wonOutcome := by
  -- Each command clears the first stage that is left, whoever the agent has it from.
  induction left generalizing scene quest run budget with
  | nil => contradiction
  | cons stage rest ih =>
    obtain ⟨budget, rfl⟩ : ∃ less, budget = less + 1 :=
      ⟨budget - 1, by rw [List.length_cons] at enough; omega⟩
    have unwon : quest.won = false := by
      have := mt flawless.sound.won_iff_left.mp (by simp [same])
      simpa using this
    have unfinished : quest.done = false := Quest.done_eq_false.mpr ⟨unwon, flawless.unlost⟩
    have policy := flawless.policy tracking unfinished
    rw [same] at policy
    obtain ⟨agent, chosen, followsAfter⟩ := Agent.Walkthrough.next_of_follows follows policy
    obtain ⟨observation, after, next, stepped, engine_eq, rfl, performed⟩ :=
      walks_on plays current flawless.toLed isOpen unfinished same chosen watched budget
    obtain ⟨fits, trimmed⟩ := List.forall_mem_cons.mp trimmed
    have further := flawless.cleared stepped same fits
    have left := stepped.left_eq same
    rw [if_pos (by exact fits)] at left
    unfold Succeeds
    rw [performed]
    split
    · rename_i done
      have won : after.won = true := by simpa [Quest.done, further.unlost] using done
      have none := (further.sound.won_iff_left.mp won).2
      exact ⟨_, _, rfl, further.outcome_eq nonempty none⟩
    · rename_i goesOn
      have more : rest ≠ [] := by
        rintro rfl
        have won := further.sound.won_iff_left.mpr ⟨further.kept.script ▸ nonempty, left⟩
        simp [Quest.done, won] at goesOn
      exact ih engine_eq further left followsAfter more (by simpa using enough) trimmed

theorem walks_astray (plays : engine.PlaysQuests) (isOpen : begun.closed = false)
    (tracking : begun.tracking = true) (nonempty : 0 < begun.script.stages.length) (watched : Bool)
    {budget : Nat} (current : scene.engine = some quest) (led : quest.Led begun run)
    (unfinished : quest.done = false) (fails : scene.agent.Fails budget quest.left)
    {result : EpisodeRun} {after : Scene (Option Quest) Agent.Walkthrough}
    (performed : (proceed watched budget run).perform (walking engine) scene = (.ok result, after)) :
    result.termination ≠ .won := by
  have some : quest.left ≠ [] := led.sound.left_ne_nil unfinished (led.kept.script ▸ nonempty)
  -- What keeps the agent from winning stays with it, so that some stage is always left.
  induction budget generalizing scene quest run with
  | zero =>
    cases performed
    exact mt (led.won_iff nonempty).mp some
  | succ budget ih =>
    obtain ⟨stage, rest, same⟩ := List.exists_cons_of_ne_nil some
    cases chosen : scene.agent.next run.last.state with
    | none => exact absurd performed (not_walks_on chosen watched budget result after)
    | some choice =>
      obtain ⟨command, agent⟩ := choice
      obtain ⟨observation, further, next, stepped, engine_eq, rfl, goesOn⟩ :=
        walks_on plays current led isOpen unfinished same chosen watched budget
      have policy := led.policy tracking unfinished
      rw [same] at policy fails
      obtain ⟨more, fails⟩ := fails.further policy chosen (stepped.left_eq same)
      rw [goesOn] at performed
      split at performed
      · cases performed
        exact mt ((led.stepped stepped).won_iff nonempty).mp more
      · rename_i goesOn
        exact ih engine_eq (led.stepped stepped) (by simpa using goesOn) fails performed more

theorem begins (plays : engine.PlaysQuests) (current : scene.engine = some quest)
    (isOpen : quest.closed = false) (watched : Bool) (maxSteps : Nat) :
    ∃ begun run, begun.engine = some quest.restarted ∧ begun.agent.Follows quest.script.stages ∧
      quest.restarted.Flawless quest run ∧
      (episode watched maxSteps).perform (walking engine) scene =
        (proceed watched maxSteps run).perform (walking engine) begun := by
  rw [episode_eq]
  obtain ⟨_, begun, ⟨engine_eq, follows, rfl⟩, performed⟩ :=
    (succeeds_start plays current isOpen).perform_bind (proceed watched maxSteps)
  exact ⟨begun, _, engine_eq, follows, Quest.flawless_restarted quest, performed⟩

variable {maxSteps : Nat}

theorem succeeds_walking (plays : engine.PlaysQuests)
    (scene : Scene (Option Quest) Agent.Walkthrough) (current : scene.engine = some quest)
    (isOpen : quest.closed = false) (tracking : quest.tracking = true) (watched : Bool)
    (nonempty : 0 < quest.script.stages.length) (enough : quest.script.stages.length ≤ maxSteps)
    (trimmed : ∀ stage ∈ quest.script.stages, stage.Trimmed) :
    Succeeds (walking engine) (episode watched maxSteps) scene fun run _ =>
      run.outcome = quest.wonOutcome := by
  obtain ⟨begun, run, current, follows, flawless, performed⟩ :=
    begins plays current isOpen watched maxSteps
  unfold Succeeds
  rw [performed]
  exact walks_to_win plays isOpen tracking nonempty watched current flawless rfl follows
    (List.ne_nil_of_length_pos nonempty) enough trimmed

theorem trimmed_of_won (plays : engine.PlaysQuests) (current : scene.engine = some quest)
    (isOpen : quest.closed = false) (tracking : quest.tracking = true) {watched : Bool}
    (nonempty : 0 < quest.script.stages.length) {after : Scene (Option Quest) Agent.Walkthrough}
    (performed : (episode watched maxSteps).perform (walking engine) scene = (.ok run, after))
    (won : run.termination = .won) :
    quest.script.stages.length ≤ maxSteps ∧ ∀ stage ∈ quest.script.stages, stage.Trimmed := by
  obtain ⟨begun, started, current, follows, flawless, same⟩ :=
    begins plays current isOpen watched maxSteps
  rw [same] at performed
  have unfailing : ¬ begun.agent.Fails maxSteps quest.restarted.left := fun fails =>
    walks_astray plays isOpen tracking nonempty watched current flawless.toLed rfl fails performed won
  constructor
  · exact Nat.le_of_not_lt fun fewer => unfailing (.budget fewer)
  · intro stage mem
    by_cases trimmed : stage.Trimmed
    · exact trimmed
    · exact absurd (.stage mem trimmed follows) unfailing

end Run

structure Engine.WalksThrough (engine : Engine (Option Quest)) (quest : Quest) : Prop where
  wins : ∀ watched maxSteps agent journal,
    (∃ run after, (Run.episode watched maxSteps).perform (Run.walking engine)
        ⟨some quest, agent, journal⟩ = (.ok run, after) ∧ run.outcome.termination = .won) ↔
      quest.script.stages.length ≤ maxSteps ∧ ∀ stage ∈ quest.script.stages, stage.Trimmed
  outcome : ∀ watched maxSteps agent journal run after,
    (Run.episode watched maxSteps).perform (Run.walking engine) ⟨some quest, agent, journal⟩ =
        (.ok run, after) → run.outcome.termination = .won → run.outcome = quest.wonOutcome

theorem Engine.PlaysQuests.walksThrough {engine : Engine (Option Quest)} (plays : engine.PlaysQuests)
    {quest : Quest} (isOpen : quest.closed = false) (tracking : quest.tracking = true)
    (nonempty : 0 < quest.script.stages.length) : engine.WalksThrough quest := by
  constructor
  · intro watched maxSteps agent journal
    constructor
    · rintro ⟨run, after, performed, won⟩
      exact Run.trimmed_of_won plays rfl isOpen tracking nonempty performed won
    · rintro ⟨enough, trimmed⟩
      obtain ⟨run, after, performed, same⟩ :=
        Run.succeeds_walking plays ⟨some quest, agent, journal⟩ rfl isOpen tracking watched nonempty enough
          trimmed
      exact ⟨run, after, performed, congrArg EpisodeOutcome.termination same⟩
  · intro watched maxSteps agent journal run after performed won
    obtain ⟨enough, trimmed⟩ := Run.trimmed_of_won plays rfl isOpen tracking nonempty performed won
    obtain ⟨_, _, again, same⟩ :=
      Run.succeeds_walking plays ⟨some quest, agent, journal⟩ rfl isOpen tracking watched nonempty enough
        trimmed
    cases performed.symm.trans again
    exact same

theorem trimmed_walkthrough_wins (script : Script) (nonempty : 0 < script.stages.length)
    (operations : List Operation) :
    let quest := (script.operated operations).1
    quest.closed = false → quest.tracking = true →
      (quest.done = false → (quest.WinsBy quest.snapshot.policyCommands ↔
        ∀ command ∈ quest.snapshot.policyCommands, Text.trim command = command)) ∧
      ∀ find complaint, (Quest.engine find).WalksThrough quest ∧
        ((Quest.engine find).withoutWalkthrough complaint).WalksThrough quest := by
  intro quest isOpen tracking
  have traced : quest.Traced script _ := Quest.Traced.operated script operations
  rw [← traced.sameScript] at nonempty
  constructor
  · intro unfinished
    rw [Quest.policyCommands_snapshot tracking unfinished,
      traced.sound.winsBy_left_iff isOpen unfinished nonempty, List.forall_mem_map]
    rfl
  · intro find complaint
    exact ⟨(Quest.engine_playsQuests find).walksThrough isOpen tracking nonempty,
      (Quest.withoutWalkthrough_playsQuests find complaint).walksThrough isOpen tracking nonempty⟩

theorem two_stage_walkthrough_wins :
    let script : Script :=
      { objective := "Leave.",
        stages := [{ description := "A hall.", command := "take key", item := some "a key" },
          { description := "A door.", command := "unlock door", hazards := ["kick door"] }] }
    let quest := (script.operated
      [.ask (.step " take key "), .ask .reset, .ask (.step "wait"), .ask .activateTracking]).1
    quest.closed = false ∧ quest.tracking = true ∧ quest.done = false ∧
      quest.snapshot.policyCommands = ["unlock door"] ∧ quest.WinsBy ["unlock door"] ∧
      ∀ find complaint, (Quest.engine find).WalksThrough quest ∧
        ((Quest.engine find).withoutWalkthrough complaint).WalksThrough quest := by
  intro script quest
  have isOpen : quest.closed = false := by decide +kernel
  have tracking : quest.tracking = true := by decide +kernel
  have unfinished : quest.done = false := by decide +kernel
  have policy : quest.snapshot.policyCommands = ["unlock door"] := by decide +kernel
  obtain ⟨wins, walks⟩ := trimmed_walkthrough_wins script (by decide) _ isOpen tracking
  have wins := (wins unfinished).mpr
  rw [policy] at wins
  exact ⟨isOpen, tracking, unfinished, policy, wins (by decide +kernel), walks⟩

end TextQuest
