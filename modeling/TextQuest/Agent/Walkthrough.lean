import TextQuest.Agent

namespace TextQuest.Agent

structure Walkthrough where
  /-- Commands of the session that are left; `none` to follow the states. -/
  commands : Option (List String) := none
  issued : Nat := 0
  deriving DecidableEq

namespace Walkthrough

def prepared (agent : Walkthrough) (answer : Call.walkthrough.Answer) :
    Except AgentError Unit × Walkthrough :=
  match answer with
  | .ok commands => (.ok (), ⟨some commands, 0⟩)
  | .error (.unsupported _) => (.ok (), ⟨none, 0⟩)
  | .error error => (.error (.engine error), { agent with issued := 0 })

def next (agent : Walkthrough) (state : GameState) : Option (String × Walkthrough) :=
  match agent.commands with
  | some [] => none
  | some (command :: rest) => some (command, ⟨some rest, agent.issued + 1⟩)
  | none => state.policyCommands.head?.map fun command => (command, ⟨none, agent.issued + 1⟩)

end Walkthrough

def walkthrough : Agent Walkthrough where
  name := "walkthrough"
  prepare agent := do
    let answer ← .ask .walkthrough
    return agent.prepared answer
  decide observation agent :=
    match agent.next observation.state with
    | some (command, agent) => ⟨.ok command, agent, []⟩
    | none => ⟨.error (.walkthroughExhausted agent.issued), agent, []⟩

end TextQuest.Agent
