import TextQuest.Session

namespace TextQuest

structure Turn (β α : Type) where
  result : Except AgentError β
  agent : α
  notes : List Note := []

structure Agent (α : Type) where
  name : String
  prepare : α → SessionDialogue (Except AgentError Unit × α) := fun agent => .done (.ok (), agent)
  decide : Observation → α → Turn String α
  /-- After an episode of training, with its last observation. -/
  finish : Observation → α → Turn Unit α := fun _ agent => ⟨.ok (), agent, []⟩
  setTraining : Bool → α → α := fun _ agent => agent

end TextQuest
