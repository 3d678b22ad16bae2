import TextQuest.Dialogue
import TextQuest.Failure
import TextQuest.GameState
import TextQuest.Note

namespace TextQuest

inductive Call
  | activateTracking
  | requestIntermediateRewards
  | reset
  | step (command : String)
  | walkthrough
  deriving DecidableEq

@[reducible] def Call.Reply : Call → Type
  | activateTracking | requestIntermediateRewards => Unit
  | reset => GameState
  | step _ => Observation
  | walkthrough => List String

abbrev Call.Answer (call : Call) : Type := Except EngineError call.Reply

abbrev SessionDialogue (β : Type) : Type := Dialogue Call Call.Answer β

/-- A session over states `σ`. Every call answers and moves on to another state, also when it
fails. -/
structure Session (σ : Type) where
  ask : (call : Call) → σ → call.Answer × σ
  close : σ → Except EngineError Unit × σ

structure Engine (σ : Type) extends Session σ where
  start : String → σ → Except EngineError (List Note) × σ

end TextQuest
