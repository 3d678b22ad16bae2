import TextQuest.Agent

namespace TextQuest

inductive Act
  | start (game : String)
  | ask (call : Call)
  | close
  | prepare
  | decide (observation : Observation)
  | finish (observation : Observation)
  | setTraining (on : Bool)
  | poll
  | note (note : Note)

@[reducible] def Act.Answer : Act → Type
  | start _ => Except EngineError Unit
  | ask call => call.Answer
  | close => Except EngineError Unit
  | prepare => Except AgentError Unit
  | decide _ => Except AgentError String
  | finish _ => Except AgentError Unit
  | setTraining _ => Unit
  | poll => Bool
  | note _ => Unit

/-- One line of a journal. The calls an agent makes while it prepares stand between the two entries
about its preparation. -/
inductive Entry
  | started (game : String) (answer : Except EngineError Unit)
  | asked (call : Call) (answer : call.Answer)
  | closed (answer : Except EngineError Unit)
  | preparing
  | prepared (answer : Except AgentError Unit)
  | decided (observation : Observation) (answer : Except AgentError String)
  | finishing (observation : Observation)
  | finished (observation : Observation) (answer : Except AgentError Unit)
  | training (on : Bool)
  | polled (cancelled : Bool)
  | noted (note : Note)

/-- What happened so far, the latest entry first. -/
abbrev Journal := List Entry

structure Cast (σ α : Type) where
  engine : Engine σ
  agent : Agent α
  cancelled : Journal → Bool := fun _ => false

structure Scene (σ α : Type) where
  engine : σ
  agent : α
  journal : Journal := []

namespace Scene

variable {σ α : Type}

def record (scene : Scene σ α) (entry : Entry) : Scene σ α :=
  { scene with journal := entry :: scene.journal }

def recordNotes (scene : Scene σ α) (notes : List Note) : Scene σ α :=
  notes.foldl (fun scene note => scene.record (.noted note)) scene

end Scene

namespace Cast

variable {σ α : Type}

def ask (cast : Cast σ α) (call : Call) (scene : Scene σ α) : call.Answer × Scene σ α :=
  let (answer, engine) := cast.engine.ask call scene.engine
  (answer, { scene with engine }.record (.asked call answer))

def perform (cast : Cast σ α) : (act : Act) → Scene σ α → act.Answer × Scene σ α
  | .start game, scene =>
    let (answer, engine) := cast.engine.start game scene.engine
    let told := answer.map fun _ => ()
    (told, ({ scene with engine }.record (.started game told)).recordNotes
      (answer.toOption.getD []))
  | .ask call, scene => cast.ask call scene
  | .close, scene =>
    let (answer, engine) := cast.engine.close scene.engine
    (answer, { scene with engine }.record (.closed answer))
  | .prepare, scene =>
    let ((answer, agent), scene) :=
      (cast.agent.prepare scene.agent).run cast.ask (scene.record .preparing)
    (answer, { scene with agent }.record (.prepared answer))
  | .decide observation, ⟨engine, agent, journal⟩ =>
    let ⟨answer, agent, notes⟩ := cast.agent.decide observation agent
    (answer, (Scene.recordNotes ⟨engine, agent, journal⟩ notes).record (.decided observation answer))
  | .finish observation, ⟨engine, agent, journal⟩ =>
    let ⟨answer, agent, notes⟩ := cast.agent.finish observation agent
    (answer, (Scene.recordNotes ⟨engine, agent, .finishing observation :: journal⟩ notes).record
      (.finished observation answer))
  | .setTraining on, scene =>
    ((), { scene with agent := cast.agent.setTraining on scene.agent }.record (.training on))
  | .poll, scene =>
    let cancelled := cast.cancelled scene.journal
    (cancelled, scene.record (.polled cancelled))
  | .note note, scene => ((), scene.record (.noted note))

end Cast

abbrev Run := ExceptT RunError (Dialogue Act Act.Answer)

namespace Run

def act (a : Act) : Run a.Answer := ExceptT.lift (.ask a)

def ofEngine {β : Type} : Except EngineError β → Run β
  | .ok result => pure result
  | .error error => throw (.engine error)

def ofAgent {β : Type} : Except AgentError β → Run β
  | .ok result => pure result
  | .error error => throw (.agent error)

def ask (call : Call) : Run call.Reply := do ofEngine (← act (.ask call))

def note (note : Note) : Run Unit := act (.note note)

def perform {σ α β : Type} (cast : Cast σ α) (run : Run β) (scene : Scene σ α) :
    Except RunError β × Scene σ α :=
  Dialogue.run cast.perform run.run scene

end Run
end TextQuest
