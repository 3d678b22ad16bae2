import TextQuest.FileTree
import TextQuest.Ron.Decode
import TextQuest.Script.Basic
import TextQuest.Session

namespace TextQuest
open Ron

namespace Stage

def shape : Shape :=
  .record "Stage"
    [("description", .text), ("command", .text), ("distractors", .list .text),
      ("hazards", .list .text), ("feedback", .text), ("item", .option .text)]

def ofRon? (v : Value) : Option Stage := do
  let fields ← v.fields?
  return {
    description := ← fields.required "description" Value.string?
    command := ← fields.required "command" Value.string?
    distractors := ← fields.optional "distractors" (Value.list? Value.string?) []
    hazards := ← fields.optional "hazards" (Value.list? Value.string?) []
    feedback := ← fields.optional "feedback" Value.string? ""
    item := ← fields.optional "item" (Value.option? Value.string?) none }

end Stage

namespace Script

def shape : Shape :=
  .record "QuestScript"
    [("objective", .text), ("intro", .text), ("stages", .list Stage.shape)]

def ofRon? (v : Value) : Option Script := do
  let fields ← v.fields?
  return {
    objective := ← fields.required "objective" Value.string?
    intro := ← fields.optional "intro" Value.string? ""
    stages := ← fields.required "stages" (Value.list? Stage.ofRon?) }

def parse (text : String) : Except EngineError Script :=
  match (Ron.parse? shape text.toList).bind ofRon? with
  | none => .error .malformedRon
  | some script => if script.stages.isEmpty then .error .emptyScript else .ok script

def load (tree : FileTree) (path : String) : Except EngineError Script :=
  match tree.readText path with
  | .error error => .error (.file error)
  | .ok text =>
    match parse text with
    | .error .emptyScript => .error (.startFailed path EngineError.emptyScript.message)
    | result => result

end Script
end TextQuest
