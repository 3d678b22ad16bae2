import TextQuest.Decimal.Shortest
import TextQuest.FileTree
import TextQuest.Neural.Learner
import TextQuest.Neural.Single
import TextQuest.Ron.Decode
import TextQuest.Session

namespace TextQuest.Neural
open Ron

namespace Params

def listText (weights : List Float32) : String :=
  if weights.isEmpty then "[]"
  else
    let lines := weights.map fun w => "        " ++ Decimal.shortestSingle w ++ ",\n"
    "[\n" ++ String.join lines ++ "    ]"

def text (params : Params Float32) : String :=
  "(\n    policy: " ++ listText params.policy.toList ++ ",\n    value: " ++
    listText params.value.toList ++ ",\n)"

def shape : Shape := .record "NeuralParams" [("policy", .list .single), ("value", .list .single)]

def ofRon? (v : Value) : Option (Params Float32) := do
  let fields ← v.fields?
  let policy ← fields.required "policy" (Value.list? Value.single?)
  let value ← fields.required "value" (Value.list? Value.single?)
  return ⟨.ofList policy, .ofList value⟩

def parse? (text : String) : Option (Params Float32) :=
  (Ron.parse? shape text.toList).bind ofRon?

end Params

namespace Learner

def restore (text : String) (learner : Learner Float32) : Except AgentError (Learner Float32) :=
  match Params.parse? text with
  | none => .error .malformedRon
  | some params =>
    let count := learner.config.featureDim
    if params.policy.size = count ∧ params.value.size = count then .ok { learner with params }
    else .error (.checkpointMismatch count params.policy.size params.value.size)

def load (tree : FileTree) (path : String) (learner : Learner Float32) :
    Except AgentError (Learner Float32) :=
  match tree.readText path with
  | .error error => .error (.file error)
  | .ok text => learner.restore text

def save (tree : FileTree) (path : String) (learner : Learner Float32) :
    Except AgentError FileTree :=
  match tree.write path learner.params.text.toUTF8 with
  | .error error => .error (.file error)
  | .ok tree => .ok tree

end Learner

def savedNote (path : String) : Note :=
  ⟨.debug, "checkpoint saved", [("path", path)], .learning⟩

end TextQuest.Neural
