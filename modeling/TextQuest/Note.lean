import TextQuest.Text.Blank
import TextQuest.Text.Defused

namespace TextQuest

inductive Note.Level
  | debug
  | info
  | warn
  deriving DecidableEq

def Note.Level.weight : Note.Level → Nat
  | debug => 0
  | info => 1
  | warn => 2

def Note.Level.label : Note.Level → String
  | debug => "DEBUG"
  | info => " INFO"
  | warn => " WARN"

inductive Note.Topic
  | running
  | learning
  deriving DecidableEq

structure Note where
  level : Note.Level
  message : String
  fields : List (String × String) := []
  topic : Note.Topic := .running
  deriving DecidableEq

def Note.Level.shows (level : Note.Level) (note : Note) : Bool := level.weight ≤ note.level.weight

/-- A note as it is written to the log. The message, and nothing else, is defused. -/
def Note.line (note : Note) : String :=
  note.fields.foldl (fun line field => line ++ " " ++ field.1 ++ "=" ++ field.2)
    (note.level.label ++ " " ++ Text.defused note.message)

def Note.lines (note : Note) : List String :=
  (Text.lines (note.line ++ "\n").toList).map String.ofList

end TextQuest
