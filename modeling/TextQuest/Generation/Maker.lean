import TextQuest.Generation.Output
import TextQuest.Generation.Request
import TextQuest.Installed
import TextQuest.Note
import TextQuest.Text.Utf8

namespace TextQuest.Generation

structure Finished where
  output : List UInt8
  complaint : List UInt8
  status : Nat

structure MadeGame where
  seed : UInt64
  path : String
  deriving DecidableEq

structure Attempt where
  program : String
  arguments : List String
  deriving DecidableEq

def makeNote (program : String) (request : Request) : Note where
  level := .info
  message := "generating game"
  fields := [("program", program), ("args", Text.quotedList request.arguments)]

def Attempt.start (attempt : Attempt) (installed : Installed Finished) : Except FileError Finished :=
  installed.start attempt.program attempt.arguments

def Request.attempt (program : String) (request : Request) : Attempt := ⟨program, request.arguments⟩

def Finished.game (finished : Finished) (program : String) (request : Request) :
    Except MakeError MadeGame :=
  if finished.status ≠ 0 then
    .error (.failed program finished.status
      (String.ofList (Text.trimChars (Text.decodeLossy finished.complaint))))
  else match generatedPath? (Text.decodeLossy finished.output) with
    | some path => .ok ⟨request.seed, path⟩
    | none => .error .missingPath

def make (program : String) (installed : Installed Finished) (request : Request) :
    Except MakeError MadeGame :=
  match (request.attempt program).start installed with
  | .error error => .error (.notStarted program error)
  | .ok finished => finished.game program request

end TextQuest.Generation
