import TextQuest.Bridge.Request
import TextQuest.Bridge.Response

/-!
Sessions with an external engine program. Every request is one line and takes the next line that the
program has written, whatever is in it. After the first attempt to close nothing more is written or
read.
-/
namespace TextQuest.Bridge

structure Written where
  bytes : List UInt8
  closes : Bool := false

structure Program (π : Type) where
  hear : String → π → Written × π

structure Connection (π : Type) where
  program : π
  unread : List UInt8 := []
  outputOpen : Bool := true
  closed : Bool := false

namespace Connection

variable {π : Type}

def takeLine : List UInt8 → List UInt8 × List UInt8
  | [] => ([], [])
  | byte :: rest =>
    if byte = 0x0a then ([byte], rest)
    else
      let (line, rest) := takeLine rest
      (byte :: line, rest)

def send (program : Program π) (line : String) (connection : Connection π) : Connection π :=
  let (written, state) := program.hear line connection.program
  { connection with
    program := state
    unread := connection.unread ++ (if connection.outputOpen then written.bytes else [])
    outputOpen := connection.outputOpen && !written.closes }

/-- What a line of a program says. A program that writes no more has written no line; one that owes
the end of a line is taken to have ended it. -/
def interpret (line : List UInt8) : Except EngineError Response :=
  if line.isEmpty then .error (.protocol .outputClosed)
  else match Text.decode? line with
    | none => .error (.file .notText)
    | some line => (Response.decode line).bind Response.accepted

def request (program : Program π) (request : Request) (connection : Connection π) :
    Except EngineError Response × Connection π :=
  if connection.closed then (.error .closed, connection)
  else
    let connection := connection.send program (String.ofList request.encode.dropLast)
    let (line, unread) := takeLine connection.unread
    (interpret line, { connection with unread })

def session (program : Program π) : Session (Connection π) where
  ask call connection :=
    let (answer, connection) := connection.request program (.call call)
    (answer.bind (·.reply call), connection)
  close connection :=
    if connection.closed then (.ok (), connection)
    else
      let (answer, connection) := connection.request program .close
      (answer.map fun _ => (), { connection with closed := true })

end Connection
end TextQuest.Bridge
