import TextQuest.Bridge.Session
import TextQuest.Installed

namespace TextQuest.Bridge

structure Host (π : Type) where
  ended : List π := []
  current : Option (Connection π) := none

namespace Host

variable {π : Type}

def programs (host : Host π) : List π :=
  host.ended.reverse ++ (host.current.map (·.program)).toList

def onCurrent {β : Type} (host : Host π)
    (call : Connection π → Except EngineError β × Connection π) : Except EngineError β × Host π :=
  match host.current with
  | none => (.error .closed, host)
  | some connection =>
    let (answer, connection) := call connection
    (answer, { host with current := some connection })

/-- The engine for a program that is given by its path and its first arguments; the game comes last. -/
def engine (tree : FileTree) (program : Program π) (path : String) (arguments : List String)
    (installed : Installed π) : Engine (Host π) where
  start game host :=
    if !tree.hasPath game then (.error (.startFailed game "no such file"), host)
    else match installed.start path (arguments ++ [game]) with
      | .error error => (.error (.startFailed game (path ++ ": " ++ error.message)), host)
      | .ok program =>
        let note : Note :=
          ⟨.debug, "engine process started", [("program", path), ("game", game)], .running⟩
        (.ok [note], ⟨(host.current.map (·.program)).toList ++ host.ended, some { program }⟩)
  ask call host := host.onCurrent ((Connection.session program).ask call)
  close host := host.onCurrent (Connection.session program).close

end Host
end TextQuest.Bridge
