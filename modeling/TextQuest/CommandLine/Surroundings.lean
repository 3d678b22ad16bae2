import TextQuest.Bridge.Engine
import TextQuest.CommandLine.Exit
import TextQuest.CommandLine.Help
import TextQuest.Config.Document
import TextQuest.Generation.Maker
import TextQuest.Run.Basic

namespace TextQuest.CommandLine

def levelFilter? : String → Option (Note → Bool)
  | "off" | "error" => some fun _ => false
  | "warn" => some Note.Level.warn.shows
  | "info" => some Note.Level.info.shows
  | "debug" | "trace" => some fun _ => true
  | _ => none

/-- A log, which may know more of filters than the names of levels, and may write more than a note says,
such as the time. -/
structure Log where
  filter? : String → Option (Note → Bool) := levelFilter?
  written : Note → String := fun note => note.line ++ "\n"

structure Surroundings (π : Type) where
  tree : FileTree
  environment : String → Option String
  program : Bridge.Program π
  engine : String → Installed π
  generator : String → Installed Generation.Finished
  random : Random.Generator
  log : Log := {}
  /-- From how many weights of a kind on there is no memory for them. Each takes four bytes. -/
  memory : Nat := 8589934592
  interrupted : Journal → Bool := fun _ => false

structure Aftermath (π : Type) where
  exit : Exit
  tree : FileTree
  journal : Journal := []
  programs : List π := []
  attempts : List Generation.Attempt := []
  generated : List (List String) := []

variable {π : Type}

/-- What the log makes of a note. Unless the environment says what it lets through, it begins at a level. -/
def Surroundings.logged (surroundings : Surroundings π) (usual : Note.Level) (note : Note) : String :=
  let lets := ((surroundings.environment "RUST_LOG").bind surroundings.log.filter?).getD usual.shows
  if lets note then surroundings.log.written note else ""

def Surroundings.ending (surroundings : Surroundings π) (exit : Exit) : Aftermath π :=
  { exit, tree := surroundings.tree }

def Surroundings.stopped (surroundings : Surroundings π) (tool : Tool) : Stop → Exit
  | .help level => { output := level.helpPage surroundings.environment }
  | .version => { output := tool.name ++ " 0.1.0\n" }
  | .usage => { status := some 2, complaint := tool.outer.usage }

/-- The value of an option that may be given before and after the command, or else by its variable. A
variable is looked at wherever the option is missing. -/
def Surroundings.shared (surroundings : Surroundings π) (parameter : Parameter) (line : Line) :
    Except Stop (Option String) :=
  let given := [line.inner.value? parameter.name, line.outer.value? parameter.name]
  match parameter.standIn.bind surroundings.environment with
  | some value =>
    if parameter.kind.any (·.accepts value) ∨ given.all (·.isSome) then
      .ok ((given.findSome? id).getD value)
    else .error .usage
  | none => .ok (given.findSome? id)

def configParameter : Parameter where
  name := "config"
  purpose := "RON configuration file"
  letter := some 'c'
  kind := some .path
  standIn := some "QUEST_GYM_CONFIG"

def Surroundings.config (surroundings : Surroundings π) (path : Option String) :
    Except Failure Config :=
  match Config.loadOrDefault surroundings.tree path with
  | .ok config => .ok config
  | .error error =>
    .error (Failure.during "failed to load configuration" ⟨error.message, error.causes⟩)

end TextQuest.CommandLine
