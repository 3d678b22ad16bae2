import TextQuest.CommandLine.Options
import TextQuest.Text.Hanging

namespace TextQuest.CommandLine

structure HelpRow where
  subject : String
  explanation : String
  deriving DecidableEq

def HelpRow.text (column : Nat) (row : HelpRow) : String :=
  let subject := "  " ++ row.subject
  subject ++ String.ofList (List.replicate (column - subject.length) ' ') ++
    Text.hanging column row.explanation ++ "\n"

def helpList (heading : String) (rows : List HelpRow) : String :=
  let column := rows.foldl (fun width row => max width row.subject.length) 0 + 4
  if rows = [] then "" else "\n" ++ heading ++ ":\n" ++ String.join (rows.map (·.text column))

namespace Parameter

def placeholder (parameter : Parameter) : String :=
  "<" ++ parameter.name.map (fun c => if c = '-' then '_' else c.toUpper) ++ ">"

def shape (parameter : Parameter) : String :=
  "--" ++ parameter.name ++ (if parameter.kind.isSome then " " ++ parameter.placeholder else "")

/-- What is said of an option after its purpose: the variable that stands in for it with its value in
an environment, the usual value, and the values among which to choose. -/
def remarks (environment : String → Option String) (parameter : Parameter) : List String :=
  let fromVariable := parameter.standIn.map fun name =>
    "[env: " ++ name ++ "=" ++ (environment name).getD "" ++ "]"
  let usual := parameter.usual.map fun value => "[default: " ++ value ++ "]"
  let choice := match parameter.kind with
    | some (.choice names) => some ("[possible values: " ++ String.intercalate ", " names ++ "]")
    | _ => none
  [fromVariable, usual, choice].filterMap id

def helpRow (environment : String → Option String) (parameter : Parameter) : HelpRow where
  subject := (parameter.letter.elim "    " fun c => "-" ++ String.singleton c ++ ", ") ++ parameter.shape
  explanation := String.intercalate " " (parameter.purpose :: parameter.remarks environment)

end Parameter

def Operand.shape (operand : Operand) : String :=
  if operand.mayRepeat then "[" ++ operand.name ++ "]..." else "<" ++ operand.name ++ ">"

namespace Level

def usage (level : Level) : String :=
  let optional := if level.parameters.any (!·.isRequired) then ["[OPTIONS]"] else []
  let required := (level.parameters.filter (·.isRequired)).map (·.shape)
  let command := if level.commands = [] then [] else ["<COMMAND>"]
  "Usage: " ++ String.intercalate " "
    (level.path ++ optional ++ required ++ level.operands.map (·.shape) ++ command) ++ "\n"

def commonRows (level : Level) : List HelpRow :=
  (if level.hasHelp then [⟨"-h, --help", "Print help"⟩] else []) ++
    (if level.hasVersion then [⟨"-V, --version", "Print version"⟩] else [])

def helpPage (environment : String → Option String) (level : Level) : String :=
  level.purpose ++ "\n\n" ++ level.usage ++
    helpList "Commands" (level.commands.map fun (name, purpose) => ⟨name, purpose⟩) ++
    helpList "Arguments" (level.operands.map fun operand => ⟨operand.shape, operand.purpose⟩) ++
    helpList "Options" (level.parameters.map (·.helpRow environment) ++ level.commonRows)

end Level
end TextQuest.CommandLine
