import TextQuest.Generation.Challenge

/-!
Reading command lines. Arguments are read from left to right; an option has one value, behind an equals
sign, directly behind its letter, or as the next argument, which does not begin with a dash unless it
is nothing else. No option is given twice at one level. A command ends its level, and what follows
belongs to the command.
-/
namespace TextQuest.CommandLine

inductive ValueKind
  | text
  | path
  | nat32
  | nat64
  | choice (names : List String)
  | challenge
  deriving DecidableEq

/-- A number of 32 bits, which may have a sign. -/
def nat32? (text : String) : Option Nat := do
  let n ← Decimal.integer? text.toList
  if 0 ≤ n ∧ n < Nat.pow 2 32 then return n.toNat else none

def nat64? (text : String) : Option Nat :=
  (Decimal.natural? text.toList).filter (· < Nat.pow 2 64)

def ValueKind.accepts (value : String) : ValueKind → Bool
  | text => true
  | path => value ≠ ""
  | nat32 => (nat32? value).isSome
  | nat64 => (nat64? value).isSome
  | choice names => names.contains value
  | challenge => (Generation.Challenge.parse value).isOk

structure Parameter where
  name : String
  purpose : String := ""
  letter : Option Char := none
  kind : Option ValueKind
  isRequired : Bool := false
  usual : Option String := none
  /-- The variable of the environment that stands in for it. -/
  standIn : Option String := none
  deriving DecidableEq

structure Operand where
  name : String
  purpose : String
  kind : ValueKind
  mayRepeat : Bool := false
  deriving DecidableEq

structure Level where
  path : List String
  purpose : String
  parameters : List Parameter := []
  operands : List Operand := []
  commands : List (String × String) := []
  hasHelp : Bool := true
  hasVersion : Bool := false
  deriving DecidableEq

def Level.name (level : Level) : String := level.path.getLastD ""

inductive Stop
  | help (level : Level)
  | version
  | usage
  deriving DecidableEq

structure Given where
  values : List (String × String) := []
  switches : List String := []
  operands : List String := []
  command : Option (String × List String) := none
  deriving DecidableEq

namespace Given

def value? (given : Given) (name : String) : Option String := given.values.lookup name

def isOn (given : Given) (name : String) : Bool := given.switches.contains name

def addValue (given : Given) (name : String) (kind : ValueKind) (value : String) :
    Except Stop Given :=
  if kind.accepts value ∧ (given.value? name).isNone then
    .ok { given with values := (name, value) :: given.values }
  else .error .usage

def addSwitch (given : Given) (name : String) : Except Stop Given :=
  if given.isOn name then .error .usage
  else .ok { given with switches := name :: given.switches }

end Given

inductive Key
  | name (name : String)
  | letter (letter : Char)
  deriving DecidableEq

inductive Argument
  | divider
  | option (key : Key) (attached : Option String)
  | plain
  deriving DecidableEq

namespace Argument

def attached? : List Char → Option String
  | '=' :: value => some (String.ofList value)
  | _ => none

def ofString (argument : String) : Argument :=
  match argument.toList with
  | ['-', '-'] => divider
  | '-' :: '-' :: rest =>
    option (.name (String.ofList (rest.takeWhile (· != '=')))) (attached? (rest.dropWhile (· != '=')))
  | ['-', c] => option (.letter c) none
  | '-' :: c :: rest => option (.letter c) ((attached? rest).getD (String.ofList rest))
  | _ => plain

end Argument

namespace Level

def valued? (level : Level) (key : Key) : Option (String × ValueKind) := do
  let parameter ← level.parameters.find? fun parameter =>
    match key with
    | .name name => parameter.name = name
    | .letter c => parameter.letter = some c
  return (parameter.name, ← parameter.kind)

def hasSwitch (level : Level) (name : String) : Bool :=
  level.parameters.any fun parameter => parameter.name = name ∧ parameter.kind = none

def addSwitch (level : Level) (given : Given) : Key → Option String → Except Stop Given
  | .letter 'h', _ | .name "help", none => .error (.help level)
  | .letter 'V', _ | .name "version", none => .error (if level.hasVersion then .version else .usage)
  | .name name, none => if level.hasSwitch name then given.addSwitch name else .error .usage
  | _, _ => .error .usage

def addOperand (level : Level) (given : Given) (value : String) : Except Stop Given :=
  match level.operands[given.operands.length]? with
  | some operand =>
    if operand.kind.accepts value then .ok { given with operands := given.operands ++ [value] }
    else .error .usage
  | none => .error .usage

def read (level : Level) : List String → Given → Except Stop Given
  | [], given => .ok given
  | argument :: rest, given =>
    match Argument.ofString argument with
    | .divider => rest.foldlM level.addOperand given
    | .plain =>
      if (level.commands.lookup argument).isSome then
        .ok { given with command := some (argument, rest) }
      else do level.read rest (← level.addOperand given argument)
    | .option key attached =>
      match level.valued? key, attached, rest with
      | none, attached, rest => do level.read rest (← level.addSwitch given key attached)
      | some (name, kind), some value, rest => do
        level.read rest (← given.addValue name kind value)
      | some _, none, [] => .error .usage
      | some (name, kind), none, value :: rest =>
        if Argument.ofString value = .plain then do
          level.read rest (← given.addValue name kind value)
        else .error .usage

end Level

structure Tool where
  name : String
  purpose : String
  parameters : List Parameter
  commands : List Level
  deriving DecidableEq

structure Line where
  outer : Given
  command : String
  inner : Given
  deriving DecidableEq

namespace Tool

def helpLevel (tool : Tool) : Level where
  path := [tool.name, "help"]
  purpose := "Print this message or the help of the given subcommand(s)"
  operands := [{ name := "COMMAND", purpose := "Print help for the subcommand(s)", kind := .text,
                 mayRepeat := true }]
  hasHelp := false

def levels (tool : Tool) : List Level := tool.commands ++ [tool.helpLevel]

def outer (tool : Tool) : Level where
  path := [tool.name]
  purpose := tool.purpose
  parameters := tool.parameters
  commands := tool.levels.map fun level => (level.name, level.purpose)
  hasVersion := true

def help (tool : Tool) : List String → Stop
  | [] => .help tool.outer
  | [command] =>
    match tool.levels.find? (·.name = command) with
    | some level => .help level
    | none => .usage
  | _ => .usage

def read (tool : Tool) (arguments : List String) : Except Stop Line := do
  let outer ← tool.outer.read arguments {}
  match outer.command with
  | none => throw .usage
  | some ("help", rest) => throw (tool.help rest)
  | some (command, rest) =>
    match tool.commands.find? (·.name = command) with
    | some level => return ⟨outer, command, ← level.read rest {}⟩
    | none => throw .usage

end Tool
end TextQuest.CommandLine
