import TextQuest.CommandLine.Surroundings

namespace TextQuest.CommandLine
open Generation

structure MakeLine where
  config : Option String
  program : Option String
  kind : Kind
  options : Options
  deriving DecidableEq

namespace MakeLine

def programParameter : Parameter where
  name := "program"
  purpose := "Generator program (overrides the config file)"
  kind := some .path
  standIn := some "TW_MAKE"

def outputParameter : Parameter where
  name := "output"
  purpose := "Where to write the generated game"
  kind := some .path

def sizeParameter (name purpose usual : String) : Parameter where
  name := name
  purpose := purpose
  kind := some .nat32
  usual := some usual

def switch (name : String) (purpose : String := "") : Parameter where
  name := name
  purpose := purpose
  kind := none

def commonParameters : List Parameter :=
  [{ name := "seed", purpose := "Generation seed (drawn at random when omitted)",
     kind := some .nat64 },
   switch "view" "Display the generated game's world",
   switch "verbose" "Verbose generator output",
   { name := "theme", purpose := "Grammar theme", kind := some .text },
   switch "include-adj", switch "blend-descriptions", switch "ambiguous-instructions",
   switch "only-last-action", switch "blend-instructions"]

def customLevel : Level where
  path := ["make-game", "custom"]
  purpose := "Generate a game with custom world and quest sizes"
  parameters :=
    [programParameter, sizeParameter "world-size" "Number of rooms" "5", configParameter,
     sizeParameter "nb-objects" "Number of objects besides the rooms" "10",
     sizeParameter "quest-length" "Minimum number of actions the quest requires" "5",
     sizeParameter "quest-breadth" "Branching of the quest" "3", outputParameter] ++
    commonParameters

def challengeLevel : Level where
  path := ["make-game", "challenge"]
  purpose := "Generate a game for a predefined challenge"
  parameters := [outputParameter, programParameter, configParameter] ++ commonParameters
  operands := [{ name := "CHALLENGE", purpose := "Challenge token, e.g. tw-simple-level5",
                 kind := .challenge }]

def tool : Tool where
  name := "make-game"
  purpose := "Generate text-adventure games with tw-make"
  parameters := [programParameter, configParameter]
  commands := [customLevel, challengeLevel]

def optionsOf (given : Given) : Options where
  output := given.value? "output"
  seed := ((given.value? "seed").bind nat64?).map UInt64.ofNat
  theme := given.value? "theme"
  view := given.isOn "view"
  verbose := given.isOn "verbose"
  includeAdjectives := given.isOn "include-adj"
  blendDescriptions := given.isOn "blend-descriptions"
  ambiguousInstructions := given.isOn "ambiguous-instructions"
  onlyLastAction := given.isOn "only-last-action"
  blendInstructions := given.isOn "blend-instructions"

def sizeOf (given : Given) (name : String) (usual : Nat) : Nat :=
  ((given.value? name).bind nat32?).getD usual

def sizesOf (given : Given) : Sizes :=
  let usual : Sizes := {}
  { rooms := sizeOf given "world-size" usual.rooms
    objects := sizeOf given "nb-objects" usual.objects
    questLength := sizeOf given "quest-length" usual.questLength
    questBreadth := sizeOf given "quest-breadth" usual.questBreadth }

def kindOf (line : Line) : Except Stop Kind :=
  match line.command, line.inner.operands.map Challenge.parse with
  | "custom", _ => .ok (.custom (sizesOf line.inner))
  | "challenge", [.ok challenge] => .ok (.challenge challenge)
  | _, _ => .error .usage

def read {π : Type} (surroundings : Surroundings π) (arguments : List String) :
    Except Stop MakeLine := do
  let line ← tool.read arguments
  let kind ← kindOf line
  let config ← surroundings.shared configParameter line
  let program ← surroundings.shared programParameter line
  return ⟨config, program, kind, optionsOf line.inner⟩

end MakeLine

variable {π : Type}

def startedWith (program : String) (installed : Installed Finished) (request : Request) :
    List (List String) :=
  match (request.attempt program).start installed with
  | .error _ => []
  | .ok _ => [request.arguments]

def makeRequested (surroundings : Surroundings π) (program : String) (request : Request) :
    Aftermath π :=
  let installed := surroundings.generator program
  let begun := s!"Global seed: {request.seed}\n" ++ surroundings.logged .warn (makeNote program request)
  let exit := match make program installed request with
    | .ok game => { output := begun ++ "Game generated: " ++ game.path ++ "\n" }
    | .error error => Exit.failed begun ⟨error.message, error.causes⟩
  { exit
    tree := surroundings.tree
    attempts := [request.attempt program]
    generated := startedWith program installed request }

def MakeLine.run (surroundings : Surroundings π) (line : MakeLine) : Aftermath π :=
  match surroundings.config line.config with
  | .error failure => surroundings.ending (.failed "" failure)
  | .ok config =>
    match Request.new line.kind line.options surroundings.random with
    | .error error => surroundings.ending (.failed "" ⟨error.message, error.causes⟩)
    | .ok request => makeRequested surroundings (line.program.getD config.make.program) request

def makeGame (surroundings : Surroundings π) (arguments : List String) : Aftermath π :=
  match MakeLine.read surroundings arguments with
  | .error stop => surroundings.ending (surroundings.stopped MakeLine.tool stop)
  | .ok line => line.run surroundings

end TextQuest.CommandLine
