import TextQuest.Generation.Challenge
import TextQuest.Random.Draw
import TextQuest.Text.Blank

namespace TextQuest.Generation

structure Sizes where
  rooms : Nat := 5
  objects : Nat := 10
  questLength : Nat := 5
  questBreadth : Nat := 3
  deriving DecidableEq

inductive Kind
  | custom (sizes : Sizes)
  | challenge (asked : Challenge)
  deriving DecidableEq

structure Options where
  output : Option String := none
  seed : Option UInt64 := none
  theme : Option String := none
  view : Bool := false
  verbose : Bool := false
  includeAdjectives : Bool := false
  blendDescriptions : Bool := false
  ambiguousInstructions : Bool := false
  onlyLastAction : Bool := false
  blendInstructions : Bool := false
  deriving DecidableEq

structure Request where
  kind : Kind
  options : Options
  seed : UInt64
  deriving DecidableEq

def Sizes.validate (sizes : Sizes) : Except MakeError Unit :=
  match [("world-size", sizes.rooms), ("quest-length", sizes.questLength),
    ("quest-breadth", sizes.questBreadth)].find? (·.2 = 0) with
  | some (option, _) => .error (.invalidArgument option "must be at least 1")
  | none => .ok ()

def Kind.validate : Kind → Except MakeError Unit
  | custom sizes => sizes.validate
  | challenge _ => .ok ()

def Options.validate (options : Options) : Except MakeError Unit :=
  match options.theme with
  | some theme =>
    if Text.trim theme = "" then .error (.invalidArgument "theme" "must not be empty") else .ok ()
  | none => .ok ()

def seedBound : Nat := 65635

namespace Request

def chooseSeed (options : Options) (random : Random.Generator) : UInt64 :=
  options.seed.getD (UInt64.ofNat (random.below seedBound).1)

def new (kind : Kind) (options : Options) (random : Random.Generator) :
    Except MakeError Request := do
  kind.validate
  options.validate
  return ⟨kind, options, chooseSeed options random⟩

end Request

def Kind.arguments : Kind → List String
  | custom sizes =>
    ["custom", "--world-size", toString sizes.rooms, "--nb-objects", toString sizes.objects,
      "--quest-length", toString sizes.questLength, "--quest-breadth", toString sizes.questBreadth]
  | challenge asked => ["challenge", asked.token]

def Options.switches (options : Options) : List (String × Bool) :=
  [("--view", options.view), ("--verbose", options.verbose),
    ("--include-adj", options.includeAdjectives),
    ("--blend-descriptions", options.blendDescriptions),
    ("--ambiguous-instructions", options.ambiguousInstructions),
    ("--only-last-action", options.onlyLastAction),
    ("--blend-instructions", options.blendInstructions)]

def valued (option : String) : Option String → List String
  | some value => [option, value]
  | none => []

def Request.arguments (request : Request) : List String :=
  request.kind.arguments ++ valued "--output" request.options.output ++
    ["--seed", toString request.seed] ++ valued "--theme" request.options.theme ++
    (request.options.switches.filter (·.2)).map (·.1)

end TextQuest.Generation
