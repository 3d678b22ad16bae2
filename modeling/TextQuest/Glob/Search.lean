import TextQuest.FileTree
import TextQuest.Glob.Pattern

/-!
The games that a pattern selects: all files whose paths match it, in the order of their steps. Paths
with the same steps, which differ in dots that say nothing, stay in the order in which they were found.
-/
namespace TextQuest.Glob
open FileTree (Place)

structure Unlisted where
  path : String
  error : FileError
  deriving DecidableEq

def Unlisted.message (unlisted : Unlisted) : String :=
  "attempting to read `" ++ unlisted.path ++ "` resulted in an error: " ++ unlisted.error.message

inductive SearchError
  | malformed (error : PatternError)
  | unlisted (found : Unlisted)
  deriving DecidableEq

structure Found where
  shown : String
  place : Place
  isDirectory : Bool

namespace Found

def ofPath (shown : String) (place : Place) : Found :=
  ⟨shown, place, place.isDirectory && (FileTree.checkPath shown).isOk⟩

def ofEntry (shown : String) (place : Place) : Found := ⟨shown, place, place.isDirectory⟩

def isFile (found : Found) : Bool := !found.place.isDirectory && (FileTree.checkPath found.shown).isOk

def opened? (found : Found) : Except Unlisted (Option (List String)) :=
  if !found.isDirectory then .ok none
  else match FileTree.checkPath found.shown, found.place with
    | .error error, _ => .error ⟨found.shown, error⟩
    | .ok (), .directory names => .ok (some names)
    | .ok (), _ => .ok none

end Found

def isHere (shown : String) : Bool := Path.components shown = [.current]

def extend (shown name : String) : String := if isHere shown then name else Path.join shown name

def stepTo (tree : FileTree) (start : Found) (name : String) : Option Found :=
  let shown := extend start.shown name
  match tree.follow start.place name with
  | .ok place =>
    let reached := if name = "." ∨ name = ".." then start.isDirectory
      else (FileTree.checkPath shown).isOk
    if reached then some (.ofPath shown place) else none
  | .error _ => none

/-- Everything directly inside a match whose name satisfies the tokens. The directory above and the
directory itself come first, and take part only where the tokens start with a dot. -/
def stepMatching (tree : FileTree) (start : Found) (ts : List Token) :
    Except Unlisted (List Found) := do
  match ← start.opened? with
  | none => return []
  | some names =>
    let special := if ts.head? = some (.char '.') then
        ["..", "."].filterMap fun name =>
          if matchesName ts name.toList then
            (tree.follow start.place name).toOption.map (.ofPath (Path.join start.shown name))
          else none
      else []
    let inside := (tree.children names).filterMap fun (name, place) =>
      if matchesName ts name.toList then some (.ofEntry (extend start.shown name) place) else none
    return special ++ inside

def below (tree : FileTree) (start : Found) : Except Unlisted (List (String × Found)) := do
  match ← start.opened? with
  | none => return []
  | some names =>
    return (tree.descendants names).filterMap fun (path, place) =>
      path.getLast?.map fun name => (name, .ofEntry (path.foldl extend start.shown) place)

/-- Follows the components of a pattern. One that stands for any directories is taken together with
the component after it, and looks into every directory on the way; at the end of a pattern it selects
the directories themselves. -/
def search (tree : FileTree) : List (List Token) → Found → Except Unlisted (List Found)
  | [], start => return [start]
  | [.recursive] :: [.recursive] :: rest, start => search tree ([.recursive] :: rest) start
  | [.recursive] :: ts :: rest, start => do
    let found ← (← below tree start).mapM fun (name, entry) => do
      let found ← if matchesName ts name.toList then search tree rest entry else pure []
      let _ ← entry.opened?
      return found
    return found.flatten
  | [[.recursive]], start => do
    let found ← (← below tree start).mapM fun (_, entry) => do
      return (← entry.opened?).toList.map fun _ => entry
    return found.flatten
  | ts :: rest, start => do
    let next ← match literal? ts with
      | some name => pure (stepTo tree start name).toList
      | none => stepMatching tree start ts
    return (← next.mapM (search tree rest)).flatten

def patternParts (pattern : String) : List String :=
  let parts := Path.parts (if Path.isAbsolute pattern then String.ofList pattern.toList.tail else pattern)
  if parts.getLast? = some "" then parts.dropLast else parts

def components (pattern : String) : Except PatternError (List (List Token)) := do
  let _ ← tokens pattern.toList
  (patternParts pattern).mapM fun part => tokens part.toList

def origin (pattern : String) : Found :=
  if Path.isAbsolute pattern then .ofPath "/" .above else .ofPath "." (.directory [])

def files (tree : FileTree) (pattern : String) : Except SearchError (List String) := do
  let parts ← (components pattern).mapError .malformed
  let found ← (search tree parts (origin pattern)).mapError .unlisted
  let selected := if pattern.toList.getLast? = some '/' then [] else found.filter (·.isFile)
  return Path.sorted (selected.map (·.shown))

end TextQuest.Glob
