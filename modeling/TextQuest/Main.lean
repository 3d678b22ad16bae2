import TextQuest.CommandLine.Gym
import TextQuest.CommandLine.Make

/-!
The command line: the first argument names the tool, the others are for it. Files are read from and
written below the current directory; external programs are not run from here, and none counts as
installed.
-/
namespace TextQuest.CommandLine

def readTree : IO FileTree := do
  let here ← IO.currentDir
  let mut tree : FileTree := {}
  for path in ← here.walkDir do
    let names := path.components.drop here.components.length
    if ← path.isDir then tree := tree.addDirectory names
    else
      match ← (IO.FS.readBinFile path).toBaseIO with
      | .ok content => tree := tree.addFile names content
      | .error _ => pure ()
  return tree

def writeTree (before after : FileTree) : IO Unit := do
  let here ← IO.currentDir
  for (names, entry) in after.entries do
    if let .file content := entry then
      let same := match before.entry? names with
        | some (.file old) => old.data == content.data
        | _ => false
      unless same do IO.FS.writeBinFile (here / String.intercalate "/" names) content

def drawSeed : IO UInt64 := do
  return (← IO.getRandomBytes 8).toList.foldl (fun seed byte => seed * 256 + byte.toUInt64) 0

def readSurroundings : IO (Surroundings Empty) := do
  let known ← ["QUEST_GYM_CONFIG", "RUST_LOG", "TW_MAKE"].filterMapM fun name => do
    return (← IO.getEnv name).map (name, ·)
  return {
    tree := ← readTree
    environment := fun name => List.lookup name known
    program := { hear := fun _ absent => nomatch absent }
    engine := fun _ => .missing .notFound
    generator := fun _ => .missing .notFound
    random := .ofSeed (← drawSeed) }

def conclude (before : FileTree) (after : Aftermath Empty) : IO UInt32 := do
  writeTree before after.tree
  IO.print after.exit.output
  IO.eprint after.exit.complaint
  return (after.exit.status.getD 134).toUInt32

end TextQuest.CommandLine

open TextQuest.CommandLine in
def main (arguments : List String) : IO UInt32 := do
  let surroundings ← readSurroundings
  match arguments with
  | "quest-gym" :: rest => conclude surroundings.tree (questGym surroundings rest)
  | "make-game" :: rest => conclude surroundings.tree (makeGame surroundings rest)
  | _ =>
    IO.eprint (GymLine.tool.outer.usage ++ MakeLine.tool.outer.usage)
    return 2
