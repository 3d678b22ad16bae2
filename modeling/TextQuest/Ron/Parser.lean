import TextQuest.Ron.Shape
import TextQuest.Ron.Unasked

namespace TextQuest.Ron
open Text

def recordName (name : String) (s : List Char) : Option (List Char) :=
  if goesOn s then (word s).bind fun found => if found.1 = name then some found.2 else none
  else some s

structure Readers where
  value : Shape → Reader Value
  pass : Reader Unit

def field (fields : List (String × Shape)) (readers : Readers) :
    Reader (Option (String × Value)) := fun s =>
  let value (name : String) : Reader (Option Value) := fun s =>
    match fields.lookup name with
    | some shape => (readers.value shape s).map fun found => (some found.1, found.2)
    | none => (readers.pass s).map fun found => (none, found.2)
  (entry word value s).map fun ((name, found), rest) => (found.map (name, ·), rest)

def fields (asked : List (String × Shape)) (deeper : Deeper Readers) :
    Reader (List (String × Value)) := fun s => do
  let (found, rest) ← deeper.container (field asked) ')' s
  let known := found.filterMap id
  if (known.map (·.1)).Nodup then return (known, rest) else none

/-- Takes an option. Where the document allows it, what it holds may stand by itself. -/
def option (bare : Bool) (within : Option (Reader Value)) : Reader Value := fun s =>
  match expect "None".toList s, expect "Some".toList s with
  | some rest, _ => some (.absent, rest)
  | none, some rest =>
    within.bind fun within => (content bare within rest).map fun found => (.present found.1, found.2)
  | none, none =>
    if bare then within.bind fun within => (within s).map fun found => (.present found.1, found.2)
    else none

def valueOf (bare : Bool) (deeper : Deeper Readers) : Shape → Reader Value
  | .text, s => (text s).map fun found => (.text found.1, found.2)
  | .natural bound, s => (natural bound s).map fun found => (.natural found.1, found.2)
  | .single, s => (single s).map fun found => (.single found.1, found.2)
  | .variant, s => do
    let _ ← deeper.within
    (word s).map fun found => (.variant found.1, found.2)
  | .option shape, s => option bare (deeper.within.map (·.value shape)) s
  | .list shape, s => do
    let rest ← expect ['['] s
    (deeper.container (·.value shape) ']' rest).map fun found => (.list found.1, found.2)
  | .record name asked, s => do
    let rest ← expect ['('] (← skip (← recordName name s))
    (fields asked deeper rest).map fun found => (.record found.1, found.2)

def value (bare : Bool) : Nat → Shape → Reader Value
  | 0 => valueOf bare {}
  | 1 => valueOf bare { within := some ⟨value bare 0, pass bare 0⟩ }
  | depth + 2 =>
    valueOf bare {
      within := some ⟨value bare (depth + 1), pass bare (depth + 1)⟩
      item := some ⟨value bare depth, pass bare depth⟩ }

inductive Extension
  | unwrapNewtypes
  | implicitSome
  | unwrapVariantNewtypes
  deriving DecidableEq

def Extension.ofWord? : String → Option Extension
  | "unwrap_newtypes" => some unwrapNewtypes
  | "implicit_some" => some implicitSome
  | "unwrap_variant_newtypes" => some unwrapVariantNewtypes
  | _ => none

def extensionNames : Nat → Reader (List Extension)
  | 0, _ => none
  | room + 1, s => do
    let (name, s) ← word s
    let extension ← Extension.ofWord? name
    let s ← skip s
    match s with
    | ',' :: s =>
      let s ← skip s
      if goesOn s then
        let (more, s) ← extensionNames room s
        return (extension :: more, s)
      else return ([extension], s)
    | s => return ([extension], s)

def attributes : Nat → Reader (List Extension)
  | 0, _ => none
  | room + 1, s => do
    match s with
    | '#' :: s =>
      let s ← skip s
      let s ← skip (← expect ['!'] s)
      let s ← skip (← expect ['['] s)
      let s ← skip (← expect "enable".toList s)
      let s ← skip (← expect ['('] s)
      let (extensions, s) ← extensionNames s.length s
      let s ← skip (← expect [')'] s)
      let s ← skip (← expect [']'] s)
      let (more, s) ← attributes room s
      return (extensions ++ more, s)
    | s => return ([], s)

def nestingLimit : Nat := 128

def parse? (shape : Shape) (s : List Char) : Option Value := do
  let s ← skip s
  let (extensions, s) ← attributes (s.length + 1) s
  let (found, s) ← value (extensions.contains .implicitSome) nestingLimit shape s
  if (← skip s).isEmpty then return found else none

end TextQuest.Ron
