import TextQuest.Ron.Lexeme

/-!
Passing over values that nobody asked for. Such a value may be anything that RON can hold. The readers
recurse on how deep values may still be nested: a container takes one level, each of its items another,
and so does whatever an option holds.
-/
namespace TextQuest.Ron
open Text

/-- Takes items up to a closing bracket, at most as many as `room`. A comma has to stand between two
items and may follow the last one; `ready` tells that none is missing. -/
def itemsUpTo {α : Type} (item : Reader α) (close : Char) : Nat → Bool → List α → Reader (List α)
  | 0, _, _, _ => none
  | room + 1, ready, seen, s => do
    let s ← skip s
    match s with
    | [] => none
    | c :: rest =>
      if c = close then some (seen.reverse, rest)
      else if ready then
        let (found, rest) ← item s
        let rest ← skip rest
        match rest with
        | ',' :: rest => itemsUpTo item close room true (found :: seen) rest
        | _ => itemsUpTo item close room false (found :: seen) rest
      else none

def bracketed {α : Type} (item : Reader α) (close : Char) : Reader (List α) := fun s =>
  itemsUpTo item close (s.length + 1) true [] s

def entry {α β : Type} (key : Reader α) (value : α → Reader β) : Reader (α × β) := fun s => do
  let (k, s) ← key s
  let s ← skip s
  match s with
  | ':' :: s =>
    let (v, s) ← value k (← skip s)
    return ((k, v), s)
  | _ => none

structure Deeper (ρ : Type) where
  within : Option ρ := none
  item : Option ρ := none

def Deeper.container {ρ α : Type} (deeper : Deeper ρ) (item : ρ → Reader α) (close : Char) :
    Reader (List α) := fun s => do
  let _ ← deeper.within
  bracketed (fun s => deeper.item.bind (item · s)) close s

/-- Takes what an option holds, after the word `Some`: something in brackets, or, where the document
allows it, something without brackets. -/
def content {α : Type} (bare : Bool) (within : Reader α) : Reader α := fun s => do
  match ← skip s with
  | '(' :: s =>
    let (found, s) ← within (← skip s)
    let s ← skip s
    let s ← match s with
      | ',' :: s => skip s
      | s => some s
    match s with
    | ')' :: s => return (found, s)
    | _ => none
  | s => if bare then within s else none

def valueWords : List (List Char) :=
  ["true".toList, "false".toList, "None".toList, "inf".toList, "-inf".toList, "NaN".toList]

def startsRecord (s : List Char) : Bool :=
  match skip s with
  | none => false
  | some s =>
    match word s with
    | none => false
    | some (_, s) => ((skip s).bind List.head?) == some ':'

def passBraced (deeper : Deeper (Reader Unit)) : Reader Unit := fun s =>
  let item (pass : Reader Unit) : Reader Unit :=
    if startsRecord s then fun s => (entry word (fun _ => pass) s).map fun found => ((), found.2)
    else pass
  (deeper.container item ')' s).map fun found => ((), found.2)

def passOf (bare : Bool) (deeper : Deeper (Reader Unit)) : Reader Unit := fun s =>
  match valueWords.findSome? (keyword · s), keyword "Some".toList s, word s, s with
  | some rest, _, _, _ => some ((), rest)
  | none, some rest, _, _ => deeper.within.bind (content bare · rest)
  | none, none, some (_, rest), _ => do
    match ← skip rest with
    | '(' :: rest => passBraced deeper rest
    | rest => return ((), rest)
  | none, none, none, '(' :: ')' :: rest => some ((), rest)
  | none, none, none, '(' :: rest => passBraced deeper rest
  | none, none, none, '[' :: rest =>
    (deeper.container id ']' rest).map fun found => ((), found.2)
  | none, none, none, '{' :: rest =>
    (deeper.container (fun pass => entry pass fun _ => pass) '}' rest).map fun found => ((), found.2)
  | none, none, none, '\'' :: _ => (char s).map fun found => ((), found.2)
  | none, none, none, c :: _ =>
    if c.isDigit || c == '+' || c == '-' || c == '.' then anyNumber s
    else (text s).map fun found => ((), found.2)
  | none, none, none, [] => none

def pass (bare : Bool) : Nat → Reader Unit
  | 0 => passOf bare {}
  | 1 => passOf bare { within := some (pass bare 0) }
  | depth + 2 =>
    passOf bare { within := some (pass bare (depth + 1)), item := some (pass bare depth) }

end TextQuest.Ron
