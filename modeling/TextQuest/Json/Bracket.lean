import TextQuest.Json.Quoted

/-!
What stands between brackets: items or named members, with commas between them. A closing bracket is
looked at first and taken later, so that a fault in between has its place before it.
-/
namespace TextQuest.Json

def nextItem (first : Bool) (s : List Char) : Except Break (Option (List Char)) :=
  match first, skip s with
  | _, [] => breakWithin [] .listUnclosed
  | _, ']' :: _ => .ok none
  | true, s => .ok (some s)
  | false, ',' :: rest =>
    match skip rest with
    | [] => breakWithin [] .valueUnfinished
    | ']' :: rest => breakWithin (']' :: rest) .trailingComma
    | s => .ok (some s)
  | false, s => breakWithin s .itemUnseparated

def listEnd (s : List Char) : Except Break (List Char) :=
  match skip s with
  | [] => breakWithin [] .listUnclosed
  | ']' :: rest => .ok rest
  | ',' :: rest =>
    match skip rest with
    | ']' :: rest => breakWithin (']' :: rest) .trailingComma
    | s => breakWithin s .trailingText
  | s => breakWithin s .trailingText

def pastListEnd (s : List Char) : List Char :=
  match skip s with
  | ']' :: rest => rest
  | ',' :: rest => skip rest
  | s => s

def nextMember (first : Bool) (s : List Char) : Except Break (Option (List Char)) :=
  match first, skip s with
  | _, [] => breakWithin [] .objectUnclosed
  | _, '}' :: _ => .ok none
  | true, '"' :: rest => .ok (some rest)
  | true, s => breakWithin s .nameMissing
  | false, ',' :: rest =>
    match skip rest with
    | [] => breakWithin [] .valueUnfinished
    | '"' :: rest => .ok (some rest)
    | '}' :: rest => breakWithin ('}' :: rest) .trailingComma
    | s => breakWithin s .nameMissing
  | false, s => breakWithin s .memberUnseparated

def objectEnd (s : List Char) : Except Break (List Char) :=
  match skip s with
  | [] => breakWithin [] .objectUnclosed
  | '}' :: rest => .ok rest
  | ',' :: rest => breakWithin (',' :: rest) .trailingComma
  | s => breakWithin s .trailingText

def pastObjectEnd (s : List Char) : List Char :=
  match skip s with
  | '}' :: rest => rest
  | s => s

def itemsFrom {α : Type} (item : Reader α) : Nat → Bool → List α → Reader (List α)
  | 0, _, _, s => breakBefore s .listUnclosed
  | room + 1, first, seen, s =>
    match nextItem first s with
    | .error found => .error found
    | .ok none => .ok (seen.reverse, s)
    | .ok (some s) =>
      match item s with
      | .error found => .error found
      | .ok (found, s) => itemsFrom item room false (found :: seen) s

def listAfterBracket {α : Type} (room : Nat) (item : Reader α) : Reader (List α) := fun s =>
  placeBy pastListEnd do
    let (found, s) ← itemsFrom item room true [] s
    return (found, ← listEnd s)

def membersFrom {α : Type} (value : Reader α) : Nat → Bool → List (String × α) →
    Reader (List (String × α))
  | 0, _, _, s => breakBefore s .objectUnclosed
  | room + 1, first, seen, s =>
    match nextMember first s with
    | .error found => .error found
    | .ok none => .ok (seen.reverse, s)
    | .ok (some s) =>
      let member := do
        let (name, s) ← textAfterQuote s
        let (found, s) ← value (← colon s)
        return ((name, found), s)
      match member with
      | .error found => .error found
      | .ok (found, s) => membersFrom value room false (found :: seen) s

def objectAfterBracket {α : Type} (room : Nat) (value : Reader α) : Reader (List (String × α)) :=
  fun s => placeBy pastObjectEnd do
    let (found, s) ← membersFrom value room true [] s
    return (found, ← objectEnd s)

end TextQuest.Json
