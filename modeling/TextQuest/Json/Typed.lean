import TextQuest.Json.Bracket
import TextQuest.Json.Number

/-!
Reading values of a known type. A value of another type is read to its end, if it has no brackets, before
it is refused.
-/
namespace TextQuest.Json

def wrongType {α : Type} (wanted : String) (s : List Char) : Except Break α :=
  let refuse (found : Found) (rest : List Char) : Except Break α :=
    breakBefore rest (.wrongType found wanted)
  match s with
  | [] => breakWithin [] .valueUnfinished
  | 'n' :: rest => do refuse .null (← word "ull".toList rest)
  | 't' :: rest => do refuse (.bool true) (← word "rue".toList rest)
  | 'f' :: rest => do refuse (.bool false) (← word "alse".toList rest)
  | '"' :: rest => do
    let (found, rest) ← textAfterQuote rest
    refuse (.text found) rest
  | '[' :: rest => refuse .list ('[' :: rest)
  | '{' :: rest => refuse .object ('{' :: rest)
  | c :: rest =>
    if beginsNumber c then do
      let ((_, found), rest) ← number (c :: rest)
      refuse found.found rest
    else breakWithin (c :: rest) .valueMissing

def bool : Reader Bool := fun s =>
  match skip s with
  | 't' :: rest => do return (true, ← word "rue".toList rest)
  | 'f' :: rest => do return (false, ← word "alse".toList rest)
  | s => wrongType "a boolean" s

def text : Reader String := fun s =>
  match skip s with
  | '"' :: rest => textAfterQuote rest
  | s => wrongType "a string" s

def whole (kind : String) (low high : Int) : Reader Int := fun s =>
  match skip s with
  | c :: rest =>
    if beginsNumber c then do
      let ((_, found), rest) ← number (c :: rest)
      match found with
      | .whole n =>
        if low ≤ n ∧ n ≤ high then return (n, rest) else breakBefore rest (.wrongNumber n kind)
      | found => breakBefore rest (.wrongType found.found kind)
    else wrongType kind (c :: rest)
  | [] => wrongType kind []

def int32 : Reader Int := whole "i32" (-Nat.pow 2 31) (Nat.pow 2 31 - 1)
def int64 : Reader Int := whole "i64" (-Nat.pow 2 63) (Nat.pow 2 63 - 1)
def nat32 : Reader Nat := fun s => do
  let (n, rest) ← whole "u32" 0 (Nat.pow 2 32 - 1) s
  return (n.toNat, rest)

def option {α : Type} (content : Reader α) : Reader (Option α) := fun s =>
  match skip s with
  | 'n' :: rest => do return (none, ← word "ull".toList rest)
  | s => do
    let (found, rest) ← content s
    return (some found, rest)

def list {α : Type} (room : Nat) (item : Reader α) : Reader (List α) := fun s =>
  match skip s with
  | '[' :: rest => listAfterBracket room item rest
  | s => wrongType "a sequence" s

/-- One of some words. It may also stand as the name of the one member of an object, which is nothing
then. -/
def wordOf {α : Type} (known : List (String × α)) : Reader α := fun s =>
  let named : Reader α := fun s =>
    match skip s with
    | '"' :: rest => do
      let (name, rest) ← textAfterQuote rest
      match known.lookup name with
      | some found => return (found, rest)
      | none => breakBefore rest (.unknownWordOf name (known.map (·.1)))
    | s => wrongType "variant identifier" s
  match skip s with
  | [] => breakWithin [] .valueUnfinished
  | '"' :: rest => named ('"' :: rest)
  | '{' :: rest => do
    let (found, s) ← named rest
    let s ← match skip (← colon s) with
      | 'n' :: rest => word "ull".toList rest
      | s => wrongType "unit" s
    match skip s with
    | [] => breakBefore [] .objectUnclosed
    | '}' :: rest => return (found, rest)
    | s => breakBefore s .valueMissing
  | s => breakWithin s .valueMissing

end TextQuest.Json
