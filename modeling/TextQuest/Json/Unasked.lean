import TextQuest.Json.Bracket
import TextQuest.Json.Number

/-!
Passing over values that nobody asked for. They may be nested without a limit, so the brackets that are
open around a place are kept in a list, the innermost first.
-/
namespace TextQuest.Json

inductive Bracket
  | list
  | object
  deriving DecidableEq

namespace Bracket

def close : Bracket → Char
  | list => ']'
  | object => '}'

def unclosed : Bracket → Fault
  | list => .listUnclosed
  | object => .objectUnclosed

def unseparated : Bracket → Fault
  | list => .itemUnseparated
  | object => .memberUnseparated

def lead : Bracket → List Char → Except Break (List Char)
  | list, s => .ok s
  | object, s =>
    match skip s with
    | [] => breakWithin [] .objectUnclosed
    | '"' :: rest => do colon (← passText rest)
    | s => breakWithin s .nameMissing

end Bracket

/-- After a value: closes brackets up to the next comma. Gives the brackets that are still open. -/
def passClosing : List Bracket → List Char → Except Break (List Bracket × List Char)
  | [], s => .ok ([], s)
  | bracket :: around, s =>
    match skip s with
    | [] => breakWithin [] bracket.unclosed
    | c :: rest =>
      if c = ',' then .ok (bracket :: around, rest)
      else if c = bracket.close then passClosing around rest
      else breakWithin (c :: rest) bracket.unseparated

def passPlain : List Char → Except Break (List Char)
  | [] => breakWithin [] .valueUnfinished
  | 'n' :: rest => word "ull".toList rest
  | 't' :: rest => word "rue".toList rest
  | 'f' :: rest => word "alse".toList rest
  | '"' :: rest => passText rest
  | c :: rest =>
    if beginsNumber c then (numeral .malformedNumber (c :: rest)).map (·.2)
    else breakWithin (c :: rest) .valueMissing

def passBeginning (opened : List Bracket) (s : List Char) :
    Except Break (List Bracket × List Char) :=
  let enter (bracket : Bracket) (rest : List Char) : Except Break (List Bracket × List Char) :=
    match skip rest with
    | [] => breakWithin [] bracket.unclosed
    | c :: rest =>
      if c = bracket.close then passClosing opened rest else .ok (bracket :: opened, c :: rest)
  match skip s with
  | '[' :: rest => enter .list rest
  | '{' :: rest => enter .object rest
  | s => do passClosing opened (← passPlain s)

def passFrom : Nat → List Bracket → List Char → Except Break (List Char)
  | 0, _, s => breakBefore s .valueUnfinished
  | room + 1, opened, s =>
    match passBeginning opened s with
    | .error found => .error found
    | .ok ([], s) => .ok s
    | .ok (bracket :: around, s) =>
      match bracket.lead s with
      | .error found => .error found
      | .ok s => passFrom room (bracket :: around) s

def pass (room : Nat) (s : List Char) : Except Break (List Char) := passFrom room [] s

end TextQuest.Json
