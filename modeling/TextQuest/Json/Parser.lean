import TextQuest.Json.Bracket
import TextQuest.Json.Number
import TextQuest.Json.Value

namespace TextQuest.Json

def valueOf (room : Nat) (within : Option (Reader Value)) : Reader Value := fun s =>
  match skip s, within with
  | [], _ => breakWithin [] .valueUnfinished
  | 'n' :: rest, _ => do return (.null, ← word "ull".toList rest)
  | 't' :: rest, _ => do return (.bool true, ← word "rue".toList rest)
  | 'f' :: rest, _ => do return (.bool false, ← word "alse".toList rest)
  | '"' :: rest, _ => do
    let (found, rest) ← textAfterQuote rest
    return (.text found, rest)
  | '[' :: rest, some within => do
    let (found, rest) ← listAfterBracket room within rest
    return (.array found, rest)
  | '{' :: rest, some within => do
    let (found, rest) ← objectAfterBracket room within rest
    return (.object found, rest)
  | '[' :: rest, none => breakWithin ('[' :: rest) .nestedTooDeep
  | '{' :: rest, none => breakWithin ('{' :: rest) .nestedTooDeep
  | c :: rest, _ =>
    if beginsNumber c then do
      let ((written, _), rest) ← number (c :: rest)
      return (.number written.text, rest)
    else breakWithin (c :: rest) .valueMissing

def valueWithin (room : Nat) : Nat → Reader Value
  | 0 => valueOf room none
  | depth + 1 => valueOf room (some (valueWithin room depth))

def nestingLimit : Nat := 127

def value (room : Nat) : Reader Value := valueWithin room nestingLimit

end TextQuest.Json
