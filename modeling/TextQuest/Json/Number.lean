import TextQuest.Decimal.Double
import TextQuest.Decimal.Shortest
import TextQuest.Json.Reader

/-!
Numbers as they are written in JSON, and what they are. A whole number of at most 64 bits without point
and exponent is kept exactly; any other is a number in double precision, and so is minus zero.
-/
namespace TextQuest.Json

structure Numeral where
  negative : Bool
  whole : List Char
  fraction : List Char
  mark : List Char
  exponent : List Char

def Numeral.text (numeral : Numeral) : String :=
  String.ofList ((if numeral.negative then ['-'] else []) ++ numeral.whole ++
    (if numeral.fraction = [] then [] else '.' :: numeral.fraction) ++ numeral.mark ++
    numeral.exponent)

inductive Number
  | whole (n : Int)
  | double (x : Float)

def Number.found : Number → Found
  | whole n => .whole n
  | double x => .double (Decimal.shortestDouble x)

/-- The number that was written. If it is out of range, says how many of its digits were not needed to
see that. -/
def Numeral.number (numeral : Numeral) : Except Nat Number :=
  let (significand, taken) := Decimal.appendDigits (Nat.pow 2 64) 0 numeral.whole
  let signed (x : Float) : Number := .double (if numeral.negative then -x else x)
  if numeral.fraction = [] ∧ numeral.mark = [] ∧ taken = numeral.whole.length ∧
      (numeral.negative → 0 < significand ∧ significand ≤ Nat.pow 2 63) then
    .ok (.whole (if numeral.negative then -significand else significand))
  else
    let (significand, further) := Decimal.appendDigits (Nat.pow 2 64) significand numeral.fraction
    let place : Int := (numeral.whole.length - taken : Nat) - further
    let isBelow := numeral.mark.contains '-'
    match Decimal.pastBound? (Nat.pow 2 31 - 1) 0 numeral.exponent with
    | some unneeded => if significand = 0 ∨ isBelow then .ok (signed 0) else .error unneeded
    | none =>
      let exponent := Decimal.value numeral.exponent
      match Decimal.double? significand (if isBelow then place - exponent else place + exponent) with
      | some x => .ok (signed x)
      | none => .error 0

def digits (atEnd : Fault) : Reader (List Char) := fun s =>
  match s.takeWhile Char.isDigit with
  | [] => breakWithin s (if s.isEmpty then atEnd else .malformedNumber)
  | found => .ok (found, s.dropWhile Char.isDigit)

def wholeDigits (atEnd : Fault) : Reader (List Char)
  | '0' :: c :: rest =>
    if c.isDigit then breakWithin (c :: rest) .malformedNumber else .ok (['0'], c :: rest)
  | s => digits atEnd s

def fraction (atEnd : Fault) : Reader (List Char)
  | '.' :: rest => digits atEnd rest
  | s => .ok ([], s)

def exponentMark : List Char → List Char × List Char
  | [] => ([], [])
  | c :: rest =>
    if c = 'e' ∨ c = 'E' then
      match rest with
      | '+' :: rest => ([c, '+'], rest)
      | '-' :: rest => ([c, '-'], rest)
      | rest => ([c], rest)
    else ([], c :: rest)

def numeral (atEnd : Fault) : Reader Numeral := fun s => do
  let (negative, s) := match s with
    | '-' :: rest => (true, rest)
    | s => (false, s)
  let (whole, s) ← wholeDigits atEnd s
  let (fraction, s) ← fraction atEnd s
  let (mark, s) := exponentMark s
  if mark = [] then return (⟨negative, whole, fraction, [], []⟩, s)
  let (exponent, s) ← digits atEnd s
  return (⟨negative, whole, fraction, mark, exponent⟩, s)

def number : Reader (Numeral × Number) := fun s => do
  let (written, rest) ← numeral .valueUnfinished s
  match written.number with
  | .ok found => return ((written, found), rest)
  | .error unneeded => .error (.placed (byteCount rest + unneeded) .numberOutOfRange)

def beginsNumber (c : Char) : Bool := c == '-' || c.isDigit

end TextQuest.Json
