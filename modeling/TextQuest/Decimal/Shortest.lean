import TextQuest.Decimal.Fixed

/-!
The shortest decimal text of a number. Among the decimals that round to the number the shortest is
taken, and of several such the nearest. In single precision it is written without an exponent, and in
double precision only where the first digit stands from the fifth place behind the point to the
sixteenth before it.
-/
namespace TextQuest.Decimal

/-- The numbers that round to a significand and an exponent: a multiple of `2 ^ exponent` and the ends
of its interval, which belong to it when `closed` holds. -/
structure Rounding where
  low : Nat
  value : Nat
  high : Nat
  exponent : Int
  closed : Bool
  evenTies : Bool

/-- In units of a quarter of the last place. Below a power of two the numbers lie twice as dense, unless
the exponent is the least one already. -/
def Rounding.of (fractionBits : Nat) (least : Int) (evenTies : Bool) (significand : Nat)
    (exponent : Int) : Rounding where
  low :=
    if significand = Nat.pow 2 fractionBits ∧ least < exponent then 4 * significand - 1
    else 4 * significand - 2
  value := 4 * significand
  high := 4 * significand + 2
  exponent := exponent - 2
  closed := significand % 2 = 0
  evenTies

def compareDecimal (a : Nat) (exponent : Int) (b : Nat) (place : Int) : Ordering :=
  let (binaryNum, binaryDen) := scaled a 2 exponent
  let (decimalNum, decimalDen) := scaled b 10 place
  compare (binaryNum * decimalDen) (decimalNum * binaryDen)

def Rounding.contains (r : Rounding) (digits : Nat) (place : Int) : Bool :=
  let above := compareDecimal r.low r.exponent digits place
  let below := compareDecimal r.high r.exponent digits place
  (above = .lt || (r.closed && above = .eq)) && (below = .gt || (r.closed && below = .eq))

def Rounding.digitsAt? (r : Rounding) (place : Int) : Option Nat :=
  let (num, den) := scaled r.value 2 r.exponent
  let (unit, unitDen) := scaled 1 10 place
  let down := num * unitDen / (den * unit)
  match r.contains down place, r.contains (down + 1) place with
  | false, false => none
  | true, false => some down
  | false, true => some (down + 1)
  | true, true =>
    match compareDecimal (2 * r.value) r.exponent (2 * down + 1) place with
    | .lt => some down
    | .gt => some (down + 1)
    | .eq => some (if r.evenTies then down + down % 2 else down + 1)

def Rounding.search (r : Rounding) : Nat → Int → Nat × Int
  | 0, place => (0, place)
  | tries + 1, place =>
    match r.digitsAt? place with
    | some digits => (digits, place)
    | none => r.search tries (place - 1)

def placeAbove (significand : Nat) (exponent : Int) : Int :=
  (significand.log2 + 1 + exponent) * 30103 / 100000 + 1

def positional (digits : Nat) (place : Int) : String :=
  if 0 ≤ place then toString (digits * Nat.pow 10 place.toNat) ++ ".0"
  else
    let behind := (-place).toNat
    let text := (toString digits).toList
    let text := List.replicate (behind + 1 - text.length) '0' ++ text
    String.ofList (text.take (text.length - behind) ++ '.' :: text.drop (text.length - behind))

def Rounding.shortest (r : Rounding) : Nat × Int :=
  if r.value = 0 then (0, 0) else r.search 24 (placeAbove r.value r.exponent)

def scientific (digits : Nat) (place : Int) : String :=
  let text := (toString digits).toList
  let top := place + (text.length - 1 : Nat)
  String.ofList (text.take 1 ++ (if text.length = 1 then [] else '.' :: text.drop 1)) ++
    (if 0 ≤ top then "e+" else "e-") ++ toString top.natAbs

def withShortest (layout : Nat → Int → String) (rounding : Nat → Int → Rounding) : Binary → String
  | .nan => "NaN"
  | .infinite negative => if negative then "-inf" else "inf"
  | .finite negative significand exponent =>
    let (digits, place) := (rounding significand exponent).shortest
    (if negative then "-" else "") ++ layout digits place

def shortestSingle (x : Float32) : String :=
  withShortest positional (.of 23 (-149) false) (.ofSingle x)

def shortestDouble (x : Float) : String :=
  let layout (digits : Nat) (place : Int) : String :=
    let top := place + ((toString digits).length - 1 : Nat)
    if -5 ≤ top ∧ top < 16 then positional digits place else scientific digits place
  withShortest layout (.of 52 (-1074) true) (.ofFloat x)

end TextQuest.Decimal
