import TextQuest.Decimal.Single
import TextQuest.Text.Reader

namespace TextQuest.Ron
open Text

def baseDigits : List Char → Nat × List Char
  | '0' :: 'x' :: rest => (16, rest)
  | '0' :: 'b' :: rest => (2, rest)
  | '0' :: 'o' :: rest => (8, rest)
  | rest => (10, rest)

def digitsValue? (base : Nat) (digits : List Char) : Option Nat :=
  digits.foldlM (fun value c =>
    if c = '_' then some value
    else match digit? c with
      | some digit => if digit < base then some (base * value + digit) else none
      | none => none) 0

def natural? (text : List Char) : Option Nat :=
  let (base, digits) := baseDigits text
  match digits with
  | [] => none
  | first :: _ => if first = '_' then none else digitsValue? base digits

def signedWords : List String := ["+inf", "-inf", "+NaN", "-NaN"]

def isNumber (text : List Char) : Bool :=
  (Decimal.Numeral.ofChars? text).isSome || signedWords.contains (String.ofList text) ||
    match text with
    | '+' :: rest => (natural? rest).any (· < Nat.pow 2 63)
    | '-' :: rest => (natural? rest).any (· ≤ Nat.pow 2 63)
    | rest => (natural? rest).any (· < Nat.pow 2 64)

def single? (text : List Char) : Option Float32 :=
  if text = "inf".toList ∨ text = "+inf".toList then some (Float32.ofBits 0x7f800000)
  else if text = "-inf".toList then some (Float32.ofBits 0xff800000)
  else if text = "NaN".toList ∨ text = "+NaN".toList ∨ text = "-NaN".toList then
    some (Float32.ofBits 0x7fc00000)
  else (Decimal.Numeral.ofChars? text).map Decimal.Numeral.toSingle

end TextQuest.Ron
