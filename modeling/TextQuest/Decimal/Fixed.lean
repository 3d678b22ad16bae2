import TextQuest.Decimal.Binary

namespace TextQuest.Decimal

def padded (filler : Char) (width : Nat) (text : String) : String :=
  String.ofList (List.replicate (width - text.length) filler) ++ text

def withPoint (places digits : Nat) : String :=
  let text := padded '0' (places + 1) (toString digits)
  if places = 0 then text
  else
    let whole := text.length - places
    String.ofList (text.toList.take whole ++ '.' :: text.toList.drop whole)

/-- A number with `places` decimal places; halves go to the even neighbour, and a negative sign stays
even where only zeros are left. -/
def fixed (places : Nat) : Binary → String
  | .nan => "NaN"
  | .infinite negative => if negative then "-inf" else "inf"
  | .finite negative significand exponent =>
    let (num, den) := scaled (significand * Nat.pow 10 places) 2 exponent
    (if negative then "-" else "") ++ withPoint places (roundDiv num den)

end TextQuest.Decimal
