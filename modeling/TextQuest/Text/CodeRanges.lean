namespace TextQuest.Text

abbrev CodeRanges := List (Nat × Nat)

def CodeRanges.contains : CodeRanges → Nat → Bool
  | [], _ => false
  | (low, high) :: rest, code => if code < low then false else code ≤ high || contains rest code

end TextQuest.Text
