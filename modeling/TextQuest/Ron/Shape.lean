/-!
What RON documents hold. A document is read as a value of a shape that is known beforehand; what the
shape does not ask for leaves no trace in the value.
-/
namespace TextQuest.Ron

inductive Shape
  | text
  | natural (bound : Nat)
  | single
  | variant
  | option (content : Shape)
  | list (item : Shape)
  /-- Named fields. The record may bear its name, every field may be missing, and other fields may be
  there as well. -/
  | record (name : String) (fields : List (String × Shape))

inductive Value
  | text (text : String)
  | natural (n : Nat)
  | single (x : Float32)
  | variant (word : String)
  | absent
  | present (value : Value)
  | list (items : List Value)
  | record (fields : List (String × Value))

def Shape.nat32 : Shape := natural (Nat.pow 2 32)
def Shape.nat64 : Shape := natural (Nat.pow 2 64)

end TextQuest.Ron
