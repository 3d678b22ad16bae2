import TextQuest.Json.Fault
import TextQuest.Text.Reader
import TextQuest.Text.Utf8

/-!
Readers of JSON: functions that take a value off the front of a text, or break off at the first fault.
Loops over a document recurse on a number that is at least as large as its length, called `room`.
-/
namespace TextQuest.Json

inductive Break
  | placed (bytesLeft : Nat) (fault : Fault)
  /-- With something that was read but is not wanted. Its place is where the brackets around it were
  looked for, after it. -/
  | unplaced (rest : List Char) (fault : Fault)
  deriving DecidableEq

abbrev Reader (α : Type) : Type := List Char → Except Break (α × List Char)

def byteCount (s : List Char) : Nat := s.foldl (fun count c => count + c.utf8Size) 0

def breakBefore {α : Type} (rest : List Char) (fault : Fault) : Except Break α :=
  .error (.placed (byteCount rest) fault)

def breakWithin {α : Type} (rest : List Char) (fault : Fault) : Except Break α :=
  .error (.placed (byteCount rest - 1) fault)

def isSpace (c : Char) : Bool := c == ' ' || c == '\t' || c == '\r' || c == '\n'

def skip (s : List Char) : List Char := s.dropWhile isSpace

def word : List Char → List Char → Except Break (List Char)
  | [], rest => .ok rest
  | _ :: _, [] => breakBefore [] .valueUnfinished
  | c :: wanted, d :: rest => if c = d then word wanted rest else breakWithin (d :: rest) .unknownWord

def colon (s : List Char) : Except Break (List Char) :=
  match skip s with
  | [] => breakWithin [] .objectUnclosed
  | ':' :: rest => .ok rest
  | s => breakWithin s .colonMissing

def mapped {α β : Type} (reader : Reader α) (meaning : α → Except String β) : Reader β := fun s => do
  let (found, rest) ← reader s
  match meaning found with
  | .ok meant => return (meant, rest)
  | .error reason => .error (.unplaced rest (.refused reason))

def placeBy {α : Type} (close : List Char → List Char) : Except Break α → Except Break α
  | .error (.unplaced rest fault) => breakBefore (close rest) fault
  | answer => answer

def read {α : Type} (reader : Nat → Reader α) (document : List Char) : Except Complaint α :=
  let answer := do
    let (found, rest) ← reader (document.length + 1) document
    if (skip rest).isEmpty then return found else breakWithin (skip rest) .trailingText
  match answer with
  | .ok found => .ok found
  | .error (.unplaced _ fault) => .error ⟨fault, none⟩
  | .error (.placed bytesLeft fault) =>
    let bytes := Text.encode (String.ofList document)
    .error ⟨fault, some (.behind (bytes.take (bytes.length - bytesLeft)))⟩

end TextQuest.Json
