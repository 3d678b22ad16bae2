import TextQuest.Text.Pieces
import TextQuest.Text.Utf8

namespace TextQuest.Path
open Text

def parts (path : String) : List String :=
  (pieces (· == '/') path.toList).map String.ofList

def isAbsolute (path : String) : Bool := path.toList.head? == some '/'

inductive Component
  | root
  | current
  | parent
  | name (name : String)
  deriving DecidableEq

/-- The steps of a path. Empty parts and dots say nothing, apart from a dot at the very start. -/
def components (path : String) : List Component :=
  let steps := (parts path).filterMap fun part =>
    if part = "" ∨ part = "." then none
    else if part = ".." then some .parent
    else some (.name part)
  if isAbsolute path then .root :: steps
  else if (parts path).head? = some "." then .current :: steps
  else steps

namespace Component

def rank : Component → Nat
  | root => 0
  | current => 1
  | parent => 2
  | name _ => 3

def text : Component → String
  | name text => text
  | _ => ""

end Component

def precedes : List Component → List Component → Bool
  | [], _ => true
  | _ :: _, [] => false
  | a :: as, b :: bs =>
    if a.rank < b.rank then true
    else if b.rank < a.rank then false
    else if a.text < b.text then true
    else if b.text < a.text then false
    else precedes as bs

def sorted (paths : List String) : List String :=
  paths.mergeSort fun a b => precedes (components a) (components b)

def join (path part : String) : String :=
  if path = "" ∨ path.toList.getLast? = some '/' then path ++ part else path ++ "/" ++ part

def fileName? (path : List UInt8) : Option (List UInt8) :=
  match ((pieces (· == 0x2f) path).filter fun part => part ≠ [] ∧ part ≠ [0x2e]).getLast? with
  | some part => if part = [0x2e, 0x2e] then none else some part
  | none => none

def stem (name : List UInt8) : List UInt8 :=
  match name.reverse.dropWhile (· != 0x2e) with
  | [] => name
  | [_] => name
  | _ :: before => before.reverse

/-- Name of a game in reports: the stem of its file, or the whole path where there is none that is
text. -/
def gameName (path : List UInt8) : String :=
  match (fileName? path).bind fun name => decode? (stem name) with
  | some name => String.ofList name
  | none => String.ofList (decodeLossy path)

end TextQuest.Path
