import TextQuest.Text.Quoted

namespace TextQuest.Json

inductive Found
  | null
  | bool (value : Bool)
  | whole (n : Int)
  | double (shortest : String)
  | text (found : String)
  | list
  | object
  deriving DecidableEq

def Found.name : Found → String
  | null => "null"
  | bool value => "boolean `" ++ (if value then "true" else "false") ++ "`"
  | whole n => "integer `" ++ toString n ++ "`"
  | double shortest => "floating point `" ++ shortest ++ "`"
  | text found => "string " ++ Text.quoted found
  | list => "sequence"
  | object => "map"

inductive Fault
  | listUnclosed
  | objectUnclosed
  | textUnclosed
  | valueUnfinished
  | colonMissing
  | itemUnseparated
  | memberUnseparated
  | trailingComma
  | trailingText
  | valueMissing
  | nameMissing
  | unknownWord
  | unknownEscape
  | controlCharacter
  | loneHalf
  | halfPair
  | malformedNumber
  | numberOutOfRange
  | nestedTooDeep
  | wrongType (found : Found) (wanted : String)
  | wrongNumber (found : Int) (wanted : String)
  | repeatedField (name : String)
  | missingField (name : String)
  | tooFewFields (count : Nat) (wanted : String)
  | unknownWordOf (word : String) (known : List String)
  | refused (reason : String)
  deriving DecidableEq

def Fault.message : Fault → String
  | listUnclosed => "EOF while parsing a list"
  | objectUnclosed => "EOF while parsing an object"
  | textUnclosed => "EOF while parsing a string"
  | valueUnfinished => "EOF while parsing a value"
  | colonMissing => "expected `:`"
  | itemUnseparated => "expected `,` or `]`"
  | memberUnseparated => "expected `,` or `\x7d`"
  | trailingComma => "trailing comma"
  | trailingText => "trailing characters"
  | valueMissing => "expected value"
  | nameMissing => "key must be a string"
  | unknownWord => "expected ident"
  | unknownEscape => "invalid escape"
  | controlCharacter => "control character (\\u0000-\\u001F) found while parsing a string"
  | loneHalf => "lone leading surrogate in hex escape"
  | halfPair => "unexpected end of hex escape"
  | malformedNumber => "invalid number"
  | numberOutOfRange => "number out of range"
  | nestedTooDeep => "recursion limit exceeded"
  | wrongType found wanted => "invalid type: " ++ found.name ++ ", expected " ++ wanted
  | wrongNumber found wanted => "invalid value: " ++ (Found.whole found).name ++ ", expected " ++ wanted
  | repeatedField name => "duplicate field `" ++ name ++ "`"
  | missingField name => "missing field `" ++ name ++ "`"
  | tooFewFields count wanted => "invalid length " ++ toString count ++ ", expected " ++ wanted
  | unknownWordOf word known =>
    "unknown variant `" ++ word ++ "`, expected one of " ++
      String.intercalate ", " (known.map fun name => "`" ++ name ++ "`")
  | refused reason => reason

structure Place where
  line : Nat
  column : Nat
  deriving DecidableEq

def Place.behind (bytes : List UInt8) : Place where
  line := 1 + bytes.count 0x0a
  column := (bytes.reverse.takeWhile (· != 0x0a)).length

/-- Why a document was refused. What is said against a document as a whole has no place. -/
structure Complaint where
  fault : Fault
  place : Option Place
  deriving DecidableEq

def Complaint.message (complaint : Complaint) : String :=
  complaint.fault.message ++
    match complaint.place with
    | some place => s!" at line {place.line} column {place.column}"
    | none => ""

end TextQuest.Json
