import TextQuest.Ron.Number
import TextQuest.Text.Reader

namespace TextQuest.Ron
open Text

inductive Gap
  | blank
  | line
  | block (further : Nat)

def skipFrom : Gap → List Char → Option (List Char)
  | .blank, '/' :: '/' :: rest => skipFrom .line rest
  | .blank, '/' :: '*' :: rest => skipFrom (.block 0) rest
  | .blank, '/' :: _ => none
  | .blank, c :: rest =>
    if c = ' ' ∨ c = '\t' ∨ c = '\r' ∨ c = '\n' then skipFrom .blank rest else some (c :: rest)
  | .blank, [] => some []
  | .line, c :: rest => if c = '\n' then skipFrom .blank rest else skipFrom .line rest
  | .line, [] => some []
  | .block n, '/' :: '*' :: rest => skipFrom (.block (n + 1)) rest
  | .block 0, '*' :: '/' :: rest => skipFrom .blank rest
  | .block (n + 1), '*' :: '/' :: rest => skipFrom (.block n) rest
  | .block n, _ :: rest => skipFrom (.block n) rest
  | .block _, [] => none

def skip (s : List Char) : Option (List Char) := skipFrom .blank s

def isWordStart (c : Char) : Bool := c.isAlpha || c == '_'

def isWordChar (c : Char) : Bool := c.isAlphanum || c == '_'

def isRawChar (c : Char) : Bool := isWordChar c || c == '.' || c == '+' || c == '-'

def goesOn (s : List Char) : Bool := (s.head?.map isWordChar).getD false

def keyword (wanted : List Char) (s : List Char) : Option (List Char) :=
  (expect wanted s).filter (!goesOn ·)

/-- A word without a mark; characters that only raw words may have cannot follow it. -/
def plainWord : Reader String := fun s =>
  let rest := s.dropWhile isWordChar
  if (rest.head?.map isRawChar).getD false then none
  else some (String.ofList (s.takeWhile isWordChar), rest)

def word : Reader String
  | 'r' :: '#' :: c :: rest =>
    if isRawChar c then
      some (String.ofList ((c :: rest).takeWhile isRawChar), (c :: rest).dropWhile isRawChar)
    else none
  | 'r' :: '"' :: _ | ['r'] | ['r', '#'] => none
  | c :: rest => if isWordStart c then plainWord (c :: rest) else none
  | [] => none

def simpleEscape? : Char → Option Char
  | '\'' => some '\''
  | '"' => some '"'
  | '\\' => some '\\'
  | 'n' => some '\n'
  | 'r' => some '\r'
  | 't' => some '\t'
  | '0' => some '\x00'
  | _ => none

structure CodeSoFar where
  value : Nat := 0
  digits : Nat := 0

def unescape : Option CodeSoFar → List Char → Option (List Char)
  | none, [] => some []
  | none, '\\' :: 'u' :: rest =>
    match rest with
    | '{' :: rest => unescape (some {}) rest
    | _ => none
  | none, '\\' :: 'x' :: high :: low :: rest => do
    let code := (← digit? high) * 16 + (← digit? low)
    return Char.ofNat code :: (← unescape none rest)
  | none, '\\' :: c :: rest => do
    let c ← simpleEscape? c
    return c :: (← unescape none rest)
  | none, ['\\'] => none
  | none, c :: rest => (unescape none rest).map (c :: ·)
  | some code, '}' :: rest => do
    if code.digits = 0 then none
    let c ← charOfCode? code.value
    return c :: (← unescape none rest)
  | some code, c :: rest => do
    if code.digits = 6 then none
    let digit ← digit? c
    unescape (some ⟨16 * code.value + digit, code.digits + 1⟩) rest
  | some _, [] => none

def upToHashes (hashes : List Char) (seen : List Char) : Reader (List Char)
  | [] => none
  | c :: rest =>
    match if c = '"' then expect hashes rest else none with
    | some after => some (seen.reverse, after)
    | none => upToHashes hashes (c :: seen) rest

def text : Reader String
  | '"' :: rest => do
    let (inside, rest) ← upToQuote '"' [] rest
    return (String.ofList (← unescape none inside), rest)
  | 'r' :: rest =>
    match rest.dropWhile (· == '#') with
    | '"' :: after =>
      (upToHashes (rest.takeWhile (· == '#')) [] after).map fun found =>
        (String.ofList found.1, found.2)
    | _ => none
  | _ => none

def char : Reader Char
  | '\'' :: rest => do
    let (inside, rest) ← upToQuote '\'' [] rest
    match ← unescape none inside with
    | [c] => return (c, rest)
    | _ => none
  | _ => none

def numberBy {α : Type} (read? : List Char → Option α) : Reader α := fun s =>
  (read? (s.takeWhile isRawChar)).map (·, s.dropWhile isRawChar)

def natural (bound : Nat) : Reader Nat := numberBy fun digits => (natural? digits).filter (· < bound)

def single : Reader Float32 := numberBy single?

def anyNumber : Reader Unit := numberBy fun digits => if isNumber digits then some () else none

end TextQuest.Ron
