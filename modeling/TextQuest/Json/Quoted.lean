import TextQuest.Json.Reader

/-!
Texts in quotes. Control characters have to be escaped, and a character may be given by its code, or by
the two codes of a surrogate pair. In a text that nobody asked for codes need not make sense.
-/
namespace TextQuest.Json
open Text (digit? charOfCode?)

def hex4? (a b c d : Char) : Option Nat := do
  return (((← digit? a) * 16 + (← digit? b)) * 16 + (← digit? c)) * 16 + (← digit? d)

def simpleEscape? : Char → Option Char
  | '"' => some '"'
  | '\\' => some '\\'
  | '/' => some '/'
  | 'b' => some '\x08'
  | 'f' => some '\x0c'
  | 'n' => some '\n'
  | 'r' => some '\r'
  | 't' => some '\t'
  | _ => none

def breakInCode {α : Type} (s : List Char) : Except Break α :=
  if byteCount s < 4 then breakBefore [] .textUnclosed
  else .error (.placed (byteCount s - 4) .unknownEscape)

def charOfPair (high low : Nat) : Char :=
  Char.ofNat (0x10000 + (high - 0xd800) * 0x400 + (low - 0xdc00))

/-- Takes the rest of a text and its closing quote. What was read so far stands in `seen`, its latest
character first, and perhaps half of a surrogate pair after it. -/
def textFrom (seen : List Char) : Option Nat → Reader String
  | none, [] => breakBefore [] .textUnclosed
  | none, '"' :: rest => .ok (String.ofList seen.reverse, rest)
  | none, '\\' :: 'u' :: a :: b :: c :: d :: rest =>
    match hex4? a b c d with
    | none => breakInCode (a :: b :: c :: d :: rest)
    | some code =>
      match charOfCode? code with
      | some found => textFrom (found :: seen) none rest
      | none =>
        if code < 0xdc00 then textFrom seen (some code) rest else breakBefore rest .loneHalf
  | none, '\\' :: 'u' :: rest => breakInCode rest
  | none, '\\' :: c :: rest =>
    match simpleEscape? c with
    | some found => textFrom (found :: seen) none rest
    | none => breakWithin (c :: rest) .unknownEscape
  | none, ['\\'] => breakBefore [] .textUnclosed
  | none, c :: rest =>
    if c < ' ' then breakBefore rest .controlCharacter else textFrom (c :: seen) none rest
  | some high, '\\' :: 'u' :: a :: b :: c :: d :: rest =>
    match hex4? a b c d with
    | none => breakInCode (a :: b :: c :: d :: rest)
    | some low =>
      if 0xdc00 ≤ low ∧ low ≤ 0xdfff then textFrom (charOfPair high low :: seen) none rest
      else breakBefore rest .loneHalf
  | some _, '\\' :: 'u' :: rest => breakInCode rest
  | some _, ['\\'] | some _, [] => breakBefore [] .textUnclosed
  | some _, '\\' :: c :: rest => breakWithin (c :: rest) .halfPair
  | some _, c :: rest => breakWithin (c :: rest) .halfPair

def textAfterQuote : Reader String := textFrom [] none

def passText : List Char → Except Break (List Char)
  | [] => breakBefore [] .textUnclosed
  | '"' :: rest => .ok rest
  | '\\' :: 'u' :: a :: b :: c :: d :: rest =>
    if (hex4? a b c d).isSome then passText rest else breakInCode (a :: b :: c :: d :: rest)
  | '\\' :: 'u' :: rest => breakInCode rest
  | '\\' :: c :: rest =>
    if (simpleEscape? c).isSome then passText rest else breakWithin (c :: rest) .unknownEscape
  | ['\\'] => breakBefore [] .textUnclosed
  | c :: rest => if c < ' ' then breakBefore (c :: rest) .controlCharacter else passText rest

end TextQuest.Json
