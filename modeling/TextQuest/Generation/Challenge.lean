import TextQuest.Decimal.Whole
import TextQuest.Generation.Failure
import TextQuest.Text.Reader

namespace TextQuest.Generation
open Text

structure Challenge where
  name : String
  level : Nat
  deriving DecidableEq

namespace Challenge

def known : List String := ["simple", "cooking", "coin_collector", "treasure_hunter"]

def token (challenge : Challenge) : String :=
  "tw-" ++ challenge.name ++ "-level" ++ toString challenge.level

def splitLastDash (text : List Char) : Option (List Char × List Char) :=
  let last := (text.reverse.takeWhile (· != '-')).reverse
  if last.length = text.length then none
  else some (text.take (text.length - last.length - 1), last)

def level? (text : List Char) : Option Nat := do
  let level ← Decimal.natural? (← expect "level".toList text)
  if 0 < level ∧ level < Nat.pow 2 32 then return level else none

def parts? (token : List Char) : Option Challenge := do
  let (name, level) ← splitLastDash (← expect "tw-".toList token)
  let level ← level? level
  if name.isEmpty then none else return ⟨String.ofList name, level⟩

def parse (token : String) : Except MakeError Challenge :=
  match parts? token.toList with
  | none => .error (.malformedChallenge token)
  | some challenge =>
    if known.contains challenge.name then .ok challenge
    else .error (.unknownChallenge challenge.name known)

end Challenge
end TextQuest.Generation
