import TextQuest.GameState
import TextQuest.Text.Blank
import TextQuest.Text.Reader

namespace TextQuest.Generation
open Text

def announcement : List Char := "Game generated:".toList

def announced? (line : List Char) : Option (List Char) := (expect announcement line).map trimChars

def isGamePath (word : List Char) : Bool := ("." ++ gameExtension).toList.isSuffixOf word

/-- A path of a game that is named in passing. The lines are searched from the last one to the first, and
each of them from its end. -/
def mentioned? (lines : List (List Char)) : Option (List Char) :=
  (lines.reverse.flatMap fun line => (words line).reverse).find? isGamePath

def generatedPath? (output : List Char) : Option String :=
  let trimmed := (lines output).map trimChars
  match trimmed.findSome? announced? with
  | some path => some (String.ofList path)
  | none => (mentioned? trimmed).map String.ofList

end TextQuest.Generation
