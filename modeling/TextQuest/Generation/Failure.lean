import TextQuest.FileTree
import TextQuest.Text.Quoted

namespace TextQuest.Generation
open Text

inductive MakeError
  | malformedChallenge (token : String)
  | unknownChallenge (name : String) (known : List String)
  | invalidArgument (option reason : String)
  | notStarted (program : String) (error : FileError)
  | failed (program : String) (status : Nat) (complaint : String)
  | missingPath
  deriving DecidableEq

namespace MakeError

def message : MakeError → String
  | malformedChallenge token =>
    "invalid challenge " ++ quoted token ++ ": expected <prefix>-<name>-level<N>"
  | unknownChallenge name known =>
    "unknown challenge " ++ quoted name ++ "; known challenges: " ++ String.intercalate ", " known
  | invalidArgument option reason => "invalid value for --" ++ option ++ ": " ++ reason
  | notStarted program error => "failed to run " ++ quoted program ++ ": " ++ error.message
  | failed program status complaint =>
    quoted program ++ s!" exited with exit status: {status}: " ++ complaint
  | missingPath => "generator output did not name the generated game"

def causes : MakeError → List String
  | notStarted _ error => [error.message]
  | _ => []

end MakeError
end TextQuest.Generation
