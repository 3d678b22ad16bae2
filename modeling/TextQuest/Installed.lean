import TextQuest.FileTree

namespace TextQuest

inductive Installed (π : Type)
  | missing (error : FileError)
  | program (start : List String → π)

namespace Installed

variable {π : Type}

/-- Why a name without a slash is that of no program: the directories that hold the programs of the
system have none of the name. Every directory holds itself and the one above, which cannot be run. -/
def refusal (name : String) : FileError :=
  if name = "." ∨ name = ".." then .permissionDenied
  else if FileTree.nameLimit < name.utf8ByteSize then .nameTooLong
  else .notFound

/-- Looks for a program where at most one file of the tree is one. A name without a slash is looked for
among the programs of the system instead. -/
def find (tree : FileTree) (known : Option (String × (List String → π))) (path : String) :
    Installed π :=
  if !path.toList.contains '/' then .missing (refusal path)
  else match tree.locate path, known with
    | .error error, _ => .missing error
    | .ok (.file names _), some (name, start) =>
      if names = [name] then .program start else .missing .permissionDenied
    | .ok _, _ => .missing .permissionDenied

def start (installed : Installed π) (path : String) (arguments : List String) : Except FileError π :=
  if (path :: arguments).any (·.toList.contains '\x00') then .error .nulInArgument
  else match installed with
    | missing error => .error error
    | program start => .ok (start arguments)

end Installed
end TextQuest
