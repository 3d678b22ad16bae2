import TextQuest.Text.Hanging

/-!
How a command ends: its status, and what it printed. A failure is reported with all its causes, each
on lines of its own.

A log goes to the standard output too. What a maker of games notes is among what it printed, since it has no
run that could keep it; what is noted in a run stands in the journal of the run, and only there.
-/
namespace TextQuest.CommandLine

structure Exit where
  /-- Zero for success; nothing if the program was stopped before it could choose one. -/
  status : Option Nat := some 0
  output : String := ""
  complaint : String := ""
  deriving DecidableEq

structure Failure where
  message : String
  causes : List String := []
  deriving DecidableEq

namespace Failure

def during (attempt : String) (failure : Failure) : Failure :=
  ⟨attempt, failure.message :: failure.causes⟩

def causeText (lead cause : String) : String :=
  "\n" ++ lead ++ Text.hanging lead.length cause

def leadNumber (n : Nat) : String :=
  let digits := toString n
  String.ofList (List.replicate (5 - digits.length) ' ') ++ digits ++ ": "

def causesText : List String → String
  | [] => ""
  | [cause] => "\n\nCaused by:" ++ causeText "    " cause
  | causes =>
    "\n\nCaused by:" ++
      String.join (causes.zipIdx.map fun (cause, n) => causeText (leadNumber n) cause)

def report (failure : Failure) : String :=
  "Error: " ++ failure.message ++ causesText failure.causes ++ "\n"

end Failure

def Exit.failed (output : String) (failure : Failure) : Exit := ⟨some 1, output, failure.report⟩

end TextQuest.CommandLine
