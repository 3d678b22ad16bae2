import TextQuest.Session

/-!
An engine with rehearsal answers, for rehearsals of runs and agents. Calls that are told to fail always
fail; even so a reset begins the steps anew. It never closes.
-/
namespace TextQuest

structure Rehearsal where
  startError : Option String := none
  activateError : Option String := none
  intermediateError : Option String := none
  resetError : Option String := none
  walkthroughError : Option String := none
  closeError : Option String := none
  state : GameState := {}
  walkthrough : Option (List String) := none
  steps : List (Except String Observation) := []
  left : List (Except String Observation) := steps

namespace Rehearsal

def orComplain {β : Type} (complaint : Option String) (result : β) : Except EngineError β :=
  match complaint with
  | some complaint => .error (.remote complaint)
  | none => .ok result

def ask (rehearsal : Rehearsal) : (call : Call) → call.Answer × Rehearsal
  | .activateTracking => (orComplain rehearsal.activateError (), rehearsal)
  | .requestIntermediateRewards => (orComplain rehearsal.intermediateError (), rehearsal)
  | .reset =>
    (orComplain rehearsal.resetError rehearsal.state, { rehearsal with left := rehearsal.steps })
  | .step _ =>
    match rehearsal.left with
    | [] => (.error .gameOver, rehearsal)
    | .ok observation :: left => (.ok observation, { rehearsal with left })
    | .error complaint :: left => (.error (.remote complaint), { rehearsal with left })
  | .walkthrough =>
    match rehearsal.walkthroughError, rehearsal.walkthrough with
    | some complaint, _ => (.error (.remote complaint), rehearsal)
    | none, some commands => (.ok commands, rehearsal)
    | none, none => (.error (.unsupported "walkthrough"), rehearsal)

def engine : Engine Rehearsal where
  start game rehearsal :=
    match rehearsal.startError with
    | some reason => (.error (.startFailed game reason), rehearsal)
    | none => (.ok [], { rehearsal with left := rehearsal.steps })
  ask call rehearsal := rehearsal.ask call
  close rehearsal := (orComplain rehearsal.closeError (), rehearsal)

end Rehearsal
end TextQuest
