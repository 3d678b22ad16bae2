import TextQuest.Run.Basic

/-!
Guarded sessions: a session that was started is closed once, however its run ends. It is released at
the end of a run, where a failure to close is a failure of the run; it is abandoned after a failure,
where a second failure is only noted.
-/
namespace TextQuest.Run

def abandon (game : String) : Run Unit := do
  match ← act .close with
  | .ok () => return
  | .error error =>
    note ⟨.warn, "failed to close session: " ++ error.message, [("game", game)], .running⟩

def guarded {β : Type} (game : String) (body : Run β) : Run β :=
  tryCatch body fun error => do
    abandon game
    throw error

def openSession (game : String) : Run Unit := do
  ofEngine (← act (.start game))
  guarded game do
    ask .activateTracking
    ask .requestIntermediateRewards
  note ⟨.debug, "session opened", [("game", game)], .running⟩

def release (game : String) : Run (Except EngineError Unit) := do
  note ⟨.debug, "session released", [("game", game)], .running⟩
  act .close

end TextQuest.Run
