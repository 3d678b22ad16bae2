import TextQuest.Bridge.Session
import TextQuest.Run.Basic

namespace TextQuest

open Bridge (Request)

variable {σ : Type}

namespace Bridge

def upToClose : List Request → List Request
  | [] => []
  | .close :: _ => [.close]
  | .call call :: rest => .call call :: upToClose rest

theorem begins_upToClose (requests : List Request) : upToClose requests <+: requests := by
  induction requests with
  | nil => exact List.prefix_refl _
  | cons request rest ih =>
    cases request with
    | close => exact ⟨rest, rfl⟩
    | call call => exact List.cons_prefix_cons.mpr ⟨rfl, ih⟩

end Bridge

namespace Session

def serve (session : Session σ) : Request → σ → Entry × σ
  | .call call, state =>
    let (answer, state) := session.ask call state
    (.asked call answer, state)
  | .close, state =>
    let (answer, state) := session.close state
    (.closed answer, state)

def serveAll (session : Session σ) : List Request → σ → List Entry × σ
  | [], state => ([], state)
  | request :: rest, state =>
    let (entry, state) := session.serve request state
    let (entries, state) := session.serveAll rest state
    (entry :: entries, state)

theorem serveAll_append (session : Session σ) (first second : List Request) (state : σ) :
    session.serveAll (first ++ second) state =
      ((session.serveAll first state).1 ++
          (session.serveAll second (session.serveAll first state).2).1,
        (session.serveAll second (session.serveAll first state).2).2) := by
  induction first generalizing state with
  | nil => rfl
  | cons request rest ih => simp only [List.cons_append, serveAll, ih]

end Session
end TextQuest
