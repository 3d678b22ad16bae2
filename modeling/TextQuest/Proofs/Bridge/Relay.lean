import TextQuest.Proofs.Bridge.Decoding
import TextQuest.Proofs.Bridge.Pairing
import TextQuest.Proofs.Bridge.Response

namespace TextQuest

variable {σ τ π : Type} {wording : EngineError → String}

/-! ## Relays -/

def Call.relayedError (wording : EngineError → String) : Call → EngineError → EngineError
  | .walkthrough, .unsupported _ => .unsupported "walkthrough"
  | _, error => .remote (wording error)

def Call.relayed (wording : EngineError → String) (call : Call) (answer : call.Answer) : call.Answer :=
  answer.mapError (call.relayedError wording)

def AgentError.relayed (wording : EngineError → String) : AgentError → AgentError
  | .engine error => .engine (.remote (wording error))
  | error => error

def RunError.relayed (wording : EngineError → String) : RunError → RunError
  | .engine error => .engine (.remote (wording error))
  | .agent error => .agent (error.relayed wording)
  | error => error

def Entry.relayed (wording : EngineError → String) : Entry → Entry
  | .asked call answer => .asked call (call.relayed wording answer)
  | .closed answer => .closed (answer.mapError fun error => .remote (wording error))
  | .prepared answer => .prepared (answer.mapError (.relayed wording))
  | entry => entry

structure Relay (wording : EngineError → String) (session : Session σ) (other : Session τ)
    (linked : σ → τ → Prop) : Prop where
  asks : ∀ (call : Call) {state : σ} {shown : τ}, linked state shown →
    (other.ask call shown).1 = call.relayed wording (session.ask call state).1
  stays : ∀ (call : Call) {state : σ} {shown : τ}, linked state shown →
    linked (session.ask call state).2 (other.ask call shown).2
  closes : ∀ {state : σ} {shown : τ}, linked state shown →
    (other.close shown).1 = (session.close state).1.mapError fun error => .remote (wording error)

theorem Relay.serveAll {session : Session σ} {other : Session τ} {linked : σ → τ → Prop}
    (relay : Relay wording session other linked) (requests : List Bridge.Request) {state : σ} {shown : τ}
    (link : linked state shown) :
    (other.serveAll (Bridge.upToClose requests) shown).1 =
      (session.serveAll (Bridge.upToClose requests) state).1.map (Entry.relayed wording) := by
  induction requests generalizing state shown with
  | nil => rfl
  | cons request rest ih =>
    cases request with
    | close => simp [Bridge.upToClose, Session.serveAll, Session.serve, Entry.relayed, relay.closes link]
    | call call =>
      have later := ih (relay.stays call link)
      simp [Bridge.upToClose, Session.serveAll, Session.serve, Entry.relayed, relay.asks call link, later]

/-! ## Programs -/

namespace Bridge

def Response.ofEntry (wording : EngineError → String) : Entry → Response
  | .asked .reset (.ok state) => { ok := true, state := some state }
  | .asked (.step _) (.ok observation) =>
    { ok := true, state := some observation.state, reward := some observation.reward,
      done := some observation.done }
  | .asked .walkthrough (.ok commands) => { ok := true, commands := some commands }
  | .asked .walkthrough (.error (.unsupported _)) => { ok := true }
  | .asked _ (.error error) => { error := some (wording error) }
  | .closed (.error error) => { error := some (wording error) }
  | _ => { ok := true }

theorem Response.reply_ofEntry (wording : EngineError → String) (call : Call) (answer : call.Answer) :
    (Response.ofEntry wording (.asked call answer)).accepted.bind (·.reply call) =
      call.relayed wording answer := by
  cases answer with
  | ok reply => cases call <;> rfl
  | error error => cases call <;> cases error <;> rfl

theorem Response.accepted_ofEntry (wording : EngineError → String) (answer : Except EngineError Unit) :
    ((Response.ofEntry wording (.closed answer)).accepted.map fun _ => ()) =
      answer.mapError fun error => .remote (wording error) := by
  cases answer <;> rfl

/-- A program plays a session: where it stands as the session does, it makes each request it reads and
writes a line that tells what became of it, and it goes on until it is asked to close. -/
structure Program.Plays (program : Program π) (session : Session σ) (stands : π → σ → Prop)
    (wording : EngineError → String) : Prop where
  answers : ∀ {line : String} {request : Request} {player : π} {state : σ}, stands player state →
    Request.decode? line.toList = some request →
      ∃ text : String, '\n' ∉ text.toList ∧
        (Response.ofEntry wording (session.serve request state).1).ToldBy text.toList ∧
        (program.hear line player).1.bytes = Text.encode text ++ [0x0a]
  moves : ∀ {line : String} {call : Call} {player : π} {state : σ}, stands player state →
    Request.decode? line.toList = some (.call call) →
      stands (program.hear line player).2 (session.ask call state).2
  goesOn : ∀ {line : String} {call : Call} {player : π} {state : σ}, stands player state →
    Request.decode? line.toList = some (.call call) → (program.hear line player).1.closes = false

end Bridge

structure Session.SizedAt (session : Session σ) (state : σ) : Prop where
  reset : ∀ {told : GameState}, (session.ask .reset state).1 = .ok told → told.Sized
  step : ∀ {command : String} {told : Observation}, (session.ask (.step command) state).1 = .ok told →
    told.state.Sized

theorem Session.SizedAt.response {session : Session σ} {state : σ} (sized : session.SizedAt state)
    (request : Bridge.Request) :
    ∀ told ∈ (Bridge.Response.ofEntry wording (session.serve request state).1).state, told.Sized := by
  intro told within
  cases request with
  | close =>
    simp only [serve] at within
    generalize (session.close state).1 = answer at within
    cases answer <;> cases within
  | call call =>
    simp only [serve] at within
    generalize answers : (session.ask call state).1 = answer at within
    cases call with
    | reset =>
      cases answer with
      | ok told =>
        cases within
        exact sized.reset answers
      | error error => cases within
    | step command =>
      cases answer with
      | ok observation =>
        cases within
        exact sized.step answers
      | error error => cases within
    | walkthrough =>
      cases answer with
      | ok commands => cases within
      | error error => cases error <;> cases within
    | _ => cases answer <;> cases within

namespace Bridge

theorem Connection.takeLine_whole {bytes : List UInt8} (plain : 0x0a ∉ bytes) :
    takeLine (bytes ++ [0x0a]) = (bytes ++ [0x0a], []) := by
  induction bytes with
  | nil => rfl
  | cons byte rest ih =>
    simp only [List.mem_cons, not_or] at plain
    simp [takeLine, Ne.symm plain.1, ih plain.2]

/-- A connection to a program that stands as a session does, and of which all was read. -/
structure Linked (stands : π → σ → Prop) (state : σ) (connection : Connection π) : Prop where
  player : stands connection.program state
  unread : connection.unread = []
  isOpen : connection.outputOpen = true
  unclosed : connection.closed = false

section

variable {program : Program π} {session : Session σ} {stands : π → σ → Prop} {state : σ}
  {connection : Connection π}

theorem Linked.serves (linked : Linked stands state connection)
    (plays : program.Plays session stands wording) (sized : session.SizedAt state) (request : Request) :
    ∃ line text,
      Tells line text (Response.ofEntry wording (session.serve request state).1) ∧
        (Connection.session program).serve request connection =
          (request.answered line, ⟨(program.hear request.line connection.program).2, [],
            !(program.hear request.line connection.program).1.closes, request = .close⟩) := by
  obtain ⟨player, unread, isOpen, closed⟩ := connection
  obtain ⟨standing, rfl, rfl, rfl⟩ := linked
  obtain ⟨text, plain, told, bytes⟩ := plays.answers standing request.decode?_line
  refine ⟨_, _, told.tells (sized.response request), ?_⟩
  -- No line feed stands within the text, so the line is taken as a whole and nothing is left.
  have whole : Connection.takeLine (Program.told [] true (program.hear request.line player)) =
      (Text.encode text ++ [0x0a], []) := by
    rw [Program.told, if_pos rfl, List.nil_append, bytes]
    exact Connection.takeLine_whole fun within => plain (Text.mem_encode_feed within)
  simpa only [whole, Bool.true_and] using serve_open program request player [] true rfl

theorem relay_connection (plays : program.Plays session stands wording)
    (sized : ∀ player state, stands player state → session.SizedAt state) :
    Relay wording session (Connection.session program) (Linked stands) where
  asks call state connection linked := by
    obtain ⟨line, text, tells, served⟩ :=
      linked.serves plays (sized _ _ linked.player) (.call call)
    have entries := congrArg Prod.fst served
    simp only [Session.serve, Request.answered, Entry.asked.injEq, heq_eq_eq, true_and,
      Connection.interpret_told tells] at entries
    rw [entries]
    exact Response.reply_ofEntry wording call _
  stays call state connection linked := by
    obtain ⟨line, text, tells, served⟩ :=
      linked.serves plays (sized _ _ linked.player) (.call call)
    have read := Request.decode?_line (.call call)
    change Linked stands (session.ask call state).2
      ((Connection.session program).serve (.call call) connection).2
    rw [served]
    exact ⟨plays.moves linked.player read, rfl, by simp [plays.goesOn linked.player read], rfl⟩
  closes {state connection} linked := by
    obtain ⟨line, text, tells, served⟩ := linked.serves plays (sized _ _ linked.player) .close
    have entries := congrArg Prod.fst served
    simp only [Session.serve, Request.answered, Entry.closed.injEq,
      Connection.interpret_told tells] at entries
    rw [entries]
    exact Response.accepted_ofEntry wording _

end

end Bridge
end TextQuest
