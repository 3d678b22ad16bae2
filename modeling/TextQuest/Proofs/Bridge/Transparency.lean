import TextQuest.Proofs.Run.Mirror
import TextQuest.Rehearsal

namespace TextQuest

open Bridge Json

variable {σ π : Type}

/-! ## A program for every session -/

theorem GameState.toldBy_toJson (state : GameState) : state.ToldBy state.toJson := by
  refine ⟨_, rfl, ?_, ?_, ?_⟩
  · simp [slots, List.count_cons]
  · simp [slots]
  · simp [slots]

theorem GameState.printed_toJson (state : GameState) : Printed state.toJson := by
  refine printed_object ?_
  simp [printed_text, printed_strings, printed_ofInt, printed_bool]

namespace Bridge

namespace Response

def toJson (response : Response) : Value := .object
  [("ok", .bool response.ok), ("error", response.error.elim .null .text),
    ("state", response.state.elim .null GameState.toJson),
    ("reward", response.reward.elim .null Reward.toJson), ("done", response.done.elim .null .bool),
    ("commands", response.commands.elim .null .ofStrings)]

theorem told_toJson (response : Response) :
    ∃ pairs, response.toJson = .object pairs ∧ Told response.slots pairs := by
  refine ⟨_, rfl, ?_, ?_, ?_⟩
  · simp [slots, List.count_cons]
  · cases state : response.state <;> simp [slots, state, GameState.toldBy_toJson]
  · simp [slots]

theorem printed_toJson (response : Response) : Printed response.toJson := by
  have option {α : Type} {tell : α → Value} (printed : ∀ found, Printed (tell found)) (found : Option α) :
      Printed (found.elim .null tell) := by
    cases found with
    | none => exact printed_null
    | some found => exact printed found
  refine printed_object ?_
  simp only [List.forall_mem_cons]
  exact ⟨printed_bool _, option printed_text _, option GameState.printed_toJson _,
    option (fun reward : Reward => printed_ofInt reward.value) _, option printed_bool _, option printed_strings _,
    nofun⟩

def line (response : Response) : String := String.ofList (render response.toJson)

theorem toldBy_line (response : Response) : response.ToldBy response.line.toList := by
  obtain ⟨pairs, shown, told⟩ := response.told_toJson
  have spells := response.printed_toJson.spells
  rw [shown] at spells
  simpa [line, shown] using ToldBy.mk spaces_nil spells spaces_nil told

theorem newline_not_mem_line (response : Response) : '\n' ∉ response.line.toList := by
  simpa [line] using response.printed_toJson.printable.newline_not_mem

end Response

def Program.ofSession (wording : EngineError → String) (session : Session σ) : Program σ where
  hear line state :=
    match Request.decode? line.toList with
    | none => (⟨[], false⟩, state)
    | some request =>
      let (entry, state) := session.serve request state
      (⟨Text.encode (Response.ofEntry wording entry).line ++ [0x0a], false⟩, state)

theorem plays_ofSession (wording : EngineError → String) (session : Session σ) {bounds : σ → Prop}
    (keeps : ∀ call state, bounds state → bounds (session.ask call state).2) :
    (Program.ofSession wording session).Plays session
      (fun player state => player = state ∧ bounds state) wording where
  answers := by
    rintro line request player state ⟨rfl, -⟩ read
    refine ⟨_, Response.newline_not_mem_line _, Response.toldBy_line _, ?_⟩
    simp only [Program.ofSession, read]
  moves := by
    rintro line call player state ⟨rfl, bounded⟩ read
    simpa [Program.ofSession, read, Session.serve] using keeps call player bounded
  goesOn := by
    rintro line call player state ⟨rfl, -⟩ read
    simp [Program.ofSession, read]

end Bridge

/-! ## Rehearsals -/

structure Rehearsal.Bounded (rehearsal : Rehearsal) : Prop where
  state : rehearsal.state.Sized
  steps : ∀ told, .ok told ∈ rehearsal.steps → told.state.Sized
  left : ∀ told, .ok told ∈ rehearsal.left → told.state.Sized

theorem Rehearsal.Bounded.sizedAt {rehearsal : Rehearsal} (bounded : rehearsal.Bounded) :
    Rehearsal.engine.toSession.SizedAt rehearsal where
  reset {told} answers := by
    cases complains : rehearsal.resetError with
    | none =>
      simp only [engine, ask, orComplain, complains, Except.ok.injEq] at answers
      exact answers ▸ bounded.state
    | some complaint => simp [engine, ask, orComplain, complains] at answers
  step {command told} answers := by
    simp only [engine, ask] at answers
    split at answers
    · cases answers
    · rename_i left
      cases answers
      exact bounded.left told (by simp [left])
    · cases answers

theorem Rehearsal.Bounded.ask {rehearsal : Rehearsal} (bounded : rehearsal.Bounded) (call : Call) :
    (Rehearsal.engine.ask call rehearsal).2.Bounded := by
  have left := bounded.left
  cases call with
  | activateTracking => exact bounded
  | requestIntermediateRewards => exact bounded
  | reset => exact ⟨bounded.state, bounded.steps, bounded.steps⟩
  | walkthrough =>
    simp only [engine, Rehearsal.ask]
    split <;> exact bounded
  | step command =>
    simp only [engine, Rehearsal.ask]
    split
    · exact bounded
    · exact ⟨bounded.state, bounded.steps, fun told within => left told (by simp [*])⟩
    · exact ⟨bounded.state, bounded.steps, fun told within => left told (by simp [*])⟩

/-! ## Transparency -/

inductive Agent.Standard : {α : Type} → Agent α → Prop
  | random : Standard random
  | walkthrough : Standard walkthrough
  | neural {R : Type} [Neural.Scalar R] : Standard (neural (R := R))

theorem Agent.Standard.robust {α : Type} {agent : Agent α} (standard : agent.Standard)
    (wording : EngineError → String) : agent.Robust wording := by
  cases standard with
  | random => exact robust_random wording
  | walkthrough => exact robust_walkthrough wording
  | neural => exact robust_neural wording

namespace Bridge

/-- All that is requested through a program up to the first close comes to what the session it plays
answers, and so does an episode of any agent. -/
theorem connection_is_transparent {program : Program π} {session : Session σ} {stands : π → σ → Prop}
    {wording : EngineError → String} (plays : program.Plays session stands wording)
    (sized : ∀ player state, stands player state → session.SizedAt state) {player : π} {state : σ}
    (begins : stands player state) :
    (∀ requests,
      ((Connection.session program).serveAll (upToClose requests) { program := player }).1 =
        (session.serveAll (upToClose requests) state).1.map (.relayed wording)) ∧
    ∀ {α : Type} (cast : Cast σ α) (bridged : Cast (Connection π) α) (agent : α) (watched : Bool)
      (maxSteps : Nat), cast.agent.Standard → bridged.agent = cast.agent →
      cast.engine.toSession = session → bridged.engine.toSession = Connection.session program →
      (∀ journal : Journal,
        bridged.cancelled (journal.map (.relayed wording)) = cast.cancelled journal) →
      let run := Run.episode watched maxSteps
      let direct := run.perform cast ⟨state, agent, []⟩
      let through := run.perform bridged ⟨{ program := player }, agent, []⟩
      through.1 = direct.1.mapError (.relayed wording) ∧ through.2.agent = direct.2.agent ∧
        through.2.journal = direct.2.journal.map (.relayed wording) := by
  have relay := relay_connection plays sized
  have linked : Linked stands state { program := player } := ⟨begins, rfl, rfl, rfl⟩
  refine ⟨fun requests => relay.serveAll requests linked, ?_⟩
  rintro α cast bridged agent watched maxSteps standard same rfl other cancelled run direct through
  have casts : cast.Mirrors wording (Linked stands) bridged :=
    ⟨other ▸ relay, same, standard.robust wording, cancelled⟩
  have mirrors : Scene.Mirrors wording (Linked stands) ⟨state, agent, []⟩
      ⟨{ program := player }, agent, []⟩ := ⟨linked, rfl, rfl⟩
  obtain ⟨result, after⟩ := Run.mirrored_episode casts watched maxSteps mirrors
  exact ⟨result, after.agent, after.journal⟩

theorem rehearsal_through_connection :
    let told : Observation :=
      ⟨{ feedback := "\"Done\"\nπ = 3\\", moves := 1, score := -1, won := true }, .positive, true⟩
    let rehearsal : Rehearsal := { state := { policyCommands := ["go\tup"] }, steps := [.ok told, .error "?"] }
    let program := Program.ofSession EngineError.message Rehearsal.engine.toSession
    let requests : List Request := [.call .activateTracking, .call .walkthrough, .call .reset,
      .call (.step "go\nup"), .call (.step "go"), .close]
    let bridged : Cast (Connection Rehearsal) Agent.Walkthrough :=
      { engine := { Connection.session program with start := fun _ connection => (.ok [], connection) },
        agent := Agent.walkthrough }
    ((Connection.session program).serveAll requests { program := rehearsal }).1 =
        [.asked .activateTracking (.ok ()), .asked .walkthrough (.error (.unsupported "walkthrough")),
          .asked .reset (.ok { policyCommands := ["go\tup"] }), .asked (.step "go\nup") (.ok told),
          .asked (.step "go") (.error (.remote "engine reported an error: ?")), .closed (.ok ())] ∧
      ((Run.episode false 5).perform bridged ⟨{ program := rehearsal }, {}, []⟩).1 =
        .ok { last := told, steps := 1, totalReward := 1 } := by
  intro told rehearsal program requests bridged
  have small : ∀ state : GameState, state = rehearsal.state ∨ state = told.state → state.Sized := by
    rintro state (rfl | rfl) <;> exact ⟨by decide, by decide, by decide⟩
  have bounded : rehearsal.Bounded := by
    refine ⟨small _ (.inl rfl), ?_, ?_⟩ <;> simp [rehearsal, small]
  have plays : program.Plays Rehearsal.engine.toSession
      (fun player state => player = state ∧ state.Bounded) EngineError.message :=
    plays_ofSession _ _ fun call _ bounded => bounded.ask call
  have transparent := connection_is_transparent plays (fun _ _ stands => stands.2.sizedAt) ⟨rfl, bounded⟩
  have calls := transparent.1 requests
  have episode := transparent.2 { engine := Rehearsal.engine, agent := Agent.walkthrough } bridged {} false 5
    .walkthrough rfl rfl rfl fun _ => rfl
  refine ⟨calls.trans ?_, episode.1.trans ?_⟩
  · rfl
  · rfl

end Bridge
end TextQuest
