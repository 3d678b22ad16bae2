import TextQuest.Proofs.Run.Success

/-!
Two runs side by side. They are alike where both have the same result, and the scenes they end in are
related. What a run does aside from playing can be left out of the comparison.
-/
namespace TextQuest

def Entry.isPlay : Entry → Bool
  | .asked .reset _ | .asked (.step _) _ | .asked .walkthrough _ => true
  | .preparing | .prepared _ | .decided _ _ | .finishing _ | .finished _ _ | .training _ => true
  | _ => false

def Journal.played (journal : Journal) : Journal := journal.filter Entry.isPlay

def Act.isAside : Act → Bool
  | .start _ | .ask .activateTracking | .ask .requestIntermediateRewards | .close | .poll | .note _ => true
  | _ => false

variable {σ α β γ : Type}

namespace Scene

structure Level (one other : Scene σ α) : Prop where
  agent : one.agent = other.agent
  played : one.journal.played = other.journal.played

theorem Level.refl (scene : Scene σ α) : scene.Level scene := ⟨rfl, rfl⟩

theorem Level.trans {one other third : Scene σ α} (first : one.Level other) (second : other.Level third) :
    one.Level third :=
  ⟨first.agent.trans second.agent, first.played.trans second.played⟩

theorem Level.symm {one other : Scene σ α} (level : one.Level other) : other.Level one :=
  ⟨level.agent.symm, level.played.symm⟩

theorem Level.put {one other : Scene σ α} (level : one.Level other) (first second : σ) :
    ({ one with engine := first } : Scene σ α).Level { other with engine := second } :=
  ⟨level.agent, level.played⟩

theorem Level.record {one other : Scene σ α} (level : one.Level other) (entry : Entry) :
    (one.record entry).Level (other.record entry) where
  agent := level.agent
  played := by
    have played := level.played
    simp only [Journal.played] at played
    simp [Scene.record, Journal.played, List.filter_cons, played]

theorem level_record (scene : Scene σ α) {entry : Entry} (aside : entry.isPlay = false) :
    scene.Level (scene.record entry) where
  agent := rfl
  played := by simp [Scene.record, Journal.played, aside]

theorem level_recordNotes (scene : Scene σ α) (notes : List Note) :
    scene.Level (scene.recordNotes notes) where
  agent := (agent_recordNotes scene notes).symm
  played := recordNotes_keeps (fun journal => scene.journal.played = journal.played)
    (fun _ _ same => same) scene notes rfl

end Scene

theorem Cast.level_perform (cast : Cast σ α) {a : Act} (aside : a.isAside = true) (scene : Scene σ α) :
    scene.Level (cast.perform a scene).2 := by
  cases a with
  | start game =>
    have started (told : Except EngineError Unit) (engine : σ) :
        scene.Level ({ scene with engine }.record (.started game told)) := ⟨rfl, rfl⟩
    exact (started _ _).trans (Scene.level_recordNotes _ _)
  | ask call =>
    cases call with
    | activateTracking => exact ⟨rfl, rfl⟩
    | requestIntermediateRewards => exact ⟨rfl, rfl⟩
    | _ => cases aside
  | close => exact ⟨rfl, rfl⟩
  | poll => exact ⟨rfl, rfl⟩
  | note note => exact ⟨rfl, rfl⟩
  | _ => cases aside

theorem Cast.level_decide (cast : Cast σ α) (observation : Observation) {one other : Scene σ α}
    (level : one.Level other) :
    (cast.perform (.decide observation) one).1 = (cast.perform (.decide observation) other).1 ∧
      (cast.perform (.decide observation) one).2.Level (cast.perform (.decide observation) other).2 := by
  obtain ⟨engine, agent, journal⟩ := one
  obtain ⟨engine', agent', journal'⟩ := other
  obtain ⟨rfl, played⟩ := level
  refine ⟨rfl, Scene.Level.record ?_ _⟩
  refine (Scene.level_recordNotes _ _).symm.trans (Scene.Level.trans ?_ (Scene.level_recordNotes _ _))
  exact ⟨rfl, played⟩

def Dialogue.Only {Act : Type} {Answer : Act → Type} (kind : Act → Prop) : Dialogue Act Answer β → Prop
  | .done _ => True
  | .act a next => kind a ∧ ∀ answer, (next answer).Only kind

theorem Dialogue.run_related {Act : Type} {Answer : Act → Type} {ω : Type} {kind : Act → Prop}
    {respond : (a : Act) → ω → Answer a × ω} {relation : ω → ω → Prop}
    (steps : ∀ a one other, kind a → relation one other →
      (respond a one).1 = (respond a other).1 ∧ relation (respond a one).2 (respond a other).2)
    (dialogue : Dialogue Act Answer β) (only : dialogue.Only kind) {one other : ω}
    (start : relation one other) :
    (dialogue.run respond one).1 = (dialogue.run respond other).1 ∧
      relation (dialogue.run respond one).2 (dialogue.run respond other).2 := by
  induction dialogue generalizing one other with
  | done result => exact ⟨rfl, start⟩
  | act a next ih =>
    obtain ⟨kind, only⟩ := only
    obtain ⟨answer, related⟩ := steps a one other kind start
    rw [run_act, run_act, answer]
    exact ih _ (only _) related

namespace Run

variable {cast : Cast σ α} {one other scene : Scene σ α}

def Aside (cast : Cast σ α) (run : Run β) : Prop :=
  ∀ scene : Scene σ α, scene.Level (run.perform cast scene).2

namespace Aside

variable {run : Run β}

theorem act {a : Act} (aside : a.isAside = true) : Aside cast (act a) :=
  fun scene => cast.level_perform aside scene

theorem ofEngine (answer : Except EngineError β) : Aside cast (ofEngine answer) := by
  intro scene
  cases answer <;> exact .refl scene

theorem bind {next : β → Run γ} (first : Aside cast run) (rest : ∀ result, Aside cast (next result)) :
    Aside cast (run >>= next) := by
  intro scene
  have before := first scene
  rw [perform_bind]
  generalize run.perform cast scene = performed at before ⊢
  obtain ⟨_ | result, after⟩ := performed
  · exact before
  · exact before.trans (rest result after)

theorem fail (error : RunError) : Aside cast (throw error : Run β) := fun scene => .refl scene

theorem abandoned (game : String) (error : RunError) :
    Aside cast (do abandon game; throw error : Run β) := by
  refine bind (bind (act rfl) fun answer => ?_) fun _ => fail error
  cases answer with
  | ok _ => exact fun scene => .refl scene
  | error _ => exact act rfl

theorem guarded {game : String} (aside : Aside cast run) : Aside cast (guarded game run) := by
  intro scene
  have before := aside scene
  rw [Run.guarded, perform_tryCatch]
  generalize run.perform cast scene = performed at before ⊢
  obtain ⟨error | _, after⟩ := performed
  · exact before.trans (abandoned game error after)
  · exact before

theorem ask {call : Call} (aside : (Act.ask call).isAside = true) : Aside cast (ask call) :=
  bind (act aside) ofEngine

theorem openSession (game : String) : Aside cast (openSession game) := by
  refine bind (act rfl) fun answer => bind (ofEngine answer) fun _ => ?_
  exact bind (guarded (bind (ask rfl) fun _ => ask rfl)) fun _ => act rfl

theorem release (game : String) : Aside cast (release game) := bind (act rfl) fun _ => act rfl

theorem releaseInterrupted (game : String) : Aside cast (releaseInterrupted game) := by
  refine bind (release game) fun answer => ?_
  cases answer with
  | ok _ => exact fun scene => .refl scene
  | error error => exact act rfl

end Aside

theorem Succeeds.level {run : Run β} {post : β → Scene σ α → Prop} (succeeds : Succeeds cast run scene post)
    (aside : Aside cast run) :
    Succeeds cast run scene fun result after => post result after ∧ scene.Level after := by
  have level := aside scene
  obtain ⟨result, after, performed, ends⟩ := succeeds
  rw [performed] at level
  exact ⟨result, after, performed, ends, level⟩

def Alike (cast : Cast σ α) (first second : Run β) (one other : Scene σ α)
    (post : Scene σ α → Scene σ α → Prop) : Prop :=
  (first.perform cast one).1 = (second.perform cast other).1 ∧
    post (first.perform cast one).2 (second.perform cast other).2

namespace Alike

variable {first second : Run β} {post middle : Scene σ α → Scene σ α → Prop}

theorem pure {result : β} (ends : post one other) :
    Alike cast (Pure.pure result) (Pure.pure result) one other post :=
  ⟨rfl, ends⟩

theorem weaken (alike : Alike cast first second one other middle)
    (weaker : ∀ one other, middle one other → post one other) : Alike cast first second one other post :=
  ⟨alike.1, weaker _ _ alike.2⟩

theorem ofEngine {answer : Except EngineError β} (ends : post one other) :
    Alike cast (ofEngine answer) (ofEngine answer) one other post := by
  cases answer <;> exact ⟨rfl, ends⟩

theorem ofAgent {answer : Except AgentError β} (ends : post one other) :
    Alike cast (ofAgent answer) (ofAgent answer) one other post := by
  cases answer <;> exact ⟨rfl, ends⟩

theorem act {a : Act} (answers : (cast.perform a one).1 = (cast.perform a other).1)
    (ends : post (cast.perform a one).2 (cast.perform a other).2) :
    Alike cast (act a) (act a) one other post :=
  ⟨congrArg Except.ok answers, ends⟩

/-- Two runs go on alike where their first parts succeed, and may fail where these fail. -/
theorem bind {next further : β → Run γ} (parts : Alike cast first second one other middle)
    (rest : ∀ result one other, middle one other → Alike cast (next result) (further result) one other post)
    (fails : ∀ one other, middle one other → post one other) :
    Alike cast (first >>= next) (second >>= further) one other post := by
  obtain ⟨same, related⟩ := parts
  unfold Alike
  rw [perform_bind, perform_bind]
  generalize first.perform cast one = before at same related
  generalize second.perform cast other = there at same related
  obtain ⟨result, after⟩ := before
  obtain ⟨_, between⟩ := there
  cases same
  cases result with
  | error error => exact ⟨rfl, fails _ _ related⟩
  | ok result => exact rest result _ _ related

theorem ask {call : Call} (answers : (cast.ask call one).1 = (cast.ask call other).1)
    (ends : post (cast.ask call one).2 (cast.ask call other).2) :
    Alike cast (ask call) (ask call) one other post :=
  bind (act answers ends) (fun _ _ _ ends => ofEngine ends) fun _ _ ends => ends

theorem note {line : Note} (ends : post (one.record (.noted line)) (other.record (.noted line))) :
    Alike cast (note line) (note line) one other post :=
  act rfl ends

theorem before {before : Run γ} {next : γ → Run β}
    (succeeds : Succeeds cast before one fun result after => Alike cast (next result) second after other post) :
    Alike cast (before >>= next) second one other post := by
  obtain ⟨result, after, alike, passed⟩ := succeeds.perform_bind next
  unfold Alike
  rw [passed]
  exact alike

theorem before_other {before : Run γ} {next : γ → Run β}
    (succeeds : Succeeds cast before other fun result after => Alike cast first (next result) one after post) :
    Alike cast first (before >>= next) one other post := by
  obtain ⟨result, after, alike, passed⟩ := succeeds.perform_bind next
  unfold Alike
  rw [passed]
  exact alike

end Alike

theorem perform_abandoned (cast : Cast σ α) (game : String) (error : RunError) (scene : Scene σ α) :
    ∃ after, (do abandon game; throw error : Run β).perform cast scene = (.error error, after) ∧
      scene.Level after := by
  have level : scene.Level ((do abandon game; throw error : Run β).perform cast scene).2 :=
    Aside.abandoned game error scene
  obtain ⟨after, abandons⟩ :
      ∃ after, (do abandon game; throw error : Run β).perform cast scene = (.error error, after) := by
    rw [perform_bind, abandon, perform_bind, perform_act]
    generalize cast.perform .close scene = closed
    obtain ⟨answer | answer, between⟩ := closed
    · exact ⟨_, rfl⟩
    · exact ⟨_, rfl⟩
  rw [abandons] at level
  exact ⟨after, abandons, level⟩

theorem Alike.session {body second : Run β} {game : String} {next : β → Run β}
    {middle : Scene σ α → Scene σ α → Prop} (alike : Alike cast body second one other middle)
    (level : ∀ one other, middle one other → one.Level other)
    (ends : ∀ result one other, middle one other →
      Succeeds cast (next result) one fun last after => last = result ∧ one.Level after) :
    Alike cast (guarded game body >>= next) second one other Scene.Level := by
  obtain ⟨same, related⟩ := alike
  unfold Alike
  rw [perform_bind, guarded, perform_tryCatch]
  generalize body.perform cast one = before at same related
  generalize second.perform cast other = there at same related
  obtain ⟨result, after⟩ := before
  obtain ⟨_, between⟩ := there
  cases same
  have apart := level _ _ related
  cases result with
  | error error =>
    obtain ⟨later, abandons, aside⟩ :
        ∃ later, (do abandon game; throw error : Run β).perform cast after = (.error error, later) ∧
          after.Level later := perform_abandoned cast game error after
    simpa only [abandons, true_and] using aside.symm.trans apart
  | ok result =>
    obtain ⟨_, later, performed, rfl, aside⟩ := ends result _ _ related
    simpa only [performed, true_and] using aside.symm.trans apart

end Run
end TextQuest
