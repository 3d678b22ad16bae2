import TextQuest.Proofs.Run.Performance

/-!
The order of calls in a run. A journal tells where its run stands, and where a run stands decides which
entry may come next. A journal is lawful when each of its entries was allowed where it came.
-/
namespace TextQuest

namespace Entry

def isStart : Entry → Bool
  | started _ _ => true
  | _ => false

def opens : Entry → Bool
  | started _ answer => answer.isOk
  | _ => false

def isClose : Entry → Bool
  | closed _ => true
  | _ => false

def isFinish : Entry → Bool
  | finishing _ | finished _ _ => true
  | _ => false

def isDecision : Entry → Bool
  | decided _ _ => true
  | _ => false

def onSession : Entry → Bool
  | asked _ _ | closed _ => true
  | _ => false

def isCall : Entry → Bool
  | polled _ | noted _ => false
  | _ => true

theorem opens_iff {entry : Entry} : entry.opens = true ↔ ∃ game, entry = .started game (.ok ()) := by
  cases entry with
  | started game answer => cases answer <;> simp [opens, Except.isOk, Except.toBool]
  | _ => simp [opens]

theorem isClose_iff {entry : Entry} : entry.isClose = true ↔ ∃ answer, entry = .closed answer := by
  cases entry <;> simp [isClose]

end Entry

inductive Pending
  | nothing
  /-- The run looked, and was not cancelled. -/
  | looked
  /-- The agent chose a command that was not submitted yet. -/
  | chosen (command : String)

structure Standing where
  starts : Nat := 0
  isOpen : Bool := false
  preparing : Bool := false
  pending : Pending := .nothing
  game : String := ""
  run : Option EpisodeRun := none
  shown : List (String × EpisodeRun) := []
  submitted : List String := []
  cancelled : Bool := false
  failure : Option RunError := none

namespace Standing

structure GoesOn (standing : Standing) : Prop where
  unfailed : standing.failure = none
  uncancelled : standing.cancelled = false

def failure? {ε β : Type} (kind : ε → RunError) : Except ε β → Option RunError
  | .ok _ => none
  | .error error => some (kind error)

/-- The failure of a call of the run itself, other than closing a session. Failures that an agent meets
while it prepares are its own matter. -/
def failureOf (standing : Standing) : Entry → Option RunError
  | .started _ answer => failure? .engine answer
  | .asked _ answer => if standing.preparing then none else failure? .engine answer
  | .prepared answer => failure? .agent answer
  | .decided _ answer => failure? .agent answer
  | .finished _ answer => failure? .agent answer
  | _ => none

def closingFailureOf (standing : Standing) : Entry → Option RunError
  | .closed answer => if standing.cancelled then none else failure? .engine answer
  | _ => none

def told (standing : Standing) : (call : Call) → call.Answer → Standing
  | .reset, .ok state => { standing with run := some { last := { state } } }
  | .step command, .ok observation =>
    { standing with
      run := standing.run.map (·.after observation), submitted := command :: standing.submitted }
  | .step command, .error _ => { standing with submitted := command :: standing.submitted }
  | _, _ => standing

def moved (standing : Standing) : Entry → Standing
  | .started game (.ok _) =>
    { standing with
      starts := standing.starts + 1, isOpen := true, pending := .nothing, game, run := none }
  | .started _ (.error _) => { standing with starts := standing.starts + 1, pending := .nothing }
  | .asked call answer =>
    if standing.preparing then { standing with pending := .nothing }
    else { standing.told call answer with pending := .nothing }
  | .closed _ => { standing with isOpen := false, pending := .nothing }
  | .preparing => { standing with preparing := true, pending := .nothing }
  | .prepared _ => { standing with preparing := false, pending := .nothing }
  | .decided _ (.ok command) => { standing with pending := .chosen command }
  | .finishing _ =>
    { standing with
      pending := .nothing, shown := (standing.run.map (standing.game, ·)).toList ++ standing.shown }
  | .polled false => { standing with pending := .looked }
  | .polled true => { standing with pending := .nothing, cancelled := true }
  | .noted _ => standing
  | _ => { standing with pending := .nothing }

def after (standing : Standing) (entry : Entry) : Standing :=
  { standing.moved entry with
    failure :=
      (standing.failure.or (standing.failureOf entry)).or (standing.closingFailureOf entry) }

structure Stays (before after : Standing) : Prop where
  game : after.game = before.game
  shown : after.shown = before.shown

theorem Stays.refl (standing : Standing) : standing.Stays standing := ⟨rfl, rfl⟩

theorem Stays.trans {first second third : Standing} (stays : first.Stays second)
    (again : second.Stays third) : first.Stays third :=
  ⟨again.game.trans stays.game, again.shown.trans stays.shown⟩

theorem after_asked (standing : Standing) (call : Call) (answer : call.Answer) :
    ∃ run submitted failure, standing.after (.asked call answer) =
      { standing with run, submitted, failure, pending := .nothing } := by
  let after := standing.after (.asked call answer)
  refine ⟨after.run, after.submitted, after.failure, ?_⟩
  by_cases preparing : standing.preparing = true
  · simp [after, Standing.after, moved, preparing]
  · cases call <;> cases answer <;> simp [after, Standing.after, moved, told, preparing]

theorem stays_after (standing : Standing) (entry : Entry) (starts : entry.isStart = false)
    (finishes : entry.isFinish = false) : standing.Stays (standing.after entry) := by
  cases entry with
  | started _ _ | finishing _ | finished _ _ => contradiction
  | asked call answer =>
    obtain ⟨_, _, _, same⟩ := standing.after_asked call answer
    rw [same]
    exact ⟨rfl, rfl⟩
  | decided _ answer => cases answer <;> exact ⟨rfl, rfl⟩
  | polled seen => cases seen <;> exact ⟨rfl, rfl⟩
  | _ => exact ⟨rfl, rfl⟩

theorem run_asked {standing : Standing} (own : standing.preparing = false) (call : Call)
    (answer : call.Answer) :
    (standing.after (.asked call answer)).run = (standing.told call answer).run := by
  simp [after, moved, own]

theorem shown_finishing {standing : Standing} {run : EpisodeRun} (told : standing.run = some run)
    (observation : Observation) :
    (standing.after (.finishing observation)).shown = (standing.game, run) :: standing.shown := by
  simp [after, moved, told]

structure At (standing : Standing) (isOpen : Bool) (failure : Option RunError)
    (cancelled : Bool) : Prop where
  isOpen : standing.isOpen = isOpen
  unprepared : standing.preparing = false
  failure : standing.failure = failure
  cancelled : standing.cancelled = cancelled

namespace At

variable {standing : Standing} {isOpen cancelled : Bool} {failure : Option RunError}

theorem goesOn (stands : standing.At isOpen none false) : standing.GoesOn :=
  ⟨stands.failure, stands.cancelled⟩

theorem started (stands : standing.At false none false) (game : String)
    (answer : Except EngineError Unit) :
    (standing.after (.started game answer)).At answer.isOk (failure? .engine answer) false := by
  obtain ⟨closed, unprepared, unfailed, uncancelled⟩ := stands
  cases answer <;> constructor <;>
    simp [after, moved, failureOf, closingFailureOf, Except.isOk, Except.toBool, *]

theorem asked (stands : standing.At true none false) (call : Call) (answer : call.Answer) :
    (standing.after (.asked call answer)).At true (failure? .engine answer) false := by
  obtain ⟨opened, unprepared, unfailed, uncancelled⟩ := stands
  cases call <;> cases answer <;> constructor <;>
    simp [after, moved, told, failureOf, closingFailureOf, *]

theorem prepared (stands : standing.At true none false) (answer : Except AgentError Unit) :
    ((standing.after .preparing).after (.prepared answer)).At true (failure? .agent answer) false := by
  obtain ⟨opened, unprepared, unfailed, uncancelled⟩ := stands
  constructor <;> simp [after, moved, failureOf, closingFailureOf, *]

theorem decided (stands : standing.At true none false) (observation : Observation)
    (answer : Except AgentError String) :
    (standing.after (.decided observation answer)).At true (failure? .agent answer) false := by
  obtain ⟨opened, unprepared, unfailed, uncancelled⟩ := stands
  cases answer <;> constructor <;> simp [after, moved, failureOf, closingFailureOf, *]

theorem closed (stands : standing.At true failure cancelled) (answer : Except EngineError Unit) :
    (standing.after (.closed answer)).At false
      (failure.or (if cancelled then none else failure? .engine answer)) cancelled := by
  obtain ⟨opened, unprepared, failed, looked⟩ := stands
  constructor <;> simp [after, moved, failureOf, closingFailureOf, *]

theorem finishing (stands : standing.At false none false) (observation : Observation) :
    (standing.after (.finishing observation)).At false none false := by
  obtain ⟨closed, unprepared, unfailed, uncancelled⟩ := stands
  constructor <;> simp [after, moved, failureOf, closingFailureOf, *]

theorem finished (stands : standing.At false none false) (observation : Observation)
    (answer : Except AgentError Unit) :
    (standing.after (.finished observation answer)).At false (failure? .agent answer) false := by
  obtain ⟨closed, unprepared, unfailed, uncancelled⟩ := stands
  constructor <;> simp [after, moved, failureOf, closingFailureOf, *]

theorem polled (stands : standing.At isOpen none false) (seen : Bool) :
    (standing.after (.polled seen)).At isOpen none seen := by
  obtain ⟨opened, unprepared, unfailed, uncancelled⟩ := stands
  cases seen <;> constructor <;> simp [after, moved, failureOf, closingFailureOf, *]

theorem training (stands : standing.At isOpen failure cancelled) (on : Bool) :
    (standing.after (.training on)).At isOpen failure cancelled := by
  obtain ⟨opened, unprepared, failed, looked⟩ := stands
  constructor <;> simp [after, moved, failureOf, closingFailureOf, *]

end At
end Standing

def Journal.standing : Journal → Standing
  | [] => {}
  | entry :: earlier => (standing earlier).after entry

/-- What a run agreed to: how many commands an episode takes, whether the run looks before it goes on,
and when it counts as cancelled. -/
structure Terms where
  maxSteps : Nat
  watched : Bool := false
  cancelled : Journal → Bool := fun _ => false

def Standing.Allows (terms : Terms) (standing : Standing) : Entry → Prop
  | .started _ _ =>
    standing.GoesOn ∧ standing.isOpen = false ∧
      if terms.watched then standing.pending = .looked else standing.starts = 0
  | .asked call _ =>
    standing.GoesOn ∧ standing.isOpen = true ∧
      (standing.preparing = true ∨ ∀ command, call = .step command → standing.pending = .chosen command)
  | .closed _ => standing.isOpen = true ∧ standing.preparing = false
  | .preparing => standing.GoesOn ∧ standing.isOpen = true ∧ standing.preparing = false
  | .prepared _ => standing.GoesOn ∧ standing.isOpen = true ∧ standing.preparing = true
  | .decided observation _ =>
    standing.GoesOn ∧ standing.isOpen = true ∧ standing.preparing = false ∧
      (terms.watched → standing.pending = .looked) ∧
      ∃ run, standing.run = some run ∧ run.last = observation ∧ observation.done = false ∧
        run.steps < terms.maxSteps
  | .finishing observation =>
    standing.GoesOn ∧ standing.isOpen = false ∧
      ∃ run, standing.run = some run ∧ run.last = observation ∧
        (observation.done = true ∨ run.steps = terms.maxSteps)
  | .finished _ _ => standing.GoesOn ∧ standing.isOpen = false
  | .training _ => standing.GoesOn ∧ standing.isOpen = false
  | .polled _ => standing.GoesOn ∧ standing.preparing = false ∧ terms.watched = true
  | .noted _ => True

/-- Each entry was allowed where it came, and each look found what there was to be seen. -/
def Journal.Lawful (terms : Terms) : Journal → Prop
  | [] => True
  | entry :: earlier =>
    Lawful terms earlier ∧ (standing earlier).Allows terms entry ∧
      ∀ seen, entry = .polled seen → seen = terms.cancelled earlier

end TextQuest
