/-!
Programs that talk to their surroundings. A dialogue either has its result or performs an act and goes
on with the answer; what the surroundings are like is left open until it is run.
-/
namespace TextQuest

inductive Dialogue (Act : Type) (Answer : Act → Type) (β : Type) : Type
  | done (result : β)
  | act (act : Act) (next : Answer act → Dialogue Act Answer β)

namespace Dialogue

variable {Act : Type} {Answer : Act → Type} {β γ ω : Type}

def bind : Dialogue Act Answer β → (β → Dialogue Act Answer γ) → Dialogue Act Answer γ
  | done result, next => next result
  | act a rest, next => act a fun answer => (rest answer).bind next

instance : Monad (Dialogue Act Answer) where
  pure := done
  bind := bind

def ask (a : Act) : Dialogue Act Answer (Answer a) := act a done

def run (respond : (a : Act) → ω → Answer a × ω) : Dialogue Act Answer β → ω → β × ω
  | done result, world => (result, world)
  | act a next, world =>
    let (answer, world) := respond a world
    (next answer).run respond world

@[simp] theorem pure_eq_done (result : β) : (pure result : Dialogue Act Answer β) = done result := rfl

@[simp] theorem done_bind (result : β) (next : β → Dialogue Act Answer γ) :
    (done result >>= next) = next result := rfl

@[simp] theorem act_bind (a : Act) (rest : Answer a → Dialogue Act Answer β)
    (next : β → Dialogue Act Answer γ) :
    (act a rest >>= next) = act a fun answer => rest answer >>= next := rfl

@[simp] theorem run_done (respond : (a : Act) → ω → Answer a × ω) (result : β) (world : ω) :
    (done result : Dialogue Act Answer β).run respond world = (result, world) := rfl

@[simp] theorem run_act (respond : (a : Act) → ω → Answer a × ω) (a : Act)
    (next : Answer a → Dialogue Act Answer β) (world : ω) :
    (act a next).run respond world =
      (next (respond a world).1).run respond (respond a world).2 := rfl

theorem run_bind (respond : (a : Act) → ω → Answer a × ω) (first : Dialogue Act Answer β)
    (next : β → Dialogue Act Answer γ) (world : ω) :
    (first >>= next).run respond world =
      (next (first.run respond world).1).run respond (first.run respond world).2 := by
  induction first generalizing world with
  | done result => rfl
  | act a rest ih => exact ih _ _

end Dialogue
end TextQuest
