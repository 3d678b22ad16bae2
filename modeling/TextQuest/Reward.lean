namespace TextQuest

inductive Reward
  | negative
  | neutral
  | positive
  deriving DecidableEq

namespace Reward

instance : Inhabited Reward := ⟨.neutral⟩

def value : Reward → Int
  | negative => -1
  | neutral => 0
  | positive => 1

structure OutOfRange where
  signal : Int
  deriving DecidableEq

def OutOfRange.message (e : OutOfRange) : String :=
  s!"reward signal out of range: {e.signal} (expected -1, 0 or 1)"

def ofSignal (signal : Int) : Except OutOfRange Reward :=
  if signal = -1 then .ok negative
  else if signal = 0 then .ok neutral
  else if signal = 1 then .ok positive
  else .error ⟨signal⟩

@[simp] theorem ofSignal_value (reward : Reward) : ofSignal reward.value = .ok reward := by
  cases reward <;> rfl

end Reward
end TextQuest
