namespace TextQuest

variable {α : Type} [LT α] [DecidableLT α] [DecidableEq α]

def dropRepeats : List α → List α
  | a :: b :: rest => if a = b then dropRepeats (b :: rest) else a :: dropRepeats (b :: rest)
  | rest => rest

def sortedOnce (items : List α) : List α :=
  dropRepeats (items.mergeSort fun a b => !decide (b < a))

omit [LT α] [DecidableLT α] in
@[simp] theorem mem_dropRepeats {a : α} {items : List α} : a ∈ dropRepeats items ↔ a ∈ items := by
  fun_induction dropRepeats items with
  | case1 b rest ih => simp [ih]
  | case2 b c rest _ ih => simp [ih]
  | case3 => rfl

@[simp] theorem mem_sortedOnce {a : α} {items : List α} : a ∈ sortedOnce items ↔ a ∈ items := by
  simp [sortedOnce]

end TextQuest
