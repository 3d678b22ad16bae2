import Std.Data.TreeMap
import TextQuest.Neural.Scalar

/-!
Weights: a long row of numbers, nearly all of which are zero. Only those that were set are kept, so
that a row costs what was learned and not what it could hold. A row is known by its size and by the
weight at each place; both are said for every operation.
-/
namespace TextQuest.Neural

structure Weights (R : Type) where
  size : Nat
  entries : Std.TreeMap Nat R := ∅

namespace Weights

variable {R : Type} [Scalar R]

def zeros (size : Nat) : Weights R := ⟨size, ∅⟩

def get (weights : Weights R) (i : Nat) : R := weights.entries.getD i Scalar.zero

def add (i : Nat) (amount : R) (weights : Weights R) : Weights R :=
  if i < weights.size then
    { weights with entries := weights.entries.insert i (weights.get i + amount) }
  else weights

def toList (weights : Weights R) : List R := (List.range weights.size).map weights.get

def ofList (values : List R) : Weights R :=
  ⟨values.length, .ofList (values.zipIdx.map Prod.swap)⟩

theorem get_zeros (size i : Nat) : (zeros size : Weights R).get i = Scalar.zero := by
  simp [get, zeros]

theorem size_add (i : Nat) (amount : R) (weights : Weights R) :
    (weights.add i amount).size = weights.size := by
  unfold add
  split <;> rfl

theorem get_add (i j : Nat) (amount : R) (weights : Weights R) :
    (weights.add i amount).get j =
      if i = j ∧ i < weights.size then weights.get i + amount else weights.get j := by
  unfold add
  split
  · next bound => simp [get, Std.TreeMap.getD_insert, bound]
  · next bound => simp [bound]

theorem length_toList (weights : Weights R) : weights.toList.length = weights.size := by
  simp [toList]

theorem get_ofList (values : List R) (i : Nat) :
    (ofList values).get i = values.getD i Scalar.zero := by
  have distinct : (values.zipIdx.map Prod.swap).Pairwise
      fun a b => ¬ compare a.1 b.1 = Ordering.eq := by
    rw [List.pairwise_iff_getElem]
    intro i j _ _ before
    simp
    omega
  unfold get ofList
  by_cases bound : i < values.length
  · have member : (i, values[i]) ∈ values.zipIdx.map Prod.swap :=
      List.mem_map.2 ⟨(values[i], i), by simp [List.mem_zipIdx_iff_getElem?], rfl⟩
    rw [Std.TreeMap.getD_ofList_of_mem (Nat.compare_eq_eq.2 rfl) distinct member]
    simp [bound]
  · have absent : ((values.zipIdx.map Prod.swap).map Prod.fst).contains i = false := by
      simp only [List.contains_eq_mem, List.map_map, decide_eq_false_iff_not, List.mem_map]
      intro ⟨⟨value, place⟩, member, same⟩
      exact bound (same ▸ List.snd_lt_of_mem_zipIdx member)
    rw [Std.TreeMap.getD_ofList_of_contains_eq_false absent]
    simp only [List.getD_eq_getElem?_getD, List.getElem?_eq_none (Nat.le_of_not_lt bound),
      Option.getD_none]

theorem toList_ofList (values : List R) : (ofList values).toList = values := by
  apply List.ext_getElem
  · simp [toList, ofList]
  · intro i bound bound'
    simp [toList, get_ofList, bound']

end Weights
end TextQuest.Neural
