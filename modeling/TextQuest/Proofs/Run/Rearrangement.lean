import Mathlib.Algebra.BigOperators.Group.List.Defs
import Mathlib.Algebra.Group.End
import Mathlib.Data.List.FinRange
import Mathlib.Tactic.SplitIfs
import TextQuest.Run.Train

namespace TextQuest

namespace Random

variable {α : Type} {count : Nat}

/-- The exchange of two places. Unless both exist, nothing is moved. -/
def transposition (count : Nat) (places : Nat × Nat) : Equiv.Perm (Fin count) :=
  if inside : places.1 < count ∧ places.2 < count then
    Equiv.swap ⟨places.1, inside.1⟩ ⟨places.2, inside.2⟩
  else 1

theorem exchange_ofFn (entry : Fin count → α) (places : Nat × Nat) :
    exchange (Array.ofFn entry) places = Array.ofFn (entry ∘ transposition count places) := by
  unfold exchange transposition
  by_cases inside : places.1 < count ∧ places.2 < count
  · rw [dif_pos inside]
    apply Array.ext
    · simp
    · intro place _ _
      simp only [Array.swapIfInBounds_def, Array.size_ofFn, inside, dif_pos, Array.getElem_swap,
        Array.getElem_ofFn, Function.comp_apply, Equiv.swap_apply_def, Fin.ext_iff]
      split_ifs <;> rfl
  · rw [dif_neg inside, Equiv.Perm.coe_one, Function.comp_id]
    simp only [Array.swapIfInBounds_def, Array.size_ofFn]
    grind

theorem foldl_exchange_ofFn (entry : Fin count → α) (places : List (Nat × Nat)) :
    places.foldl exchange (Array.ofFn entry) =
      Array.ofFn (entry ∘ (places.map (transposition count)).prod) := by
  induction places generalizing entry with
  | nil => rfl
  | cons first places ih =>
    rw [List.foldl_cons, exchange_ofFn, ih, List.map_cons, List.prod_cons, Equiv.Perm.coe_mul,
      Function.comp_assoc]

def Generator.arrangement (g : Generator) (count : Nat) : Equiv.Perm (Fin count) :=
  ((g.exchanges count).1.map (transposition count)).prod

theorem shuffle_ofFn (entry : Fin count → α) (g : Generator) :
    shuffle (Array.ofFn entry) g =
      (Array.ofFn (entry ∘ g.arrangement count), (g.exchanges count).2) := by
  simp only [shuffle, Array.size_ofFn, foldl_exchange_ofFn, Generator.arrangement]

end Random

namespace EpochOrder
open TextQuest.Random

def arrangementFrom (count : Nat) : Nat → Generator → Equiv.Perm (Fin count)
  | 0, g => g.arrangement count
  | epoch + 1, g => g.arrangement count * arrangementFrom count epoch (g.exchanges count).2

def arrangement (seed : UInt64) (count epoch : Nat) : Equiv.Perm (Fin count) :=
  arrangementFrom count epoch (.ofSeed seed)

theorem next_ofFn {count : Nat} (game : Fin count → String) (g : Generator) :
    next ⟨Array.ofFn game, g⟩ =
      ⟨Array.ofFn (game ∘ g.arrangement count), (g.exchanges count).2⟩ := by
  simp only [next, shuffle_ofFn]

theorem orders_ofFn {count : Nat} (epochs : Nat) (game : Fin count → String) (g : Generator) :
    orders epochs ⟨Array.ofFn game, g⟩ =
      (List.range epochs).map fun epoch => List.ofFn (game ∘ arrangementFrom count epoch g) := by
  induction epochs generalizing game g with
  | zero => rfl
  | succ epochs ih =>
    rw [orders, next_ofFn, ih, List.range_succ_eq_map, List.map_cons, List.map_map, Array.toList_ofFn]
    rfl

theorem orders_first {count : Nat} (game : Fin count → String) (seed : UInt64) (epochs : Nat) :
    orders epochs (.first (List.ofFn game) seed) =
      (List.range epochs).map fun epoch => List.ofFn (game ∘ arrangement seed count epoch) := by
  have given : (List.ofFn game).toArray = Array.ofFn game := by
    rw [← Array.toList_inj, Array.toList_ofFn]
  rw [first, given, orders_ofFn]
  rfl

theorem orders_map (rename : String → String) (games : List String) (seed : UInt64) (epochs : Nat) :
    orders epochs (.first (games.map rename) seed) =
      (orders epochs (.first games seed)).map (List.map rename) := by
  rw [← List.ofFn_get games, List.map_ofFn, orders_first, orders_first, List.map_map]
  refine List.map_congr_left fun epoch _ => ?_
  rw [Function.comp_apply, List.map_ofFn, Function.comp_assoc]

theorem perm_of_mem_orders {games order : List String} {seed : UInt64} {epochs : Nat}
    (mem : order ∈ orders epochs (.first games seed)) : order.Perm games := by
  rw [← List.ofFn_get games, orders_first] at mem
  obtain ⟨epoch, -, rfl⟩ := List.mem_map.mp mem
  have perm := (arrangement seed games.length epoch).ofFn_comp_perm games.get
  rwa [List.ofFn_get] at perm

end EpochOrder

/-- The orders of the epochs are arrangements of the places of the games, which are given by the seed, the
number of games and the number of the epoch alone. So each order has every game as often as it was given,
and games of other names are put in the same orders. -/
theorem epoch_orders_arrange_places (seed : UInt64) (games : List String) (epochs : Nat) :
    EpochOrder.orders epochs (.first games seed) =
        (List.range epochs).map (fun epoch =>
          List.ofFn (games.get ∘ EpochOrder.arrangement seed games.length epoch)) ∧
      (∀ order ∈ EpochOrder.orders epochs (.first games seed), ∀ game,
        order.count game = games.count game) ∧
      ∀ rename : String → String, EpochOrder.orders epochs (.first (games.map rename) seed) =
        (EpochOrder.orders epochs (.first games seed)).map (List.map rename) := by
  refine ⟨?_, fun order mem game => ?_, fun rename => ?_⟩
  · conv_lhs => rw [← List.ofFn_get games]
    exact EpochOrder.orders_first games.get seed epochs
  · exact (EpochOrder.perm_of_mem_orders mem).count_eq game
  · exact EpochOrder.orders_map rename games seed epochs

end TextQuest
