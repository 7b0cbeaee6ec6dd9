import Mathlib.Data.List.Sort

set_option autoImplicit false

/-!
# The best of a list

What is left of a sorted list when it is cut off: nothing that is left out
stands before anything that is kept.
-/

namespace Ranking

variable {α : Type} (r : α → α → Prop) [DecidableRel r]

def best (n : Nat) (rows : List α) : List α := (rows.insertionSort r).take n

structure IsBest (r : α → α → Prop) (n : Nat) (rows best : List α) : Prop where
  ordered : best.Pairwise r
  among : ∀ a ∈ best, a ∈ rows
  once : rows.Nodup → best.Nodup
  atMost : best.length ≤ n
  leftOut : ∀ b ∈ rows, b ∉ best → best.length = n ∧ ∀ a ∈ best, r a b

theorem isBest [Std.Total r] [IsTrans α r] (n : Nat) (rows : List α) :
    IsBest r n rows (best r n rows) := by
  have sorted := List.pairwise_insertionSort r rows
  have perm := List.perm_insertionSort r rows
  rw [best]
  generalize rows.insertionSort r = order at sorted perm
  refine ⟨sorted.sublist (List.take_sublist n order), ?_, ?_, List.length_take_le n order, ?_⟩
  · exact fun a member => perm.mem_iff.mp (List.mem_of_mem_take member)
  · exact fun once => (perm.nodup_iff.mpr once).sublist (List.take_sublist n order)
  · intro b member out
    have split := List.take_append_drop n order
    have behind : b ∈ order.drop n := by
      have whole : b ∈ order.take n ++ order.drop n := by rw [split]; exact perm.mem_iff.mpr member
      exact (List.mem_append.mp whole).resolve_left out
    constructor
    · have beyond := List.length_pos_of_mem behind
      rw [List.length_drop] at beyond
      rw [List.length_take]
      omega
    · rw [← split, List.pairwise_append] at sorted
      exact fun a kept => sorted.2.2 a kept b behind

end Ranking
