import Mathlib.Algebra.BigOperators.Group.Multiset.Basic
import Mathlib.Algebra.Order.Group.Int
import Mathlib.Data.Multiset.AddSub

set_option autoImplicit false

/-!
# Amounts added up by key

Batches of keyed amounts are added up in some order. A running sum depends on
the order, the sum over all batches does not.
-/

namespace Tally

variable {κ : Type} [DecidableEq κ]

def total (k : κ) : List (κ × Int) → Int
  | [] => 0
  | entry :: rest => (if entry.1 = k then entry.2 else 0) + total k rest

@[simp] theorem total_nil (k : κ) : total k [] = 0 := rfl

@[simp] theorem total_cons (k : κ) (entry : κ × Int) (rest : List (κ × Int)) :
    total k (entry :: rest) = (if entry.1 = k then entry.2 else 0) + total k rest := rfl

@[simp] theorem total_append (k : κ) (first rest : List (κ × Int)) :
    total k (first ++ rest) = total k first + total k rest := by
  induction first with
  | nil => simp
  | cons entry first ih => rw [List.cons_append, total_cons, total_cons, ih, Int.add_assoc]

section Batches

variable {ρ : Type} (entries : ρ → List (κ × Int)) {fits : Int → Prop}

def totalOf (k : κ) (batches : Multiset ρ) : Int :=
  (batches.map fun batch => total k (entries batch)).sum

theorem totalOf_coe (k : κ) (order : List ρ) :
    totalOf entries k (order : Multiset ρ) = total k (order.flatMap entries) := by
  rw [totalOf, Multiset.map_coe, Multiset.sum_coe]
  induction order with
  | nil => rfl
  | cons batch rest ih => rw [List.map_cons, List.sum_cons, ih, List.flatMap_cons, total_append]

def InRange (fits : Int → Prop) (order : List ρ) : Prop :=
  ∀ before next after, order = before ++ next :: after → ∀ first, first <+: entries next →
    ∀ k, fits (total k (before.flatMap entries) + total k first)

def Bounded (fits : Int → Prop) (batches : Multiset ρ) : Prop :=
  ∀ earlier next, next ::ₘ earlier ≤ batches → ∀ first, first <+: entries next →
    ∀ k, fits (totalOf entries k earlier + total k first)

theorem bounded_iff_inRange (batches : Multiset ρ) :
    Bounded entries fits batches
      ↔ ∀ order : List ρ, (order : Multiset ρ) = batches → InRange entries fits order := by
  constructor
  · intro bounded order whole before next after split first part k
    have among : next ::ₘ (before : Multiset ρ) ≤ batches := by
      rw [← whole, split, Multiset.cons_coe, Multiset.coe_le]
      have part := (List.sublist_append_left before after).cons_cons next
      exact part.subperm.trans List.perm_middle.symm.subperm
    rw [← totalOf_coe]
    exact bounded before next among first part k
  · intro inRange earlier next among first part k
    obtain ⟨others, rfl⟩ := Multiset.le_iff_exists_add.mp among
    have ordered := inRange (earlier.toList ++ next :: others.toList)
      (by rw [← Multiset.coe_add, ← Multiset.cons_coe, Multiset.coe_toList, Multiset.coe_toList,
        Multiset.add_cons, Multiset.cons_add]) _ _ _ rfl first part k
    rwa [← totalOf_coe, Multiset.coe_toList] at ordered

end Batches

end Tally
