import Mathlib.Data.Finset.Card

set_option autoImplicit false

/-!
# The first of each key

A walk over a list that takes the first element of every key, and stops after
a number of them. What it takes depends on the order, how many do not.
-/

namespace FirstOfEach

variable {α β : Type} [DecidableEq β]

def walk (key : α → β) : List α → List β → Nat → List α
  | _, _, 0 => []
  | [], _, _ => []
  | a :: rest, seen, left + 1 =>
    if key a ∈ seen then walk key rest seen (left + 1)
    else a :: walk key rest (key a :: seen) left

variable {key : α → β}

@[simp] theorem walk_zero (items : List α) (seen : List β) : walk key items seen 0 = [] := by
  cases items <;> rfl

@[simp] theorem walk_nil (seen : List β) (left : Nat) : walk key [] seen left = [] := by
  cases left <;> rfl

theorem walk_sublist (items : List α) (seen : List β) (left : Nat) :
    (walk key items seen left).Sublist items := by
  induction items generalizing seen left with
  | nil => simp
  | cons a rest ih =>
    cases left with
    | zero => simp
    | succ left =>
      rw [walk]
      split
      next => exact (ih seen (left + 1)).cons a
      next => exact (ih (key a :: seen) left).cons_cons a

theorem walk_fresh (items : List α) (seen : List β) (left : Nat) :
    ∀ a ∈ walk key items seen left, key a ∉ seen := by
  induction items generalizing seen left with
  | nil => simp
  | cons a rest ih =>
    cases left with
    | zero => simp
    | succ left =>
      rw [walk]
      split
      next => exact ih seen (left + 1)
      next fresh =>
        intro b member
        rcases List.mem_cons.mp member with rfl | later
        next => exact fresh
        next => exact fun old => ih (key a :: seen) left b later (List.mem_cons_of_mem _ old)

theorem walk_nodup (items : List α) (seen : List β) (left : Nat) :
    ((walk key items seen left).map key).Nodup := by
  induction items generalizing seen left with
  | nil => simp
  | cons a rest ih =>
    cases left with
    | zero => simp
    | succ left =>
      rw [walk]
      split
      next => exact ih seen (left + 1)
      next =>
        rw [List.map_cons, List.nodup_cons]
        refine ⟨fun again => ?_, ih (key a :: seen) left⟩
        obtain ⟨b, member, same⟩ := List.mem_map.mp again
        exact walk_fresh rest (key a :: seen) left b member (same ▸ List.mem_cons_self)

-- the keys that are still to be met
def unseen (key : α → β) (items : List α) (seen : List β) : Finset β :=
  (items.map key).toFinset \ seen.toFinset

theorem unseen_cons_old {a : α} {items : List α} {seen : List β} (old : key a ∈ seen) :
    unseen key (a :: items) seen = unseen key items seen := by
  ext k
  simp only [unseen, List.map_cons, List.toFinset_cons, Finset.mem_sdiff, Finset.mem_insert,
    List.mem_toFinset]
  constructor
  · rintro ⟨rfl | later, fresh⟩
    · exact absurd old fresh
    · exact ⟨later, fresh⟩
  · rintro ⟨later, fresh⟩
    exact ⟨.inr later, fresh⟩

theorem card_unseen_cons_new {a : α} {items : List α} {seen : List β} (fresh : key a ∉ seen) :
    (unseen key (a :: items) seen).card = (unseen key items (key a :: seen)).card + 1 := by
  have split : unseen key (a :: items) seen = insert (key a) (unseen key items (key a :: seen)) := by
    ext k
    simp only [unseen, List.map_cons, List.toFinset_cons, Finset.mem_sdiff, Finset.mem_insert,
      List.mem_toFinset]
    by_cases same : k = key a
    · subst same
      simp [fresh]
    · simp [same]
  rw [split, Finset.card_insert_of_notMem]
  simp [unseen]

theorem walk_length (items : List α) (seen : List β) (left : Nat) :
    (walk key items seen left).length = min left (unseen key items seen).card := by
  induction items generalizing seen left with
  | nil => simp [unseen]
  | cons a rest ih =>
    cases left with
    | zero => simp
    | succ left =>
      rw [walk]
      split
      next old => rw [ih, unseen_cons_old old]
      next fresh =>
        rw [List.length_cons, ih, card_unseen_cons_new fresh]
        omega

end FirstOfEach
