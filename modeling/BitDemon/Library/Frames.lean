import BitDemon.Library.Machine

set_option autoImplicit false

/-!
# Frames and pairs of runs

A computation commutes with a change of the state that it neither sees nor
undoes. Two computations are related when from states in one relation they come
to the same outcome and to states in another.
-/

namespace Machine

variable {ε σ α β : Type}

def Commutes (change : σ → σ) (m : Machine ε σ α) : Prop :=
  ∀ s, exec m (change s) = ((exec m s).1, change (exec m s).2)

section Commutes

variable {change : σ → σ}

theorem commutes_pure (a : α) : Commutes change (pure a : Machine ε σ α) := fun _ => rfl

theorem commutes_throw (e : ε) : Commutes change (throw e : Machine ε σ α) := fun _ => rfl

theorem commutes_modify {f : σ → σ} (order : ∀ s, f (change s) = change (f s)) :
    Commutes change (modify f : Machine ε σ PUnit) := by
  intro s
  simp [order]

theorem commutes_bind {m : Machine ε σ α} {f : α → Machine ε σ β} (first : Commutes change m)
    (next : ∀ a, Commutes change (f a)) : Commutes change (m >>= f) := by
  intro s
  rw [exec_bind, exec_bind, first s]
  rcases exec m s with ⟨result, t⟩
  cases result with
  | ok a => exact next a t
  | error e => rfl

theorem commutes_get_bind {f : σ → Machine ε σ β} (unseen : ∀ s, f (change s) = f s)
    (next : ∀ s, Commutes change (f s)) : Commutes change (get >>= f) := by
  intro s
  simp [exec_bind, unseen, next s s]

theorem commutes_ite {c : Prop} [Decidable c] {m n : Machine ε σ α} (yes : Commutes change m)
    (no : Commutes change n) : Commutes change (if c then m else n) := by
  split
  · exact yes
  · exact no

theorem Commutes.fixed {m : Machine ε σ α} (commutes : Commutes change m) {s : σ}
    (still : change s = s) : change (exec m s).2 = (exec m s).2 := by
  have both := commutes s
  rw [still] at both
  exact (congrArg Prod.snd both).symm

end Commutes

def Related (before after : σ → σ → Prop) (m n : Machine ε σ α) : Prop :=
  ∀ s t, before s t → (exec m s).1 = (exec n t).1 ∧ after (exec m s).2 (exec n t).2

theorem related_bind {before after : σ → σ → Prop} {m n : Machine ε σ α}
    {f g : α → Machine ε σ β} (first : Related before after m n)
    (next : ∀ a, Related after after (f a) (g a)) : Related before after (m >>= f) (n >>= g) := by
  intro s t holds
  have both := first s t holds
  rw [exec_bind, exec_bind]
  rcases ran : exec m s with ⟨result, u⟩
  rcases ranToo : exec n t with ⟨other, v⟩
  rw [ran, ranToo] at both
  obtain ⟨rfl, later⟩ := both
  cases result with
  | ok a => exact next a u v later
  | error e => exact ⟨rfl, later⟩

end Machine
