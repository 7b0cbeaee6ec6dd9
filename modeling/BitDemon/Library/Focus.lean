import BitDemon.Library.Machine

set_option autoImplicit false

/-!
# Parts of a state

A focus reads one part of a state and replaces it. A computation on the part runs
within the whole, and what stands apart from the part is as before.
-/

structure Focus (σ τ : Type) where
  get : σ → τ
  put : τ → σ → σ
  get_put : ∀ part s, get (put part s) = part
  put_get : ∀ s, put (get s) s = s

namespace Focus

open Machine

variable {ε σ τ υ α : Type}

def within (focus : Focus σ τ) (m : Machine ε τ α) : Machine ε σ α := fun s =>
  ((exec m (focus.get s)).1, focus.put (exec m (focus.get s)).2 s)

theorem exec_within (focus : Focus σ τ) (m : Machine ε τ α) (s : σ) :
    exec (focus.within m) s = ((exec m (focus.get s)).1, focus.put (exec m (focus.get s)).2 s) :=
  rfl

theorem exec_within_eq {focus : Focus σ τ} {m : Machine ε τ α} {s : σ} {outcome : Except ε α}
    {part : τ} (ran : exec m (focus.get s) = (outcome, part)) :
    exec (focus.within m) s = (outcome, focus.put part s) := by
  rw [exec_within, ran]

def Apart (focus : Focus σ τ) (read : σ → υ) : Prop := ∀ part s, read (focus.put part s) = read s

theorem Apart.within {focus : Focus σ τ} {read : σ → υ} (apart : focus.Apart read)
    (m : Machine ε τ α) (s : σ) : read (exec (focus.within m) s).2 = read s :=
  apart _ s

theorem keeps_within {focus : Focus σ τ} {m : Machine ε τ α} {kept : σ → Prop}
    {allowed : ε → Prop}
    (each : ∀ s, kept s → Keeps (fun part => kept (focus.put part s)) allowed m) :
    Keeps kept allowed (focus.within m) := by
  intro s holds
  have here : kept (focus.put (focus.get s) s) := (focus.put_get s).symm ▸ holds
  exact each s holds (focus.get s) here

theorem Apart.keeps {focus : Focus σ τ} {read : σ → υ} (apart : focus.Apart read)
    (m : Machine ε τ α) (kept : υ → Prop) :
    Keeps (fun s => kept (read s)) (fun _ => True) (focus.within m) := by
  intro s holds
  have after : kept (read (exec (focus.within m) s).2) := (apart.within m s).symm ▸ holds
  exact ⟨after, fun _ _ => trivial⟩

end Focus
