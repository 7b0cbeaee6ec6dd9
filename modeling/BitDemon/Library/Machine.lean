import Mathlib.Logic.Function.Basic

set_option autoImplicit false

/-!
# Fallible stateful computations

A `Machine` returns a value or fails, and in both cases leaves a state behind:
a failed step does not roll back what it changed before it failed.
-/

abbrev Machine (ε σ α : Type) := ExceptT ε (StateM σ) α

namespace Machine

variable {ε σ α β : Type}

def exec (m : Machine ε σ α) (s : σ) : Except ε α × σ := m s

/-- Run a computation for its outcome: a failure becomes a value. -/
def attempt (m : Machine ε σ α) : Machine ε σ (Except ε α) :=
  fun s => (.ok (m s).1, (m s).2)

@[simp] theorem exec_pure (a : α) (s : σ) :
    exec (pure a : Machine ε σ α) s = (.ok a, s) := rfl

@[simp] theorem exec_throw (e : ε) (s : σ) :
    exec (throw e : Machine ε σ α) s = (.error e, s) := rfl

@[simp] theorem exec_get (s : σ) : exec (get : Machine ε σ σ) s = (.ok s, s) := rfl

@[simp] theorem exec_set (t s : σ) : exec (set t : Machine ε σ PUnit) s = (.ok ⟨⟩, t) := rfl

@[simp] theorem exec_modify (f : σ → σ) (s : σ) :
    exec (modify f : Machine ε σ PUnit) s = (.ok ⟨⟩, f s) := rfl

@[simp] theorem exec_ofExcept (outcome : Except ε α) (s : σ) :
    exec (MonadExcept.ofExcept outcome : Machine ε σ α) s = (outcome, s) := by
  cases outcome <;> rfl

@[simp] theorem exec_attempt (m : Machine ε σ α) (s : σ) :
    exec (attempt m) s = (.ok (exec m s).1, (exec m s).2) := rfl

theorem exec_bind (m : Machine ε σ α) (f : α → Machine ε σ β) (s : σ) :
    exec (m >>= f) s =
      match exec m s with
      | (.ok a, t) => exec (f a) t
      | (.error e, t) => (.error e, t) := by
  change (ExceptT.bind m f : Machine ε σ β) s = _
  simp only [ExceptT.bind, ExceptT.mk, exec, bind, StateT.bind]
  rcases m s with ⟨outcome, t⟩
  cases outcome <;> rfl

theorem exec_bind_ok {m : Machine ε σ α} {s t : σ} {a : α} (f : α → Machine ε σ β)
    (first : exec m s = (.ok a, t)) : exec (m >>= f) s = exec (f a) t := by
  rw [exec_bind, first]

theorem exec_bind_error {m : Machine ε σ α} {s t : σ} {e : ε} (f : α → Machine ε σ β)
    (first : exec m s = (.error e, t)) : exec (m >>= f) s = (.error e, t) := by
  rw [exec_bind, first]

/-- A sequence that ends well has a first part that did, and a rest that did from there. -/
theorem ok_of_bind {m : Machine ε σ α} {f : α → Machine ε σ β} {s : σ} {b : β}
    (ends : (exec (m >>= f) s).1 = .ok b) :
    ∃ a t, exec m s = (.ok a, t) ∧ (exec (f a) t).1 = .ok b := by
  rw [exec_bind] at ends
  rcases outcome : exec m s with ⟨result, t⟩
  rw [outcome] at ends
  cases result with
  | ok a => exact ⟨a, t, rfl, ends⟩
  | error e => cases ends

theorem exec_bind_eq_ok_iff {m : Machine ε σ α} {f : α → Machine ε σ β} {s t : σ} {b : β} :
    exec (m >>= f) s = (.ok b, t)
      ↔ ∃ a u, exec m s = (.ok a, u) ∧ exec (f a) u = (.ok b, t) := by
  rw [exec_bind]
  rcases exec m s with ⟨_ | a, u⟩
  · simp
  · constructor
    · intro ran
      exact ⟨a, u, rfl, ran⟩
    · rintro ⟨_, _, same, ran⟩
      cases same
      exact ran

@[simp] theorem exec_map (f : α → β) (m : Machine ε σ α) (s : σ) :
    exec (f <$> m) s = ((exec m s).1.map f, (exec m s).2) := by
  rw [map_eq_pure_bind, exec_bind]
  rcases exec m s with ⟨outcome, t⟩
  cases outcome <;> rfl

/--
Every run from a state in `kept` ends in a state in `kept`, and when it fails
it fails with an error in `allowed`.
-/
def Keeps (kept : σ → Prop) (allowed : ε → Prop) (m : Machine ε σ α) : Prop :=
  ∀ s, kept s → kept (exec m s).2 ∧ ∀ e, (exec m s).1 = .error e → allowed e

variable {kept : σ → Prop} {allowed other : ε → Prop}

theorem keeps_pure (a : α) : Keeps kept allowed (pure a : Machine ε σ α) := by
  intro s holds
  exact ⟨holds, by simp⟩

theorem keeps_throw {e : ε} (fine : allowed e) :
    Keeps kept allowed (throw e : Machine ε σ α) := by
  intro s holds
  exact ⟨holds, by simp [fine]⟩

theorem keeps_modify {f : σ → σ} (stable : ∀ s, kept s → kept (f s)) :
    Keeps kept allowed (modify f : Machine ε σ PUnit) := by
  intro s holds
  exact ⟨stable s holds, by simp⟩

theorem keeps_bind {m : Machine ε σ α} {f : α → Machine ε σ β}
    (first : Keeps kept allowed m) (next : ∀ a, Keeps kept allowed (f a)) :
    Keeps kept allowed (m >>= f) := by
  intro s holds
  have here := first s holds
  rw [exec_bind]
  rcases outcome : exec m s with ⟨result, t⟩
  rw [outcome] at here
  cases result with
  | ok a => exact next a t here.1
  | error e => exact ⟨here.1, fun _ same => here.2 _ (by simpa using same)⟩

theorem keeps_set {t : σ} (fine : kept t) : Keeps kept allowed (set t : Machine ε σ PUnit) := by
  intro s holds
  exact ⟨fine, by simp⟩

theorem keeps_get_bind {f : σ → Machine ε σ β}
    (next : ∀ s, kept s → Keeps kept allowed (f s)) : Keeps kept allowed (get >>= f) := by
  intro s holds
  rw [exec_bind]
  exact next s holds s holds

theorem keeps_ite {c : Prop} [Decidable c] {m n : Machine ε σ α}
    (yes : c → Keeps kept allowed m) (no : ¬c → Keeps kept allowed n) :
    Keeps kept allowed (if c then m else n) := by
  split
  · exact yes ‹_›
  · exact no ‹_›

theorem keeps_imp {m : Machine ε σ α} (inner : Keeps kept allowed m)
    (weaker : ∀ e, allowed e → other e) : Keeps kept other m := by
  intro s holds
  exact ⟨(inner s holds).1, fun e failed => weaker e ((inner s holds).2 e failed)⟩

theorem Keeps.and {before : σ → Prop} {m : Machine ε σ α} (first : Keeps kept allowed m)
    (second : Keeps before other m) :
    Keeps (fun s => kept s ∧ before s) (fun e => allowed e ∧ other e) m := by
  intro s holds
  have one := first s holds.1
  have two := second s holds.2
  exact ⟨⟨one.1, two.1⟩, fun e failed => ⟨one.2 e failed, two.2 e failed⟩⟩

/-- As `Keeps`, and the value of a run that succeeds has a property. -/
def Yields (kept : σ → Prop) (allowed : ε → Prop) (post : α → Prop) (m : Machine ε σ α) : Prop :=
  ∀ s, kept s → kept (exec m s).2 ∧ (∀ a, (exec m s).1 = .ok a → post a)
    ∧ ∀ e, (exec m s).1 = .error e → allowed e

section Yields

variable {post : α → Prop} {after : β → Prop}

theorem yields_pure {a : α} (holds : post a) :
    Yields kept allowed post (pure a : Machine ε σ α) := by
  intro s fine
  exact ⟨fine, by simp [holds], by simp⟩

theorem yields_throw {e : ε} (fine : allowed e) :
    Yields kept allowed post (throw e : Machine ε σ α) := by
  intro s holds
  exact ⟨holds, by simp, by simp [fine]⟩

theorem Keeps.yields {m : Machine ε σ α} (keeps : Keeps kept allowed m) :
    Yields kept allowed (fun _ => True) m := by
  intro s holds
  exact ⟨(keeps s holds).1, fun _ _ => trivial, (keeps s holds).2⟩

theorem Yields.keeps {m : Machine ε σ α} (yields : Yields kept allowed post m) :
    Keeps kept allowed m := by
  intro s holds
  exact ⟨(yields s holds).1, (yields s holds).2.2⟩

theorem Yields.imp {m : Machine ε σ α} {also : α → Prop} (yields : Yields kept allowed post m)
    (values : ∀ a, post a → also a) (errors : ∀ e, allowed e → other e) :
    Yields kept other also m := by
  intro s holds
  obtain ⟨stays, good, failed⟩ := yields s holds
  exact ⟨stays, fun a ran => values a (good a ran), fun e ran => errors e (failed e ran)⟩

theorem yields_any (m : Machine ε σ α) :
    Yields (fun _ => True) (fun _ => True) (fun _ => True) m :=
  fun _ _ => ⟨trivial, fun _ _ => trivial, fun _ _ => trivial⟩

theorem yields_bind {m : Machine ε σ α} {f : α → Machine ε σ β}
    (first : Yields kept allowed post m)
    (next : ∀ a, post a → Yields kept allowed after (f a)) :
    Yields kept allowed after (m >>= f) := by
  intro s holds
  have here := first s holds
  rw [exec_bind]
  rcases outcome : exec m s with ⟨result, t⟩
  rw [outcome] at here
  cases result with
  | ok a => exact next a (here.2.1 a rfl) t here.1
  | error e => exact ⟨here.1, by simp, fun _ same => here.2.2 _ (by simpa using same)⟩

theorem keeps_bind_yields {m : Machine ε σ α} {f : α → Machine ε σ β}
    (first : Yields kept allowed post m) (next : ∀ a, post a → Keeps kept allowed (f a)) :
    Keeps kept allowed (m >>= f) :=
  Yields.keeps (yields_bind first fun a holds => (next a holds).yields)

theorem yields_get_bind {f : σ → Machine ε σ β}
    (next : ∀ s, kept s → Yields kept allowed after (f s)) :
    Yields kept allowed after (get >>= f) := by
  intro s holds
  rw [exec_bind]
  exact next s holds s holds

theorem yields_ite {c : Prop} [Decidable c] {m n : Machine ε σ α}
    (yes : c → Yields kept allowed post m) (no : ¬c → Yields kept allowed post n) :
    Yields kept allowed post (if c then m else n) := by
  split
  · exact yes ‹_›
  · exact no ‹_›

end Yields

end Machine
