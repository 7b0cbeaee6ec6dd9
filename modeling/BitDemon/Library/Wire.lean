import BitDemon.Library.Machine

set_option autoImplicit false

/-!
# Writers and readers of one stream

A writer's state shows what it has written so far and a reader's state what is
left to read. A code is a stretch of the stream; a writer emits it, a reader
accepts it, and a value survives the trip when both are about one code.
-/

namespace Wire

open Machine

variable {ε σ β α γ : Type} {ready : σ → Prop} {view : σ → List β}

/-- From every ready state the computation returns `a` and appends `code`. -/
def Emits (ready : σ → Prop) (view : σ → List β) (m : Machine ε σ α) (code : List β) (a : α) :
    Prop :=
  ∀ s, ready s → ∃ t, exec m s = (.ok a, t) ∧ ready t ∧ view t = view s ++ code

/-- From every ready state that starts with `code` the computation returns `a` and drops `code`. -/
def Accepts (ready : σ → Prop) (view : σ → List β) (m : Machine ε σ α) (code : List β) (a : α) :
    Prop :=
  ∀ s rest, ready s → view s = code ++ rest →
    ∃ t, exec m s = (.ok a, t) ∧ ready t ∧ view t = rest

theorem emits_pure (a : α) : Emits ready view (pure a : Machine ε σ α) [] a := by
  intro s holds
  exact ⟨s, rfl, holds, by simp⟩

theorem emits_bind {m : Machine ε σ α} {f : α → Machine ε σ γ} {code more : List β} {a : α} {c : γ}
    (first : Emits ready view m code a) (next : Emits ready view (f a) more c) :
    Emits ready view (m >>= f) (code ++ more) c := by
  intro s holds
  obtain ⟨middle, ran, fine, wrote⟩ := first s holds
  obtain ⟨last, ranNext, fineNext, wroteNext⟩ := next middle fine
  refine ⟨last, ?_, fineNext, ?_⟩
  · rw [exec_bind_ok f ran, ranNext]
  · rw [wroteNext, wrote, List.append_assoc]

theorem emits_get_bind {f : σ → Machine ε σ γ} {code : List β} {c : γ}
    (next : ∀ s, ready s → Emits ready view (f s) code c) :
    Emits ready view (get >>= f) code c := by
  intro s holds
  rw [exec_bind]
  exact next s holds s holds

theorem accepts_pure (a : α) : Accepts ready view (pure a : Machine ε σ α) [] a := by
  intro s rest holds starts
  exact ⟨s, rfl, holds, starts⟩

theorem accepts_bind {m : Machine ε σ α} {f : α → Machine ε σ γ} {code more : List β} {a : α}
    {c : γ} (first : Accepts ready view m code a) (next : Accepts ready view (f a) more c) :
    Accepts ready view (m >>= f) (code ++ more) c := by
  intro s rest holds starts
  rw [List.append_assoc] at starts
  obtain ⟨middle, ran, fine, left⟩ := first s (more ++ rest) holds starts
  obtain ⟨last, ranNext, fineNext, leftNext⟩ := next middle rest fine left
  exact ⟨last, by rw [exec_bind_ok f ran, ranNext], fineNext, leftNext⟩

theorem accepts_get_bind {f : σ → Machine ε σ γ} {code : List β} {c : γ}
    (next : ∀ s, ready s → Accepts ready view (f s) code c) :
    Accepts ready view (get >>= f) code c := by
  intro s rest holds starts
  rw [exec_bind]
  exact next s holds s rest holds starts

theorem emits_guard {m : Machine ε σ α} {f : α → Machine ε σ γ} {code : List β} {a : α} {c : γ}
    (first : Emits ready view m [] a) (next : Emits ready view (f a) code c) :
    Emits ready view (m >>= f) code c :=
  emits_bind first next

theorem accepts_guard {m : Machine ε σ α} {f : α → Machine ε σ γ} {code : List β} {a : α} {c : γ}
    (first : Accepts ready view m [] a) (next : Accepts ready view (f a) code c) :
    Accepts ready view (m >>= f) code c :=
  accepts_bind first next

theorem emits_finish {m : Machine ε σ α} {f : α → Machine ε σ γ} {code : List β} {a : α} {c : γ}
    (first : Emits ready view m code a) (next : Emits ready view (f a) [] c) :
    Emits ready view (m >>= f) code c := by
  rw [← List.append_nil code]
  exact emits_bind first next

theorem accepts_finish {m : Machine ε σ α} {f : α → Machine ε σ γ} {code : List β} {a : α} {c : γ}
    (first : Accepts ready view m code a) (next : Accepts ready view (f a) [] c) :
    Accepts ready view (m >>= f) code c := by
  rw [← List.append_nil code]
  exact accepts_bind first next

theorem accepts_map {m : Machine ε σ α} (f : α → γ) {code : List β} {a : α}
    (inner : Accepts ready view m code a) : Accepts ready view (f <$> m) code (f a) := by
  rw [map_eq_pure_bind]
  exact accepts_finish inner (accepts_pure (f a))

theorem emits_congr {m : Machine ε σ α} {code other : List β} {a : α}
    (holds : Emits ready view m code a) (same : code = other) : Emits ready view m other a :=
  same ▸ holds

theorem Emits.keeps {m : Machine ε σ α} {code : List β} {a : α} {allowed : ε → Prop}
    (emits : Emits ready view m code a) : Keeps ready allowed m := by
  intro s holds
  obtain ⟨t, ran, fine, _⟩ := emits s holds
  rw [ran]
  exact ⟨fine, by simp⟩

def writeEach (write : α → Machine ε σ Unit) : List α → Machine ε σ Unit
  | [] => pure ()
  | a :: rest => do
    write a
    writeEach write rest

def readEach (read : Machine ε σ α) : Nat → Machine ε σ (List α)
  | 0 => pure []
  | n + 1 => do
    let a ← read
    let rest ← readEach read n
    pure (a :: rest)

theorem readEach_succ_ok_iff {read : Machine ε σ α} {n : Nat} {values : List α} {s t : σ} :
    exec (readEach read (n + 1)) s = (.ok values, t)
      ↔ ∃ a u rest, exec read s = (.ok a, u) ∧ exec (readEach read n) u = (.ok rest, t)
        ∧ values = a :: rest := by
  rw [readEach, exec_bind_eq_ok_iff]
  constructor
  · rintro ⟨a, u, first, later⟩
    obtain ⟨rest, last, ran, ended⟩ := exec_bind_eq_ok_iff.mp later
    cases ended
    exact ⟨a, u, rest, first, ran, rfl⟩
  · rintro ⟨a, u, rest, first, ran, rfl⟩
    exact ⟨a, u, first, exec_bind_eq_ok_iff.mpr ⟨rest, t, ran, rfl⟩⟩

theorem emits_writeEach {write : α → Machine ε σ Unit} {code : α → List β} (values : List α)
    (each : ∀ a ∈ values, Emits ready view (write a) (code a) ()) :
    Emits ready view (writeEach write values) (values.flatMap code) () := by
  induction values with
  | nil => exact emits_pure ()
  | cons a rest ih =>
    have tail : ∀ b ∈ rest, Emits ready view (write b) (code b) () :=
      fun b member => each b (List.mem_cons_of_mem a member)
    exact emits_bind (each a List.mem_cons_self) (ih tail)

theorem accepts_readEach {read : Machine ε σ α} {code : α → List β} (values : List α)
    (each : ∀ a ∈ values, Accepts ready view read (code a) a) :
    Accepts ready view (readEach read values.length) (values.flatMap code) values := by
  induction values with
  | nil => exact accepts_pure []
  | cons a rest ih =>
    have tail : ∀ b ∈ rest, Accepts ready view read (code b) b :=
      fun b member => each b (List.mem_cons_of_mem a member)
    exact accepts_bind (each a List.mem_cons_self)
      (accepts_finish (ih tail) (accepts_pure (a :: rest)))

end Wire
