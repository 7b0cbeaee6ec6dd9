import BitDemon.Library.Machine

set_option autoImplicit false

/-!
# Locks that can be poisoned

A lock is poisoned when its guard is dropped by a fault that unwinds, and
taking a poisoned lock is such a fault itself.
-/

namespace Mutex

open Machine

variable {ε σ α : Type}

/--
Run `body` while holding a lock. `poisoned` and `poison` read and set the flag
of that lock in the state, `unwinds` tells the faults that drop the guard while
unwinding, and `refused` is the fault of taking a poisoned lock.
-/
def guarded (poisoned : σ → Bool) (poison : σ → σ) (unwinds : ε → Bool) (refused : ε)
    (body : Machine ε σ α) : Machine ε σ α := do
  let s ← get
  if poisoned s then
    throw refused
  else do
    let outcome ← attempt body
    match outcome with
    | .ok a => pure a
    | .error e =>
      if unwinds e then do
        modify poison
        throw e
      else
        throw e

variable {poisoned : σ → Bool} {poison : σ → σ} {unwinds : ε → Bool} {refused : ε}
  {body : Machine ε σ α} {s t : σ}

theorem exec_guarded_poisoned (held : poisoned s = true) :
    exec (guarded poisoned poison unwinds refused body) s = (.error refused, s) := by
  simp only [guarded, exec_bind, exec_get, held, if_true, exec_throw]

theorem exec_guarded_ok {a : α} (free : poisoned s = false) (ran : exec body s = (.ok a, t)) :
    exec (guarded poisoned poison unwinds refused body) s = (.ok a, t) := by
  simp only [guarded, exec_bind, exec_get, free, Bool.false_eq_true, if_false, exec_attempt, ran,
    exec_pure]

theorem exec_guarded_unwind {e : ε} (free : poisoned s = false) (ran : exec body s = (.error e, t))
    (unwinding : unwinds e = true) :
    exec (guarded poisoned poison unwinds refused body) s = (.error e, poison t) := by
  simp only [guarded, exec_bind, exec_get, free, Bool.false_eq_true, if_false, exec_attempt, ran,
    unwinding, if_true, exec_modify, exec_throw]

end Mutex
