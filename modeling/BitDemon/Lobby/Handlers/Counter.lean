import BitDemon.Lobby.Handling

set_option autoImplicit false

/-!
# The counter handler

Increments are read until a read fails, whatever it fails with.
-/

namespace BitDemon

open Machine BdReader

structure CounterIncrement where
  counterId : UInt32
  counterIncrement : Int64
  deriving DecidableEq

structure CounterValue where
  counterId : UInt32
  counterValue : Int64
  deriving DecidableEq

structure CounterService (ω : Type) where
  getCounterTotals : BdSession → List UInt32 → Fallible ω (List CounterValue)
  incrementCounters : BdSession → List CounterIncrement → Fallible ω Unit

inductive CounterTaskId where
  | incrementCounters | getCounterTotals
  deriving DecidableEq, Repr

namespace CounterTaskId

def toU8 : CounterTaskId → UInt8
  | .incrementCounters => 1
  | .getCounterTotals => 2

def all : List CounterTaskId := [.incrementCounters, .getCounterTotals]

def fromU8 (value : UInt8) : Option CounterTaskId := all.find? fun taskId => taskId.toU8 == value

end CounterTaskId

def CounterValueResult.deserialize : ReadM CounterValueResult := do
  let counterId ← readU32
  let counterValue ← readI64
  pure { counterId, counterValue }

theorem CounterValueResult.safe_deserialize {mode : StreamMode} :
    SafeIn mode CounterValueResult.deserialize :=
  keeps_bind safe_readU32 fun _ => keeps_bind safe_readI64 fun _ => keeps_pure _

namespace CounterHandler

variable {ω : Type}

def toIncrements (values : List CounterValueResult) : List CounterIncrement :=
  (values.filter fun value => 0 < value.counterId).map fun value =>
    { counterId := value.counterId, counterIncrement := value.counterValue }

theorem toIncrements_eq (values : List CounterValueResult) :
    toIncrements values = (values.filter fun value => value.counterId != 0).map fun value =>
      { counterId := value.counterId, counterIncrement := value.counterValue } := by
  have same : (fun value : CounterValueResult => decide (0 < value.counterId))
      = fun value => value.counterId != 0 := by
    funext value
    rw [Bool.eq_iff_iff, decide_eq_true_iff, bne_iff_ne, UInt32.pos_iff_ne_zero]
  rw [toIncrements, same]

def incrementCounters (service : CounterService ω) (session : BdSession) : HandleM ω Reply := do
  let values ← collectOk (perform CounterValueResult.deserialize)
  call (service.incrementCounters session (toIncrements values))
  withOnlyErrorCode .noError CounterTaskId.incrementCounters.toU8

def getCounterTotals (service : CounterService ω) (session : BdSession) : HandleM ω Reply := do
  let counterIds ← collectWhile (unwrapOr (perform nextIsU32) false) (perform readU32)
  let totals ← call (service.getCounterTotals session counterIds)
  withResults CounterTaskId.getCounterTotals.toU8
    (totals.map fun v => .counterValue ⟨v.counterId, v.counterValue⟩)

def handleTask (service : CounterService ω) (session : BdSession) (taskIdValue : UInt8) :
    HandleM ω Reply :=
  match CounterTaskId.fromU8 taskIdValue with
  | none => withOnlyErrorCode .noError taskIdValue
  | some .incrementCounters => incrementCounters service session
  | some .getCounterTotals => getCounterTotals service session

theorem undisturbed_handleTask (service : CounterService ω) (session : BdSession)
    (taskIdValue : UInt8) : Undisturbed .bitMode (handleTask service session taskIdValue) := by
  rw [handleTask]
  rcases CounterTaskId.fromU8 taskIdValue with _ | task
  · exact undisturbed_withOnlyErrorCode _ _
  · cases task with
    | incrementCounters =>
      refine keeps_bind (undisturbed_collectOk
        (undisturbed_perform CounterValueResult.safe_deserialize)) fun values => ?_
      exact keeps_bind (undisturbed_call _) fun _ => undisturbed_withOnlyErrorCode _ _
    | getCounterTotals =>
      refine keeps_bind (undisturbed_collectWhile
        (undisturbed_unwrapOr _ (undisturbed_perform (safe_nextIs _)))
        (undisturbed_perform safe_readU32)) fun counterIds => ?_
      exact keeps_bind (undisturbed_call _) fun _ => undisturbed_withResults _ _

end CounterHandler

end BitDemon
