import BitDemon.Lobby.Handling

set_option autoImplicit false

/-!
# The performance handler

Entries are read as long as a whole one is left.
-/

namespace BitDemon

open Machine BdReader

inductive PerformanceTaskId where
  | reportInfo | reportPlayers
  deriving DecidableEq, Repr

namespace PerformanceTaskId

def toU8 : PerformanceTaskId → UInt8
  | .reportInfo => 1
  | .reportPlayers => 2

def all : List PerformanceTaskId := [.reportInfo, .reportPlayers]

def fromU8 (value : UInt8) : Option PerformanceTaskId :=
  all.find? fun taskId => taskId.toU8 == value

end PerformanceTaskId

structure PerformanceInfo where
  id : UInt64
  value : Int32
  deriving DecidableEq

variable {ω : Type}

-- `remaining_bits()? >= bits && next_is_u64()?`: the second is asked only after the first
def nextEntryFits (bits : Nat) : HandleM ω Bool := do
  let remaining ← perform remainingBits
  if bits ≤ remaining then perform nextIsU64 else pure false

theorem undisturbed_nextEntryFits (bits : Nat) :
    Undisturbed .bitMode (nextEntryFits bits : HandleM ω Bool) :=
  keeps_bind (undisturbed_perform safe_remainingBits) fun _ =>
    keeps_ite (fun _ => undisturbed_perform (safe_nextIs _)) fun _ => keeps_pure _

namespace PerformanceHandler

def infoBits : Nat := 5 + 64 + 5 + 32

def playerBits : Nat := 5 + 64

def readInfo : HandleM ω PerformanceInfo := do
  let id ← perform readU64
  let value ← perform readI32
  pure { id, value }

-- what was reported is only logged
def reportInfo : HandleM ω Reply := do
  let _context ← perform readU32
  let _entries ← collectWhile (nextEntryFits infoBits) readInfo
  withOnlyErrorCode .noError PerformanceTaskId.reportInfo.toU8

def reportPlayers : HandleM ω Reply := do
  let _playlist ← perform readU32
  let _players ← collectWhile (nextEntryFits playerBits) (perform readU64)
  withResults PerformanceTaskId.reportPlayers.toU8 []

def handleTask (taskIdValue : UInt8) : HandleM ω Reply :=
  match PerformanceTaskId.fromU8 taskIdValue with
  | none => withOnlyErrorCode .serviceNotAvailable taskIdValue
  | some .reportInfo => reportInfo
  | some .reportPlayers => reportPlayers

theorem undisturbed_readInfo : Undisturbed .bitMode (readInfo : HandleM ω PerformanceInfo) :=
  keeps_bind (undisturbed_perform safe_readU64) fun _ =>
    keeps_bind (undisturbed_perform safe_readI32) fun _ => keeps_pure _

theorem undisturbed_handleTask (taskIdValue : UInt8) :
    Undisturbed .bitMode (handleTask taskIdValue : HandleM ω Reply) := by
  rw [handleTask]
  rcases PerformanceTaskId.fromU8 taskIdValue with _ | task
  · exact undisturbed_withOnlyErrorCode _ _
  · cases task with
    | reportInfo =>
      refine keeps_bind (undisturbed_perform safe_readU32) fun _ => ?_
      refine keeps_bind (undisturbed_collectWhile (undisturbed_nextEntryFits _)
        undisturbed_readInfo) fun _ => ?_
      exact undisturbed_withOnlyErrorCode _ _
    | reportPlayers =>
      refine keeps_bind (undisturbed_perform safe_readU32) fun _ => ?_
      refine keeps_bind (undisturbed_collectWhile (undisturbed_nextEntryFits _)
        (undisturbed_perform safe_readU64)) fun _ => ?_
      exact undisturbed_withResults _ _

end PerformanceHandler

end BitDemon
