import BitDemon.Lobby.Handling

set_option autoImplicit false

/-!
# The group handler

Its two tasks that do something begin with an array of group ids.
-/

namespace BitDemon

open Machine BdReader

structure GroupService (ω : Type) where
  setGroups : BdSession → List UInt32 → Fallible ω Unit
  getGroupCounts : BdSession → List UInt32 → Fallible ω (List UInt64)

inductive GroupTaskId where
  | setGroups | setGroupsForEntity | getEntityGroups | getGroupCounts
  deriving DecidableEq, Repr

namespace GroupTaskId

def toU8 : GroupTaskId → UInt8
  | .setGroups => 1
  | .setGroupsForEntity => 2
  | .getEntityGroups => 3
  | .getGroupCounts => 4

def all : List GroupTaskId := [.setGroups, .setGroupsForEntity, .getEntityGroups, .getGroupCounts]

def fromU8 (value : UInt8) : Option GroupTaskId := all.find? fun taskId => taskId.toU8 == value

end GroupTaskId

namespace GroupHandler

variable {ω : Type}

def setGroups (service : GroupService ω) (session : BdSession) : HandleM ω Reply := do
  let groups ← perform readU32Array
  call (service.setGroups session groups)
  withOnlyErrorCode .noError GroupTaskId.setGroups.toU8

-- `counts[i].min(u32::MAX as u64) as u32`
def clampCount (count : UInt64) : UInt32 := (min count 4294967295).toUInt32

-- a service that returns fewer counts than groups makes `counts[i]` panic
def countResults : List UInt32 → List UInt64 → HandleM ω (List TaskResult)
  | [], _ => pure []
  | _ :: _, [] => panicWith .indexOutOfBounds
  | group :: groups, count :: counts => do
    let rest ← countResults groups counts
    pure (.groupCount ⟨group, clampCount count⟩ :: rest)

def getGroupCounts (service : GroupService ω) (session : BdSession) : HandleM ω Reply := do
  let groups ← perform readU32Array
  let counts ← call (service.getGroupCounts session groups)
  let results ← countResults groups counts
  withResults GroupTaskId.getGroupCounts.toU8 results

def handleTask (service : GroupService ω) (session : BdSession) (taskIdValue : UInt8) :
    HandleM ω Reply :=
  match GroupTaskId.fromU8 taskIdValue with
  | none => withOnlyErrorCode .noError taskIdValue
  | some .setGroups => setGroups service session
  | some .getGroupCounts => getGroupCounts service session
  | some .getEntityGroups => withOnlyErrorCode .noError GroupTaskId.getEntityGroups.toU8
  | some .setGroupsForEntity => withOnlyErrorCode .noError GroupTaskId.setGroupsForEntity.toU8

def leadingValues (taskIdValue : UInt8) : Option (List ValueKind) :=
  match GroupTaskId.fromU8 taskIdValue with
  | some .setGroups => some []
  | some .getGroupCounts => some []
  | _ => none

theorem handleTask_refusedAfter (service : GroupService ω) (session : BdSession)
    (taskIdValue : UInt8) :
    RefusedAfter (leadingValues taskIdValue) (handleTask service session taskIdValue) := by
  rw [leadingValues, handleTask]
  rcases GroupTaskId.fromU8 taskIdValue with _ | task
  · exact undisturbed_withOnlyErrorCode _ _
  · cases task with
    | setGroups => exact demandsAfter_refused fun _ => exec_readArray_refused _ _
    | getGroupCounts => exact demandsAfter_refused fun _ => exec_readArray_refused _ _
    | setGroupsForEntity => exact undisturbed_withOnlyErrorCode _ _
    | getEntityGroups => exact undisturbed_withOnlyErrorCode _ _

end GroupHandler

end BitDemon
