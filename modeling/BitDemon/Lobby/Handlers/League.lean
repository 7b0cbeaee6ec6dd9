import BitDemon.Lobby.Handling

set_option autoImplicit false

/-!
# The league handler

No task does anything with what it has read. Most of them read arrays of ids.
-/

namespace BitDemon

open Machine BdReader

inductive LeagueTaskId where
  | getTeamId | getTeamIDsForUser | getTeamSubdivisions | setTeamName | getTeamInfos
  | getTeamMemberInfos | getTeamSubdivisionInfos | getTeamSubdivisionHistory
  deriving DecidableEq, Repr

namespace LeagueTaskId

def toU8 : LeagueTaskId → UInt8
  | .getTeamId => 1
  | .getTeamIDsForUser => 2
  | .getTeamSubdivisions => 3
  | .setTeamName => 4
  | .getTeamInfos => 6
  | .getTeamMemberInfos => 8
  | .getTeamSubdivisionInfos => 20
  | .getTeamSubdivisionHistory => 21

def all : List LeagueTaskId :=
  [.getTeamId, .getTeamIDsForUser, .getTeamSubdivisions, .setTeamName, .getTeamInfos,
    .getTeamMemberInfos, .getTeamSubdivisionInfos, .getTeamSubdivisionHistory]

def fromU8 (value : UInt8) : Option LeagueTaskId := all.find? fun taskId => taskId.toU8 == value

end LeagueTaskId

inductive OrderType where
  | orderByTeamId | orderByRecentActivity
  deriving DecidableEq, Repr

namespace OrderType

def toU8 : OrderType → UInt8
  | .orderByTeamId => 0x0
  | .orderByRecentActivity => 0x1

def all : List OrderType := [.orderByTeamId, .orderByRecentActivity]

def fromU8 (value : UInt8) : Option OrderType := all.find? fun order => order.toU8 == value

end OrderType

namespace LeagueHandler

variable {ω : Type}

-- four tasks read one array and answer under their own id
def readIdsOnly (taskId : LeagueTaskId) : HandleM ω Reply := do
  let _ids ← perform readU64Array
  withOnlyErrorCode .noError taskId.toU8

def getTeamId : HandleM ω Reply := readIdsOnly .getTeamId
def getTeamInfos : HandleM ω Reply := readIdsOnly .getTeamInfos
def getTeamMemberInfos : HandleM ω Reply := readIdsOnly .getTeamMemberInfos
def getTeamSubdivisionInfos : HandleM ω Reply := readIdsOnly .getTeamSubdivisionInfos

def getTeamIdsForUser : HandleM ω Reply := do
  let _userId ← perform readU64
  let orderTypeValue ← perform readU8
  let _orderType ← okOr (OrderType.fromU8 orderTypeValue) (.invalidOrderType orderTypeValue)
  let _offset ← perform readU32
  let _maxResults ← perform readU32
  withOnlyErrorCode .noError LeagueTaskId.getTeamIDsForUser.toU8

def getTeamSubdivisions : HandleM ω Reply := do
  let _teamId ← perform readU64
  let _leagueIds ← perform readU64Array
  withOnlyErrorCode .noError LeagueTaskId.getTeamSubdivisions.toU8

def setTeamName : HandleM ω Reply := do
  let _teamId ← perform readU64
  let _name ← perform readStr
  withOnlyErrorCode .noError LeagueTaskId.setTeamName.toU8

def getTeamSubdivisionHistory : HandleM ω Reply := do
  let _teamId ← perform readU64
  let _leagueId ← perform readU64
  let _seasonIds ← perform readU64Array
  withOnlyErrorCode .noError LeagueTaskId.getTeamSubdivisionHistory.toU8

def handleTask (taskIdValue : UInt8) : HandleM ω Reply :=
  match LeagueTaskId.fromU8 taskIdValue with
  | none => withOnlyErrorCode .noError taskIdValue
  | some .getTeamId => getTeamId
  | some .getTeamIDsForUser => getTeamIdsForUser
  | some .getTeamSubdivisions => getTeamSubdivisions
  | some .setTeamName => setTeamName
  | some .getTeamInfos => getTeamInfos
  | some .getTeamMemberInfos => getTeamMemberInfos
  | some .getTeamSubdivisionInfos => getTeamSubdivisionInfos
  | some .getTeamSubdivisionHistory => getTeamSubdivisionHistory

def leadingValues (taskIdValue : UInt8) : Option (List ValueKind) :=
  match LeagueTaskId.fromU8 taskIdValue with
  | none => none
  | some .getTeamId => some []
  | some .getTeamIDsForUser => none
  | some .getTeamSubdivisions => some [.u64]
  | some .setTeamName => none
  | some .getTeamInfos => some []
  | some .getTeamMemberInfos => some []
  | some .getTeamSubdivisionInfos => some []
  | some .getTeamSubdivisionHistory => some [.u64, .u64]

theorem demandsAfter_readIdsOnly (taskId : LeagueTaskId) :
    DemandsAfter [] (readIdsOnly taskId : HandleM ω Reply) :=
  demandsAfter_refused fun _ => exec_readArray_refused _ _

theorem undisturbed_getTeamIdsForUser :
    Undisturbed .bitMode (getTeamIdsForUser : HandleM ω Reply) := by
  refine keeps_bind (undisturbed_perform safe_readU64) fun _ => ?_
  refine keeps_bind (undisturbed_perform safe_readU8) fun orderTypeValue => ?_
  have ordered : Undisturbed .bitMode (okOr (OrderType.fromU8 orderTypeValue)
      (.invalidOrderType orderTypeValue) : HandleM ω OrderType) := by
    cases OrderType.fromU8 orderTypeValue with
    | none => exact keeps_throw trivial
    | some order => exact keeps_pure order
  refine keeps_bind ordered fun _ => ?_
  refine keeps_bind (undisturbed_perform safe_readU32) fun _ => ?_
  exact keeps_bind (undisturbed_perform safe_readU32) fun _ => undisturbed_withOnlyErrorCode _ _

theorem undisturbed_setTeamName : Undisturbed .bitMode (setTeamName : HandleM ω Reply) :=
  keeps_bind (undisturbed_perform safe_readU64) fun _ =>
    keeps_bind (undisturbed_perform safe_readStr) fun _ => undisturbed_withOnlyErrorCode _ _

theorem handleTask_refusedAfter (taskIdValue : UInt8) :
    RefusedAfter (leadingValues taskIdValue) (handleTask taskIdValue : HandleM ω Reply) := by
  rw [leadingValues, handleTask]
  rcases LeagueTaskId.fromU8 taskIdValue with _ | task
  · exact undisturbed_withOnlyErrorCode _ _
  · cases task with
    | getTeamId => exact demandsAfter_readIdsOnly _
    | getTeamIDsForUser => exact undisturbed_getTeamIdsForUser
    | getTeamSubdivisions =>
      refine demandsAfter_bind rfl safe_readU64 fun _ => ?_
      exact demandsAfter_refused fun _ => exec_readArray_refused _ _
    | setTeamName => exact undisturbed_setTeamName
    | getTeamInfos => exact demandsAfter_readIdsOnly _
    | getTeamMemberInfos => exact demandsAfter_readIdsOnly _
    | getTeamSubdivisionInfos => exact demandsAfter_readIdsOnly _
    | getTeamSubdivisionHistory =>
      refine demandsAfter_bind rfl safe_readU64 fun _ => ?_
      refine demandsAfter_bind rfl safe_readU64 fun _ => ?_
      exact demandsAfter_refused fun _ => exec_readArray_refused _ _

end LeagueHandler

end BitDemon
