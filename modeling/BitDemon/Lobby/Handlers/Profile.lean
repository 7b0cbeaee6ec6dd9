import BitDemon.Lobby.Handling

set_option autoImplicit false

/-!
# The profile handler

Users are asked for as a list of ids with no count. A profile is set with all
the bytes that are left of the message.
-/

namespace BitDemon

open Machine BdReader

inductive ProfileServiceError where
  | permissionDenied | noProfileInfoFound
  deriving DecidableEq, Repr

structure ProfileService (ω : Type) where
  getPublicProfiles : BdSession → List UInt64 →
    Fallible ω (Except ProfileServiceError (List ProfileInfo))
  getPrivateProfile : BdSession → Fallible ω (Except ProfileServiceError ProfileInfo)
  setPublicProfile : BdSession → List UInt8 → Fallible ω (Except ProfileServiceError Unit)
  setPrivateProfile : BdSession → List UInt8 → Fallible ω (Except ProfileServiceError Unit)
  deleteProfile : BdSession → Fallible ω (Except ProfileServiceError Unit)

inductive ProfileTaskId where
  | getPublicInfos | getPrivateInfo | setPublicInfo | setPrivateInfo | deleteProfile
  deriving DecidableEq, Repr

namespace ProfileTaskId

def toU8 : ProfileTaskId → UInt8
  | .getPublicInfos => 1
  | .getPrivateInfo => 2
  | .setPublicInfo => 3
  | .setPrivateInfo => 4
  | .deleteProfile => 5

def all : List ProfileTaskId :=
  [.getPublicInfos, .getPrivateInfo, .setPublicInfo, .setPrivateInfo, .deleteProfile]

def fromU8 (value : UInt8) : Option ProfileTaskId := all.find? fun taskId => taskId.toU8 == value

end ProfileTaskId

namespace ProfileHandler

variable {ω : Type}

def handleProfileError (code : ProfileServiceError) (taskId : ProfileTaskId) : HandleM ω Reply :=
  match code with
  | .permissionDenied => withOnlyErrorCode .permissionDenied taskId.toU8
  | .noProfileInfoFound => withOnlyErrorCode .noProfileInfoExists taskId.toU8

def getPublicInfos (service : ProfileService ω) (session : BdSession) : HandleM ω Reply := do
  let userIds ← collectWhile (perform nextIsU64) (perform readU64)
  match ← call (service.getPublicProfiles session userIds) with
  | .ok profileInfos =>
    withResults ProfileTaskId.getPublicInfos.toU8 (profileInfos.map .profileInfo)
  | .error code => handleProfileError code .getPublicInfos

-- it answers under the id of the public task
def getPrivateInfos (service : ProfileService ω) (session : BdSession) : HandleM ω Reply := do
  match ← call (service.getPrivateProfile session) with
  | .ok profileInfo => withResults ProfileTaskId.getPublicInfos.toU8 [.profileInfo profileInfo]
  | .error code => handleProfileError code .getPublicInfos

def setPublicInfo (service : ProfileService ω) (session : BdSession) : HandleM ω Reply := do
  let length ← perform remainingBytes
  let profileData ← perform (BdReader.readBytes length)
  match ← call (service.setPublicProfile session profileData) with
  | .ok _ => withOnlyErrorCode .noError ProfileTaskId.setPublicInfo.toU8
  | .error code => handleProfileError code .setPublicInfo

def setPrivateInfo (service : ProfileService ω) (session : BdSession) : HandleM ω Reply := do
  let length ← perform remainingBytes
  let profileData ← perform (BdReader.readBytes length)
  match ← call (service.setPrivateProfile session profileData) with
  | .ok _ => withOnlyErrorCode .noError ProfileTaskId.setPrivateInfo.toU8
  | .error code => handleProfileError code .setPrivateInfo

def deleteProfile (service : ProfileService ω) (session : BdSession) : HandleM ω Reply := do
  match ← call (service.deleteProfile session) with
  | .ok _ => withOnlyErrorCode .noError ProfileTaskId.deleteProfile.toU8
  | .error code => handleProfileError code .deleteProfile

def handleTask (service : ProfileService ω) (session : BdSession) (taskIdValue : UInt8) :
    HandleM ω Reply :=
  match ProfileTaskId.fromU8 taskIdValue with
  | none => withOnlyErrorCode .noError taskIdValue
  | some .getPublicInfos => getPublicInfos service session
  | some .getPrivateInfo => getPrivateInfos service session
  | some .setPublicInfo => setPublicInfo service session
  | some .setPrivateInfo => setPrivateInfo service session
  | some .deleteProfile => deleteProfile service session

def leadingValues (taskIdValue : UInt8) : Option (List ValueKind) :=
  match ProfileTaskId.fromU8 taskIdValue with
  | some .setPublicInfo => some []
  | some .setPrivateInfo => some []
  | _ => none

theorem undisturbed_handleProfileError {mode : StreamMode} (code : ProfileServiceError)
    (taskId : ProfileTaskId) :
    Undisturbed mode (handleProfileError code taskId : HandleM ω Reply) := by
  cases code <;> exact undisturbed_withOnlyErrorCode _ _

theorem undisturbed_getPublicInfos (service : ProfileService ω) (session : BdSession) :
    Undisturbed .bitMode (getPublicInfos service session) := by
  refine keeps_bind (undisturbed_collectWhile (undisturbed_perform (safe_nextIs _))
    (undisturbed_perform safe_readU64)) fun userIds => ?_
  refine keeps_bind (undisturbed_call _) fun result => ?_
  cases result with
  | ok profileInfos => exact undisturbed_withResults _ _
  | error code => exact undisturbed_handleProfileError _ _

theorem undisturbed_getPrivateInfos (service : ProfileService ω) (session : BdSession) :
    Undisturbed .bitMode (getPrivateInfos service session) := by
  refine keeps_bind (undisturbed_call _) fun result => ?_
  cases result with
  | ok profileInfo => exact undisturbed_withResults _ _
  | error code => exact undisturbed_handleProfileError _ _

theorem undisturbed_deleteProfile (service : ProfileService ω) (session : BdSession) :
    Undisturbed .bitMode (deleteProfile service session) := by
  refine keeps_bind (undisturbed_call _) fun result => ?_
  cases result with
  | ok _ => exact undisturbed_withOnlyErrorCode _ _
  | error code => exact undisturbed_handleProfileError _ _

theorem handleTask_refusedAfter (service : ProfileService ω) (session : BdSession)
    (taskIdValue : UInt8) :
    RefusedAfter (leadingValues taskIdValue) (handleTask service session taskIdValue) := by
  rw [leadingValues, handleTask]
  rcases ProfileTaskId.fromU8 taskIdValue with _ | task
  · exact undisturbed_withOnlyErrorCode _ _
  · cases task with
    | getPublicInfos => exact undisturbed_getPublicInfos service session
    | getPrivateInfo => exact undisturbed_getPrivateInfos service session
    | setPublicInfo => exact demandsAfter_refused fun _ => exec_remainingBytes_refused
    | setPrivateInfo => exact demandsAfter_refused fun _ => exec_remainingBytes_refused
    | deleteProfile => exact undisturbed_deleteProfile service session

end ProfileHandler

end BitDemon
