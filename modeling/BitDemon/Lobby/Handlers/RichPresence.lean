import BitDemon.Lobby.Handling

set_option autoImplicit false

/-!
# The rich presence handler

User id zero stands for the user of the session.
-/

namespace BitDemon

open Machine BdReader

inductive RichPresenceServiceError where
  | permissionDeniedError | richPresenceDataTooLargeError | tooManyUsersError
  deriving DecidableEq, Repr

structure RichPresenceService (ω : Type) where
  setInfo : BdSession → UInt64 → List UInt8 → Fallible ω (Except RichPresenceServiceError Unit)
  getInfo : BdSession → List UInt64 →
    Fallible ω (Except RichPresenceServiceError (List (Option (List UInt8))))

inductive RichPresenceTaskId where
  | setInfo | getInfo
  deriving DecidableEq, Repr

namespace RichPresenceTaskId

def toU8 : RichPresenceTaskId → UInt8
  | .setInfo => 1
  | .getInfo => 2

def all : List RichPresenceTaskId := [.setInfo, .getInfo]

def fromU8 (value : UInt8) : Option RichPresenceTaskId :=
  all.find? fun taskId => taskId.toU8 == value

end RichPresenceTaskId

def RichPresenceInfoResult.ofOption : Option (List UInt8) → RichPresenceInfoResult
  | some richPresenceData => { isOnline := true, richPresenceData }
  | none => { isOnline := false, richPresenceData := [] }

namespace RichPresenceHandler

variable {ω : Type}

def handleRichPresenceError (code : RichPresenceServiceError) (taskId : RichPresenceTaskId) :
    HandleM ω Reply :=
  match code with
  | .permissionDeniedError => withOnlyErrorCode .permissionDenied taskId.toU8
  | .richPresenceDataTooLargeError => withOnlyErrorCode .richPresenceDataTooLarge taskId.toU8
  | .tooManyUsersError => withOnlyErrorCode .richPresenceTooManyUsers taskId.toU8

def actingUser (session : BdSession) (userId : UInt64) : HandleM ω UInt64 :=
  if userId = 0 then do
    let authentication ← unwrap session.authentication
    pure authentication.userId
  else
    pure userId

def setInfo (service : RichPresenceService ω) (session : BdSession) : HandleM ω Reply := do
  let userId ← perform readU64
  let userId ← actingUser session userId
  let data ← perform readBlob
  match ← call (service.setInfo session userId data) with
  | .ok _ => withOnlyErrorCode .noError RichPresenceTaskId.setInfo.toU8
  | .error code => handleRichPresenceError code .setInfo

def getInfo (service : RichPresenceService ω) (session : BdSession) : HandleM ω Reply := do
  let userIds ← collectWhile (unwrapOr (perform nextIsU64) false) (perform readU64)
  match ← call (service.getInfo session userIds) with
  | .ok presences =>
    withResults RichPresenceTaskId.getInfo.toU8
      (presences.map fun presence => .richPresenceInfo (.ofOption presence))
  | .error code => handleRichPresenceError code .getInfo

def handleTask (service : RichPresenceService ω) (session : BdSession) (taskIdValue : UInt8) :
    HandleM ω Reply :=
  match RichPresenceTaskId.fromU8 taskIdValue with
  | none => withOnlyErrorCode .noError taskIdValue
  | some .setInfo => setInfo service session
  | some .getInfo => getInfo service session

theorem undisturbed_handleRichPresenceError {mode : StreamMode} (code : RichPresenceServiceError)
    (taskId : RichPresenceTaskId) :
    Undisturbed mode (handleRichPresenceError code taskId : HandleM ω Reply) := by
  cases code <;> exact undisturbed_withOnlyErrorCode _ _

theorem undisturbed_actingUser {mode : StreamMode} (session : BdSession) (userId : UInt64) :
    Undisturbed mode (actingUser session userId : HandleM ω UInt64) :=
  keeps_ite (fun _ => keeps_bind (undisturbed_unwrap _) fun _ => keeps_pure _) fun _ => keeps_pure _

theorem undisturbed_handleTask (service : RichPresenceService ω) (session : BdSession)
    (taskIdValue : UInt8) : Undisturbed .bitMode (handleTask service session taskIdValue) := by
  rw [handleTask]
  rcases RichPresenceTaskId.fromU8 taskIdValue with _ | task
  · exact undisturbed_withOnlyErrorCode _ _
  · cases task with
    | setInfo =>
      refine keeps_bind (undisturbed_perform safe_readU64) fun userId => ?_
      refine keeps_bind (undisturbed_actingUser session userId) fun userId => ?_
      refine keeps_bind (undisturbed_perform safe_readBlob) fun data => ?_
      refine keeps_bind (undisturbed_call _) fun result => ?_
      cases result with
      | ok _ => exact undisturbed_withOnlyErrorCode _ _
      | error code => exact undisturbed_handleRichPresenceError _ _
    | getInfo =>
      refine keeps_bind (undisturbed_collectWhile
        (undisturbed_unwrapOr _ (undisturbed_perform (safe_nextIs _)))
        (undisturbed_perform safe_readU64)) fun userIds => ?_
      refine keeps_bind (undisturbed_call _) fun result => ?_
      cases result with
      | ok presences => exact undisturbed_withResults _ _
      | error code => exact undisturbed_handleRichPresenceError _ _

end RichPresenceHandler

end BitDemon
