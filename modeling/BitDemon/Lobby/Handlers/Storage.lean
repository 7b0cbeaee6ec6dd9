import BitDemon.Lobby.Handling

set_option autoImplicit false

/-!
# The storage handler

Files are created private. A file that the user does not have is looked for
among those of the publisher.
-/

namespace BitDemon

open Machine BdReader

inductive StorageServiceError where
  | permissionDeniedError | filenameTooLongError | storageFileTooLargeError
  | storageFileNotFoundError
  deriving DecidableEq, Repr

def StorageServiceError.toErrorCode : StorageServiceError → BdErrorCode
  | .permissionDeniedError => .permissionDenied
  | .filenameTooLongError => .filenameMaxLengthExceeded
  | .storageFileTooLargeError => .fileSizeLimitExceeded
  | .storageFileNotFoundError => .noFile

structure FilePage where
  minDateTime : Int64
  itemOffset : Nat
  itemCount : Nat
  deriving DecidableEq

abbrev StorageM (ω α : Type) := Fallible ω (Except StorageServiceError α)

structure UserStorageService (ω : Type) where
  getStorageFileDataById : BdSession → UInt64 → UInt64 → StorageM ω StorageFile
  listStorageFiles : BdSession → UInt64 → FilePage → StorageM ω (List StorageFileInfo)
  filterStorageFiles : BdSession → UInt64 → FilePage → String → StorageM ω (List StorageFileInfo)
  createStorageFile : BdSession → UInt64 → String → FileVisibility → List UInt8 →
    StorageM ω StorageFileInfo
  updateStorageFileData : BdSession → UInt64 → UInt64 → List UInt8 → StorageM ω Unit

structure PublisherStorageService (ω : Type) where
  getPublisherFileDataById : BdSession → UInt64 → StorageM ω StorageFile
  listPublisherFiles : BdSession → FilePage → StorageM ω (List StorageFileInfo)
  filterPublisherFiles : BdSession → FilePage → String → StorageM ω (List StorageFileInfo)

inductive StorageTaskId where
  | createFile | updateFileById | getFileById | listFilesByOwner | listPublisherFiles
  deriving DecidableEq, Repr

namespace StorageTaskId

def toU8 : StorageTaskId → UInt8
  | .createFile => 1
  | .updateFileById => 2
  | .getFileById => 5
  | .listFilesByOwner => 7
  | .listPublisherFiles => 8

def all : List StorageTaskId :=
  [.createFile, .updateFileById, .getFileById, .listFilesByOwner, .listPublisherFiles]

def fromU8 (value : UInt8) : Option StorageTaskId := all.find? fun taskId => taskId.toU8 == value

end StorageTaskId

structure StorageHandler (ω : Type) where
  storageService : UserStorageService ω
  publisherStorageService : PublisherStorageService ω

namespace StorageHandler

variable {ω : Type}

def answerForFileInfos (taskId : StorageTaskId)
    (result : Except StorageServiceError (List StorageFileInfo)) : HandleM ω Reply :=
  match result with
  | .ok infos => withResults taskId.toU8 (infos.map .storageFileInfo)
  | .error error => withOnlyErrorCode error.toErrorCode taskId.toU8

def createFile (handler : StorageHandler ω) (session : BdSession) : HandleM ω Reply := do
  let _firstFlag ← perform readBool
  let filename ← perform readStr
  let _secondFlag ← perform readBool
  let fileData ← perform readBlob
  let authentication ← unwrap session.authentication
  match ← call (handler.storageService.createStorageFile session authentication.userId filename
    .visiblePrivate fileData) with
  | .ok info => withSingleResult StorageTaskId.createFile.toU8 (.fileId ⟨info.id⟩)
  | .error error => withOnlyErrorCode error.toErrorCode StorageTaskId.createFile.toU8

def updateFileById (handler : StorageHandler ω) (session : BdSession) : HandleM ω Reply := do
  let fileId ← perform readU64
  let fileData ← perform readBlob
  let authentication ← unwrap session.authentication
  match ← call (handler.storageService.updateStorageFileData session authentication.userId fileId
    fileData) with
  | .ok _ => withOnlyErrorCode .noError StorageTaskId.updateFileById.toU8
  | .error error => withOnlyErrorCode error.toErrorCode StorageTaskId.updateFileById.toU8

-- the user's own file first, whatever the error
def findFile (handler : StorageHandler ω) (session : BdSession) (ownerId fileId : UInt64) :
    Fallible ω (Except StorageServiceError StorageFile) := do
  match ← handler.storageService.getStorageFileDataById session ownerId fileId with
  | .ok file => pure (.ok file)
  | .error _ => handler.publisherStorageService.getPublisherFileDataById session fileId

def getFileById (handler : StorageHandler ω) (session : BdSession) : HandleM ω Reply := do
  let fileId ← perform readU64
  let authentication ← unwrap session.authentication
  match ← call (handler.findFile session authentication.userId fileId) with
  | .ok file => withSingleResult StorageTaskId.getFileById.toU8 (.fileData ⟨file⟩)
  | .error error => withOnlyErrorCode error.toErrorCode StorageTaskId.getFileById.toU8

def listFilesByOwner (handler : StorageHandler ω) (session : BdSession) : HandleM ω Reply := do
  let ownerId ← perform readU64
  let minDateTime ← perform readU32
  let maxNumResults ← perform readU16
  let page : FilePage :=
    { minDateTime := minDateTime.toUInt64.toInt64, itemOffset := 0
      itemCount := maxNumResults.toNat }
  if ← unwrapOr (perform nextIsStr) false then
    let filter ← perform readStr
    let result ← call (handler.storageService.filterStorageFiles session ownerId page filter)
    answerForFileInfos .listFilesByOwner result
  else
    let result ← call (handler.storageService.listStorageFiles session ownerId page)
    answerForFileInfos .listFilesByOwner result

def listPublisherFiles (handler : StorageHandler ω) (session : BdSession) : HandleM ω Reply := do
  let minDateTime ← perform readU32
  let maxNumResults ← perform readU16
  let page : FilePage :=
    { minDateTime := minDateTime.toUInt64.toInt64, itemOffset := 0
      itemCount := maxNumResults.toNat }
  if ← unwrapOr (perform nextIsStr) false then
    let filter ← perform readStr
    let result ← call (handler.publisherStorageService.filterPublisherFiles session page filter)
    answerForFileInfos .listPublisherFiles result
  else
    let result ← call (handler.publisherStorageService.listPublisherFiles session page)
    answerForFileInfos .listPublisherFiles result

def handleTask (handler : StorageHandler ω) (session : BdSession) (taskIdValue : UInt8) :
    HandleM ω Reply := do
  let _unrecovered ← perform readU8
  match StorageTaskId.fromU8 taskIdValue with
  | none => withOnlyErrorCode .serviceNotAvailable taskIdValue
  | some .createFile => handler.createFile session
  | some .updateFileById => handler.updateFileById session
  | some .getFileById => handler.getFileById session
  | some .listFilesByOwner => handler.listFilesByOwner session
  | some .listPublisherFiles => handler.listPublisherFiles session

section Undisturbed

variable {mode : StreamMode}

theorem undisturbed_answerForFileInfos (taskId : StorageTaskId)
    (result : Except StorageServiceError (List StorageFileInfo)) :
    Undisturbed mode (answerForFileInfos taskId result : HandleM ω Reply) := by
  cases result with
  | ok infos => exact undisturbed_withResults _ _
  | error error => exact undisturbed_withOnlyErrorCode _ _

variable (handler : StorageHandler ω) (session : BdSession)

theorem undisturbed_createFile : Undisturbed mode (handler.createFile session) := by
  refine keeps_bind (undisturbed_perform safe_readBool) fun _ => ?_
  refine keeps_bind (undisturbed_perform safe_readStr) fun filename => ?_
  refine keeps_bind (undisturbed_perform safe_readBool) fun _ => ?_
  refine keeps_bind (undisturbed_perform safe_readBlob) fun fileData => ?_
  refine keeps_bind (undisturbed_unwrap _) fun authentication => ?_
  refine keeps_bind (undisturbed_call _) fun result => ?_
  cases result with
  | ok info => exact undisturbed_withSingleResult _ _
  | error error => exact undisturbed_withOnlyErrorCode _ _

theorem undisturbed_updateFileById : Undisturbed mode (handler.updateFileById session) := by
  refine keeps_bind (undisturbed_perform safe_readU64) fun fileId => ?_
  refine keeps_bind (undisturbed_perform safe_readBlob) fun fileData => ?_
  refine keeps_bind (undisturbed_unwrap _) fun authentication => ?_
  refine keeps_bind (undisturbed_call _) fun result => ?_
  cases result <;> exact undisturbed_withOnlyErrorCode _ _

theorem undisturbed_getFileById : Undisturbed mode (handler.getFileById session) := by
  refine keeps_bind (undisturbed_perform safe_readU64) fun fileId => ?_
  refine keeps_bind (undisturbed_unwrap _) fun authentication => ?_
  refine keeps_bind (undisturbed_call _) fun result => ?_
  cases result with
  | ok file => exact undisturbed_withSingleResult _ _
  | error error => exact undisturbed_withOnlyErrorCode _ _

theorem undisturbed_listFilesByOwner : Undisturbed mode (handler.listFilesByOwner session) := by
  refine keeps_bind (undisturbed_perform safe_readU64) fun ownerId => ?_
  refine keeps_bind (undisturbed_perform safe_readU32) fun minDateTime => ?_
  refine keeps_bind (undisturbed_perform safe_readU16) fun maxNumResults => ?_
  refine keeps_bind (undisturbed_unwrapOr _ (undisturbed_perform (safe_nextIs _))) fun filtered => ?_
  refine keeps_ite (fun _ => ?_) fun _ => ?_
  · refine keeps_bind (undisturbed_perform safe_readStr) fun filter => ?_
    exact keeps_bind (undisturbed_call _) fun result => undisturbed_answerForFileInfos _ result
  · exact keeps_bind (undisturbed_call _) fun result => undisturbed_answerForFileInfos _ result

theorem undisturbed_listPublisherFiles :
    Undisturbed mode (handler.listPublisherFiles session) := by
  refine keeps_bind (undisturbed_perform safe_readU32) fun minDateTime => ?_
  refine keeps_bind (undisturbed_perform safe_readU16) fun maxNumResults => ?_
  refine keeps_bind (undisturbed_unwrapOr _ (undisturbed_perform (safe_nextIs _))) fun filtered => ?_
  refine keeps_ite (fun _ => ?_) fun _ => ?_
  · refine keeps_bind (undisturbed_perform safe_readStr) fun filter => ?_
    exact keeps_bind (undisturbed_call _) fun result => undisturbed_answerForFileInfos _ result
  · exact keeps_bind (undisturbed_call _) fun result => undisturbed_answerForFileInfos _ result

theorem undisturbed_handleTask (taskIdValue : UInt8) :
    Undisturbed mode (handler.handleTask session taskIdValue) := by
  refine keeps_bind (undisturbed_perform safe_readU8) fun _ => ?_
  rcases StorageTaskId.fromU8 taskIdValue with _ | task
  · exact undisturbed_withOnlyErrorCode _ _
  · cases task with
    | createFile => exact handler.undisturbed_createFile session
    | updateFileById => exact handler.undisturbed_updateFileById session
    | getFileById => exact handler.undisturbed_getFileById session
    | listFilesByOwner => exact handler.undisturbed_listFilesByOwner session
    | listPublisherFiles => exact handler.undisturbed_listPublisherFiles session

end Undisturbed

end StorageHandler

end BitDemon
