import BitDemon.Lobby.Handling

set_option autoImplicit false

/-!
# The content streaming handler

Uploads and deletions are only prepared here: the answer is a url. Two tasks
take an array, one of them after most of its other fields.
-/

namespace BitDemon

open Machine BdReader

structure StreamCreationRequest where
  filename : String
  slot : UInt16
  fileSize : UInt64
  category : UInt16
  checksum : List UInt8
  clientLocale : String
  deriving DecidableEq

structure UploadedStream where
  filename : String
  slot : UInt16
  serverType : UInt16
  serverIndex : String
  fileSize : UInt64
  category : UInt16
  metadata : List UInt8
  tags : List StreamTag
  clientLocale : String
  deriving DecidableEq

inductive ContentStreamingServiceError where
  | permissionDenied | storageSpaceExceeded | streamCountExceeded | filenameTooLong
  | metaDataTooLarge | noStreamFound
  deriving DecidableEq, Repr

def ContentStreamingServiceError.toErrorCode : ContentStreamingServiceError → BdErrorCode
  | .permissionDenied => .permissionDenied
  | .filenameTooLong => .contentStreamingFilenameMaxLengthExceeded
  | .storageSpaceExceeded => .contentStreamingStorageSpaceExceeded
  | .streamCountExceeded => .contentStreamingNumFilesExceeded
  | .metaDataTooLarge => .contentStreamingMaxThumbDataSizeExceeded
  | .noStreamFound => .contentStreamingFileNotAvailable

-- which part of a listing is asked for
structure StreamPage where
  minDateTime : Int64
  category : UInt16
  itemOffset : Nat
  itemCount : Nat
  deriving DecidableEq

abbrev StreamingM (ω α : Type) := Fallible ω (Except ContentStreamingServiceError α)

structure UserContentStreamingService (ω : Type) where
  getUserStreamsById : BdSession → List UInt64 → StreamingM ω (List StreamInfo)
  listStreamsOfUsers : BdSession → List UInt64 → StreamPage → StreamingM ω (List StreamInfo)
  requestStreamUpload : BdSession → StreamCreationRequest → StreamingM ω StreamUrl
  finishStreamUpload : BdSession → UploadedStream → StreamingM ω UInt64
  requestStreamDeletion : BdSession → UInt16 → StreamingM ω StreamUrl

structure PublisherContentStreamingService (ω : Type) where
  getPublisherStreamById : BdSession → UInt64 → StreamingM ω StreamInfo
  listPublisherStreams : BdSession → StreamPage → StreamingM ω (List StreamInfo)
  filterPublisherStreams : BdSession → StreamPage → String → StreamingM ω (List StreamInfo)

inductive ContentStreamingTaskId where
  | getFileMetadataById | listFilesByOwner | listAllPublisherFiles | preUploadFile | postUploadFile
  | preDownloadFileBySlot | preDeleteFile | preDownloadByFileId | preDownloadPublisherFile
  | listFilesByOwners | preCopyFromPooledStorage | postCopy | preUploadSummary | postUploadSummary
  | preDownloadSummary | preCopyFromUserStorage
  deriving DecidableEq, Repr

namespace ContentStreamingTaskId

def toU8 : ContentStreamingTaskId → UInt8
  | .getFileMetadataById => 1
  | .listFilesByOwner => 2
  | .listAllPublisherFiles => 3
  | .preUploadFile => 5
  | .postUploadFile => 6
  | .preDownloadFileBySlot => 7
  | .preDeleteFile => 8
  | .preDownloadByFileId => 9
  | .preDownloadPublisherFile => 10
  | .listFilesByOwners => 14
  | .preCopyFromPooledStorage => 15
  | .postCopy => 16
  | .preUploadSummary => 17
  | .postUploadSummary => 18
  | .preDownloadSummary => 19
  | .preCopyFromUserStorage => 20

def all : List ContentStreamingTaskId :=
  [.getFileMetadataById, .listFilesByOwner, .listAllPublisherFiles, .preUploadFile,
    .postUploadFile, .preDownloadFileBySlot, .preDeleteFile, .preDownloadByFileId,
    .preDownloadPublisherFile, .listFilesByOwners, .preCopyFromPooledStorage, .postCopy,
    .preUploadSummary, .postUploadSummary, .preDownloadSummary, .preCopyFromUserStorage]

def fromU8 (value : UInt8) : Option ContentStreamingTaskId :=
  all.find? fun taskId => taskId.toU8 == value

end ContentStreamingTaskId

structure ContentStreamingHandler (ω : Type) where
  contentStreamingService : UserContentStreamingService ω
  publisherContentStreamingService : PublisherContentStreamingService ω

namespace ContentStreamingHandler

variable {ω : Type}

def answerForStreamInfos (taskId : ContentStreamingTaskId)
    (result : Except ContentStreamingServiceError (List StreamInfo)) : HandleM ω Reply :=
  match result with
  | .ok streams => withResults taskId.toU8 (streams.map .streamInfo)
  | .error error => withOnlyErrorCode error.toErrorCode taskId.toU8

def answerForStreamUrl (taskId : ContentStreamingTaskId)
    (result : Except ContentStreamingServiceError StreamUrl) : HandleM ω Reply :=
  match result with
  | .ok url => withResults taskId.toU8 [.streamUrl url]
  | .error error => withOnlyErrorCode error.toErrorCode taskId.toU8

-- the count comes before the offset
def readPage : HandleM ω StreamPage := do
  let minDateTime ← perform readU32
  let itemCount ← perform readU16
  let itemOffset ← perform readU16
  let category ← perform readU16
  pure
    { minDateTime := minDateTime.toUInt64.toInt64
      category
      itemOffset := itemOffset.toNat
      itemCount := itemCount.toNat }

def getFileMetadataById (handler : ContentStreamingHandler ω) (session : BdSession) :
    HandleM ω Reply := do
  let numIds ← perform readU32
  let fileIds ← Wire.readEach (perform readU64) numIds.toNat
  let result ← call (handler.contentStreamingService.getUserStreamsById session fileIds)
  answerForStreamInfos .getFileMetadataById result

def listFilesByOwner (handler : ContentStreamingHandler ω) (session : BdSession) :
    HandleM ω Reply := do
  let ownerId ← perform readU64
  let page ← readPage
  let result ← call (handler.contentStreamingService.listStreamsOfUsers session [ownerId] page)
  answerForStreamInfos .listFilesByOwner result

def listAllPublisherFiles (handler : ContentStreamingHandler ω) (session : BdSession) :
    HandleM ω Reply := do
  let page ← readPage
  let service := handler.publisherContentStreamingService
  if ← unwrapOr (perform nextIsStr) false then
    let filter ← perform readStr
    let result ← call (service.filterPublisherStreams session page filter)
    answerForStreamInfos .listAllPublisherFiles result
  else
    let result ← call (service.listPublisherStreams session page)
    answerForStreamInfos .listAllPublisherFiles result

def preUploadFile (handler : ContentStreamingHandler ω) (session : BdSession) :
    HandleM ω Reply := do
  let filename ← perform readStr
  let slot ← perform readU16
  let fileSize ← perform readU32
  let category ← perform readU16
  let checksum ← perform readBlob
  let clientLocale ← perform readStr
  let result ← call (handler.contentStreamingService.requestStreamUpload session
    { filename, slot, fileSize := fileSize.toUInt64, category, checksum, clientLocale })
  answerForStreamUrl .preUploadFile result

-- an odd number of words drops the last one
def pairTags : List UInt64 → List StreamTag
  | primary :: secondary :: rest => ⟨primary, secondary⟩ :: pairTags rest
  | _ => []

def postUploadFile (handler : ContentStreamingHandler ω) (session : BdSession) :
    HandleM ω Reply := do
  let filename ← perform readStr
  let slot ← perform readU16
  let serverType ← perform readU16
  let serverIndex ← perform readStr
  let fileSize ← perform readU32
  let category ← perform readU16
  let metadata ← perform readBlob
  let tagsData ← perform readU64Array
  let clientLocale ← perform readStr
  match ← call (handler.contentStreamingService.finishStreamUpload session
    { filename, slot, serverType, serverIndex, fileSize := fileSize.toUInt64, category, metadata,
      tags := pairTags tagsData, clientLocale }) with
  | .ok fileId => withResults ContentStreamingTaskId.postUploadFile.toU8 [.fileId ⟨fileId⟩]
  | .error error => withOnlyErrorCode error.toErrorCode ContentStreamingTaskId.postUploadFile.toU8

def preDeleteFile (handler : ContentStreamingHandler ω) (session : BdSession) :
    HandleM ω Reply := do
  let slot ← perform readU16
  let result ← call (handler.contentStreamingService.requestStreamDeletion session slot)
  answerForStreamUrl .preDeleteFile result

-- `info.pop()` takes the last stream
def preDownloadByFileId (handler : ContentStreamingHandler ω) (session : BdSession) :
    HandleM ω Reply := do
  let fileId ← perform readU64
  let _fileSize ← perform readU32
  match ← call (handler.contentStreamingService.getUserStreamsById session [fileId]) with
  | .ok info =>
    match info.getLast? with
    | some stream =>
      withResults ContentStreamingTaskId.preDownloadByFileId.toU8 [.streamInfo stream]
    | none =>
      withOnlyErrorCode .contentStreamingFileNotAvailable
        ContentStreamingTaskId.preDownloadByFileId.toU8
  | .error error =>
    withOnlyErrorCode error.toErrorCode ContentStreamingTaskId.preDownloadByFileId.toU8

def preDownloadPublisherFile (handler : ContentStreamingHandler ω) (session : BdSession) :
    HandleM ω Reply := do
  let fileId ← perform readU64
  let _fileSize ← perform readU32
  let service := handler.publisherContentStreamingService
  match ← call (service.getPublisherStreamById session fileId) with
  | .ok stream =>
    withResults ContentStreamingTaskId.preDownloadPublisherFile.toU8 [.streamInfo stream]
  | .error error =>
    withOnlyErrorCode error.toErrorCode ContentStreamingTaskId.preDownloadPublisherFile.toU8

def listFilesByOwners (handler : ContentStreamingHandler ω) (session : BdSession) :
    HandleM ω Reply := do
  let ownerIds ← perform readU64Array
  let page ← readPage
  let result ← call (handler.contentStreamingService.listStreamsOfUsers session ownerIds page)
  answerForStreamInfos .listFilesByOwners result

def handleTask (handler : ContentStreamingHandler ω) (session : BdSession) (taskIdValue : UInt8) :
    HandleM ω Reply :=
  match ContentStreamingTaskId.fromU8 taskIdValue with
  | none => withOnlyErrorCode .noError taskIdValue
  | some .getFileMetadataById => handler.getFileMetadataById session
  | some .listFilesByOwner => handler.listFilesByOwner session
  | some .listAllPublisherFiles => handler.listAllPublisherFiles session
  | some .preUploadFile => handler.preUploadFile session
  | some .postUploadFile => handler.postUploadFile session
  | some .preDeleteFile => handler.preDeleteFile session
  | some .preDownloadByFileId => handler.preDownloadByFileId session
  | some .preDownloadPublisherFile => handler.preDownloadPublisherFile session
  | some .listFilesByOwners => handler.listFilesByOwners session
  -- the others are not implemented
  | some taskId => withOnlyErrorCode .noError taskId.toU8

def leadingValues (taskIdValue : UInt8) : Option (List ValueKind) :=
  match ContentStreamingTaskId.fromU8 taskIdValue with
  | some .postUploadFile => some [.str, .u16, .u16, .str, .u32, .u16, .blob]
  | some .listFilesByOwners => some []
  | _ => none

section Undisturbed

variable {mode : StreamMode}

theorem undisturbed_answerForStreamInfos (taskId : ContentStreamingTaskId)
    (result : Except ContentStreamingServiceError (List StreamInfo)) :
    Undisturbed mode (answerForStreamInfos taskId result : HandleM ω Reply) := by
  cases result with
  | ok streams => exact undisturbed_withResults _ _
  | error error => exact undisturbed_withOnlyErrorCode _ _

theorem undisturbed_answerForStreamUrl (taskId : ContentStreamingTaskId)
    (result : Except ContentStreamingServiceError StreamUrl) :
    Undisturbed mode (answerForStreamUrl taskId result : HandleM ω Reply) := by
  cases result with
  | ok url => exact undisturbed_withResults _ _
  | error error => exact undisturbed_withOnlyErrorCode _ _

theorem undisturbed_readPage : Undisturbed mode (readPage : HandleM ω StreamPage) :=
  keeps_bind (undisturbed_perform safe_readU32) fun _ =>
    keeps_bind (undisturbed_perform safe_readU16) fun _ =>
      keeps_bind (undisturbed_perform safe_readU16) fun _ =>
        keeps_bind (undisturbed_perform safe_readU16) fun _ => keeps_pure _

variable (handler : ContentStreamingHandler ω) (session : BdSession)

theorem undisturbed_getFileMetadataById :
    Undisturbed mode (handler.getFileMetadataById session) := by
  refine keeps_bind (undisturbed_perform safe_readU32) fun numIds => ?_
  refine keeps_bind (undisturbed_readEach (undisturbed_perform safe_readU64) _) fun fileIds => ?_
  exact keeps_bind (undisturbed_call _) fun result => undisturbed_answerForStreamInfos _ result

theorem undisturbed_listFilesByOwner : Undisturbed mode (handler.listFilesByOwner session) := by
  refine keeps_bind (undisturbed_perform safe_readU64) fun ownerId => ?_
  refine keeps_bind undisturbed_readPage fun page => ?_
  exact keeps_bind (undisturbed_call _) fun result => undisturbed_answerForStreamInfos _ result

theorem undisturbed_listAllPublisherFiles :
    Undisturbed mode (handler.listAllPublisherFiles session) := by
  refine keeps_bind undisturbed_readPage fun page => ?_
  refine keeps_bind (undisturbed_unwrapOr _ (undisturbed_perform (safe_nextIs _))) fun filtered => ?_
  refine keeps_ite (fun _ => ?_) fun _ => ?_
  · refine keeps_bind (undisturbed_perform safe_readStr) fun filter => ?_
    exact keeps_bind (undisturbed_call _) fun result => undisturbed_answerForStreamInfos _ result
  · exact keeps_bind (undisturbed_call _) fun result => undisturbed_answerForStreamInfos _ result

theorem undisturbed_preUploadFile : Undisturbed mode (handler.preUploadFile session) := by
  refine keeps_bind (undisturbed_perform safe_readStr) fun filename => ?_
  refine keeps_bind (undisturbed_perform safe_readU16) fun slot => ?_
  refine keeps_bind (undisturbed_perform safe_readU32) fun fileSize => ?_
  refine keeps_bind (undisturbed_perform safe_readU16) fun category => ?_
  refine keeps_bind (undisturbed_perform safe_readBlob) fun checksum => ?_
  refine keeps_bind (undisturbed_perform safe_readStr) fun clientLocale => ?_
  exact keeps_bind (undisturbed_call _) fun result => undisturbed_answerForStreamUrl _ result

theorem undisturbed_preDeleteFile : Undisturbed mode (handler.preDeleteFile session) :=
  keeps_bind (undisturbed_perform safe_readU16) fun _ =>
    keeps_bind (undisturbed_call _) fun result => undisturbed_answerForStreamUrl _ result

theorem undisturbed_preDownloadByFileId :
    Undisturbed mode (handler.preDownloadByFileId session) := by
  refine keeps_bind (undisturbed_perform safe_readU64) fun fileId => ?_
  refine keeps_bind (undisturbed_perform safe_readU32) fun _ => ?_
  refine keeps_bind (undisturbed_call _) fun result => ?_
  cases result with
  | error error => exact undisturbed_withOnlyErrorCode _ _
  | ok info =>
    dsimp only
    cases info.getLast? with
    | none => exact undisturbed_withOnlyErrorCode _ _
    | some stream => exact undisturbed_withResults _ _

theorem undisturbed_preDownloadPublisherFile :
    Undisturbed mode (handler.preDownloadPublisherFile session) := by
  refine keeps_bind (undisturbed_perform safe_readU64) fun fileId => ?_
  refine keeps_bind (undisturbed_perform safe_readU32) fun _ => ?_
  refine keeps_bind (undisturbed_call _) fun result => ?_
  cases result with
  | ok stream => exact undisturbed_withResults _ _
  | error error => exact undisturbed_withOnlyErrorCode _ _

theorem demandsAfter_postUploadFile :
    DemandsAfter [.str, .u16, .u16, .str, .u32, .u16, .blob] (handler.postUploadFile session) := by
  refine demandsAfter_bind rfl safe_readStr fun filename => ?_
  refine demandsAfter_bind rfl safe_readU16 fun slot => ?_
  refine demandsAfter_bind rfl safe_readU16 fun serverType => ?_
  refine demandsAfter_bind rfl safe_readStr fun serverIndex => ?_
  refine demandsAfter_bind rfl safe_readU32 fun fileSize => ?_
  refine demandsAfter_bind rfl safe_readU16 fun category => ?_
  refine demandsAfter_bind rfl safe_readBlob fun metadata => ?_
  exact demandsAfter_refused fun _ => exec_readArray_refused _ _

theorem handleTask_refusedAfter (taskIdValue : UInt8) :
    RefusedAfter (leadingValues taskIdValue) (handler.handleTask session taskIdValue) := by
  rw [leadingValues, handleTask]
  rcases ContentStreamingTaskId.fromU8 taskIdValue with _ | task
  · exact undisturbed_withOnlyErrorCode _ _
  · cases task with
    | getFileMetadataById => exact handler.undisturbed_getFileMetadataById session
    | listFilesByOwner => exact handler.undisturbed_listFilesByOwner session
    | listAllPublisherFiles => exact handler.undisturbed_listAllPublisherFiles session
    | preUploadFile => exact handler.undisturbed_preUploadFile session
    | postUploadFile => exact handler.demandsAfter_postUploadFile session
    | preDeleteFile => exact handler.undisturbed_preDeleteFile session
    | preDownloadByFileId => exact handler.undisturbed_preDownloadByFileId session
    | preDownloadPublisherFile => exact handler.undisturbed_preDownloadPublisherFile session
    | listFilesByOwners => exact demandsAfter_refused fun _ => exec_readArray_refused _ _
    | _ => exact undisturbed_withOnlyErrorCode _ _

end Undisturbed

end ContentStreamingHandler

end BitDemon
