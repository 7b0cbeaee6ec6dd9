import BitDemon.Lobby.Matchmaking
import BitDemon.Messaging.RoundTrip

set_option autoImplicit false

/-!
# The results a task reply carries

Every result has a serialiser. The list of its fields says what that serialiser
sends, in order; a client that knows the kinds of the fields reads them back.
-/

namespace BitDemon

open Machine Bits Format

structure StreamTag where
  primary : UInt64
  secondary : UInt64
  deriving DecidableEq

structure StreamInfo where
  id : UInt64
  filename : String
  title : Title
  streamSize : UInt64
  summaryFileSize : UInt64
  created : Int64
  modified : Int64
  ownerId : UInt64
  ownerName : String
  url : String
  metadata : List UInt8
  category : UInt16
  slot : UInt16
  tags : List StreamTag
  numCopiesMade : UInt32
  originId : UInt64
  deriving DecidableEq

structure StreamUrl where
  streamId : UInt64
  url : String
  serverType : UInt16
  serverIndex : String
  deriving DecidableEq

-- content streaming and storage each declare one, with the same field and serialiser
structure FileIdResult where
  id : UInt64
  deriving DecidableEq

inductive FileVisibility where
  | visiblePrivate | visiblePublic
  deriving DecidableEq, Repr

structure StorageFileInfo where
  id : UInt64
  filename : String
  title : Title
  fileSize : UInt64
  created : Int64
  modified : Int64
  visibility : FileVisibility
  ownerId : UInt64
  deriving DecidableEq

structure StorageFile where
  info : StorageFileInfo
  data : List UInt8
  deriving DecidableEq

structure FileDataResult where
  file : StorageFile
  deriving DecidableEq

structure SessionCreateResult where
  id : List UInt8
  secret : List UInt8
  deriving DecidableEq

structure CounterValueResult where
  counterId : UInt32
  counterValue : Int64
  deriving DecidableEq

structure RichPresenceInfoResult where
  isOnline : Bool
  richPresenceData : List UInt8
  deriving DecidableEq

structure GroupCountResult where
  groupId : UInt32
  groupCount : UInt32
  deriving DecidableEq

structure ProfileInfo where
  userId : UInt64
  data : List UInt8
  deriving DecidableEq

-- `(timestamp % u32::MAX as i64) as u32`; the remainder has the sign of the timestamp
def wrapTimestamp (timestamp : Int64) : UInt32 := (timestamp % 4294967295).toUInt64.toUInt32

-- `(size % u32::MAX as u64) as u32`
def wrapSize (size : UInt64) : UInt32 := (size % 4294967295).toUInt32

def flattenTags : List StreamTag → List UInt64
  | [] => []
  | tag :: tags => tag.primary :: tag.secondary :: flattenTags tags

open BdWriter

def StreamInfo.serialize (info : StreamInfo) : WriteM Unit := do
  writeU64 info.id
  writeU32 (wrapTimestamp info.created)
  writeU32 (wrapTimestamp info.modified)
  writeU32 (wrapSize info.streamSize)
  writeU64 info.ownerId
  writeStr info.ownerName
  writeU16 info.slot
  writeStr info.filename
  writeStr info.url
  writeU16 info.category
  writeBlob info.metadata
  writeU32 (wrapSize info.summaryFileSize)
  -- an array, in whatever mode the reply has set
  writeU64Array (flattenTags info.tags)
  writeU32 info.numCopiesMade
  writeU64 info.originId

def StreamUrl.serialize (url : StreamUrl) : WriteM Unit := do
  writeStr url.url
  writeU16 url.serverType
  writeStr url.serverIndex
  writeU64 url.streamId

def FileIdResult.serialize (result : FileIdResult) : WriteM Unit := writeU64 result.id

def StorageFileInfo.serialize (info : StorageFileInfo) : WriteM Unit := do
  writeU32 info.fileSize.toUInt32
  writeU64 info.id
  writeU32 (wrapTimestamp info.created)
  writeU32 (wrapTimestamp info.modified)
  writeBool (info.visibility == .visiblePrivate)
  writeBool false
  writeU64 info.ownerId
  writeStr info.filename

def FileDataResult.serialize (result : FileDataResult) : WriteM Unit := do
  result.file.info.serialize
  writeBlob result.file.data

def MatchMakingInfo.serialize (info : MatchMakingInfo) : WriteM Unit := do
  writeBlob info.address
  writeBlob info.host
  writeBlob info.key
  writeI32 info.freePublicSlots
  writeI32 info.usedPublicSlots
  writeI32 info.freePrivateSlots
  writeI32 info.usedPrivateSlots
  Wire.writeEach writeI32 info.titleData.toList

def SessionCreateResult.serialize (result : SessionCreateResult) : WriteM Unit := do
  writeBlob result.id
  writeBlob result.secret

def CounterValueResult.serialize (result : CounterValueResult) : WriteM Unit := do
  writeU32 result.counterId
  writeI64 result.counterValue

def RichPresenceInfoResult.serialize (result : RichPresenceInfoResult) : WriteM Unit := do
  writeBool result.isOnline
  writeBlob result.richPresenceData

def GroupCountResult.serialize (result : GroupCountResult) : WriteM Unit := do
  writeU32 result.groupId
  writeU32 result.groupCount

def ProfileInfo.serialize (info : ProfileInfo) : WriteM Unit := do
  writeU64 info.userId
  writeBytes info.data

/-- `Box<dyn BdSerialize>`, for the results the handlers return. -/
inductive TaskResult where
  | streamInfo (info : StreamInfo)
  | streamUrl (url : StreamUrl)
  | fileId (result : FileIdResult)
  | storageFileInfo (info : StorageFileInfo)
  | fileData (result : FileDataResult)
  | matchMakingInfo (info : MatchMakingInfo)
  | sessionCreate (result : SessionCreateResult)
  | counterValue (result : CounterValueResult)
  | richPresenceInfo (result : RichPresenceInfoResult)
  | groupCount (result : GroupCountResult)
  | profileInfo (info : ProfileInfo)
  deriving DecidableEq

namespace TaskResult

def serialize : TaskResult → WriteM Unit
  | .streamInfo info => info.serialize
  | .streamUrl url => url.serialize
  | .fileId result => result.serialize
  | .storageFileInfo info => info.serialize
  | .fileData result => result.serialize
  | .matchMakingInfo info => info.serialize
  | .sessionCreate result => result.serialize
  | .counterValue result => result.serialize
  | .richPresenceInfo result => result.serialize
  | .groupCount result => result.serialize
  | .profileInfo info => info.serialize

end TaskResult

inductive Field where
  | value (v : Value)
  | array (a : ArrayValue)
  deriving DecidableEq

inductive FieldKind where
  | value (k : ValueKind)
  | array (k : ArrayKind)
  deriving DecidableEq

def Field.kind : Field → FieldKind
  | .value v => .value v.kind
  | .array a => .array a.kind

def Field.Fits : Field → Prop
  | .value v => v.Fits
  | .array a => a.Fits

def FieldKind.read : FieldKind → ReadM Field
  | .value k => Field.value <$> k.read
  | .array k => Field.array <$> k.read

def readFields : List FieldKind → ReadM (List Field)
  | [] => pure []
  | kind :: kinds => do
    let field ← kind.read
    let rest ← readFields kinds
    pure (field :: rest)

def StorageFileInfo.values (info : StorageFileInfo) : List Value :=
  [.u32 info.fileSize.toUInt32, .u64 info.id, .u32 (wrapTimestamp info.created),
    .u32 (wrapTimestamp info.modified), .bool (info.visibility == .visiblePrivate), .bool false,
    .u64 info.ownerId, .str info.filename]

def StreamInfo.valuesBeforeTags (info : StreamInfo) : List Value :=
  [.u64 info.id, .u32 (wrapTimestamp info.created), .u32 (wrapTimestamp info.modified),
    .u32 (wrapSize info.streamSize), .u64 info.ownerId, .str info.ownerName, .u16 info.slot,
    .str info.filename, .str info.url, .u16 info.category, .blob info.metadata,
    .u32 (wrapSize info.summaryFileSize)]

namespace TaskResult

/-- The fields that are single values; the tags of a stream are the only array. -/
def values : TaskResult → List Value
  | .streamInfo info => info.valuesBeforeTags ++ [.u32 info.numCopiesMade, .u64 info.originId]
  | .streamUrl url => [.str url.url, .u16 url.serverType, .str url.serverIndex, .u64 url.streamId]
  | .fileId result => [.u64 result.id]
  | .storageFileInfo info => info.values
  | .fileData result => result.file.info.values ++ [.blob result.file.data]
  | .matchMakingInfo info =>
    [.blob info.address, .blob info.host, .blob info.key, .i32 info.freePublicSlots,
      .i32 info.usedPublicSlots, .i32 info.freePrivateSlots, .i32 info.usedPrivateSlots]
      ++ info.titleData.toList.map .i32
  | .sessionCreate result => [.blob result.id, .blob result.secret]
  | .counterValue result => [.u32 result.counterId, .i64 result.counterValue]
  | .richPresenceInfo result => [.bool result.isOnline, .blob result.richPresenceData]
  | .groupCount result => [.u32 result.groupId, .u32 result.groupCount]
  | .profileInfo info => [.u64 info.userId, .bytes info.data]

def fields : TaskResult → List Field
  | .streamInfo info =>
    info.valuesBeforeTags.map .value ++ .array (.u64 (flattenTags info.tags)) ::
      [.value (.u32 info.numCopiesMade), .value (.u64 info.originId)]
  | result => result.values.map .value

def Fits (result : TaskResult) : Prop := ∀ field ∈ result.fields, field.Fits

def isStreamInfo : TaskResult → Bool
  | .streamInfo _ => true
  | _ => false

theorem fields_of_not_streamInfo {result : TaskResult} (other : result.isStreamInfo = false) :
    result.fields = result.values.map .value := by
  cases result <;> first | rfl | cases other

end TaskResult

section Serialize

variable {mode : StreamMode} {typeChecked : Bool}

def valuesCode (mode : StreamMode) (typeChecked : Bool) (values : List Value) : List Bool :=
  values.flatMap (Value.code mode typeChecked)

open BdWriter (Writes) in
theorem writes_values (values : List Value) :
    Writes mode typeChecked (Wire.writeEach Value.write values)
      (valuesCode mode typeChecked values) () :=
  Wire.emits_writeEach values fun v _ => v.writes

theorem writeEach_map {α β : Type} (f : α → β) (write : β → WriteM Unit) (values : List α) :
    Wire.writeEach write (values.map f) = Wire.writeEach (fun a => write (f a)) values := by
  induction values with
  | nil => rfl
  | cons a rest ih => simp only [List.map_cons, Wire.writeEach, ih]

theorem TaskResult.serialize_eq {result : TaskResult} (other : result.isStreamInfo = false) :
    result.serialize = Wire.writeEach Value.write result.values := by
  cases result with
  | streamInfo info => cases other
  | streamUrl url =>
    simp [serialize, StreamUrl.serialize, values, Wire.writeEach, Value.write]
  | fileId result =>
    simp [serialize, FileIdResult.serialize, values, Wire.writeEach, Value.write]
  | storageFileInfo info =>
    simp [serialize, StorageFileInfo.serialize, values, StorageFileInfo.values, Wire.writeEach,
      Value.write]
  | fileData result =>
    simp [serialize, FileDataResult.serialize, StorageFileInfo.serialize, values,
      StorageFileInfo.values, Wire.writeEach, Value.write]
  | matchMakingInfo info =>
    simp [serialize, MatchMakingInfo.serialize, values, Wire.writeEach, Value.write, writeEach_map]
  | sessionCreate result =>
    simp [serialize, SessionCreateResult.serialize, values, Wire.writeEach, Value.write]
  | counterValue result =>
    simp [serialize, CounterValueResult.serialize, values, Wire.writeEach, Value.write]
  | richPresenceInfo result =>
    simp [serialize, RichPresenceInfoResult.serialize, values, Wire.writeEach, Value.write]
  | groupCount result =>
    simp [serialize, GroupCountResult.serialize, values, Wire.writeEach, Value.write]
  | profileInfo info =>
    simp [serialize, ProfileInfo.serialize, values, Wire.writeEach, Value.write]

open BdWriter (Writes) in
theorem TaskResult.writes {result : TaskResult} (other : result.isStreamInfo = false) :
    Writes mode typeChecked result.serialize (valuesCode mode typeChecked result.values) () := by
  rw [result.serialize_eq other]
  exact writes_values result.values

open BdReader (Reads) in
theorem reads_values {values : List Value} (fits : ∀ v ∈ values, v.Fits) :
    Reads mode typeChecked (readFields ((values.map Field.value).map Field.kind))
      (valuesCode mode typeChecked values) (values.map Field.value) := by
  induction values with
  | nil => exact Wire.accepts_pure []
  | cons v rest ih =>
    have tail := ih fun other member => fits other (List.mem_cons_of_mem v member)
    have head : Reads mode typeChecked v.kind.read _ v := Value.reads (fits v List.mem_cons_self)
    exact Wire.accepts_bind (Wire.accepts_map Field.value head)
      (Wire.accepts_finish tail (Wire.accepts_pure _))

open BdReader (Reads) in
theorem TaskResult.reads {result : TaskResult} (other : result.isStreamInfo = false)
    (fits : result.Fits) :
    Reads mode typeChecked (readFields (result.fields.map Field.kind))
      (valuesCode mode typeChecked result.values) result.fields := by
  rw [Fits, fields_of_not_streamInfo other] at fits
  rw [fields_of_not_streamInfo other]
  exact reads_values fun v member => fits (.value v) (List.mem_map_of_mem member)

theorem StreamInfo.serialize_eq (info : StreamInfo) :
    info.serialize = (do
      Wire.writeEach Value.write info.valuesBeforeTags
      writeU64Array (flattenTags info.tags)
      writeU32 info.numCopiesMade
      writeU64 info.originId) := by
  simp [serialize, valuesBeforeTags, Wire.writeEach, Value.write]

theorem exec_writeArray_bitMode {α : Type} (dataType : BdDataType) (element : α → List UInt8)
    (value : List α) {w : BdWriter} (ready : w.Ready .bitMode typeChecked) :
    exec (writeArray dataType element value) w
      = (.error (.error (.writerMode .byteMode .bitMode)), w) := by
  have refused : exec (BdWriter.ensureMode .byteMode) w
      = (.error (.error (.writerMode .byteMode .bitMode)), w) := by
    rw [BdWriter.ensureMode, exec_bind_ok _ (exec_get w), ready.inMode]
    rfl
  rw [writeArray, exec_bind_error _ refused]

theorem StreamInfo.exec_serialize_bitMode (info : StreamInfo) {w : BdWriter}
    (ready : w.Ready .bitMode typeChecked) :
    ∃ t, exec info.serialize w = (.error (.error (.writerMode .byteMode .bitMode)), t) := by
  obtain ⟨t, wrote, fine, _⟩ := writes_values info.valuesBeforeTags w ready
  have refused := exec_writeArray_bitMode .unsignedInteger64Type LeCodec.u64.toLeBytes
    (flattenTags info.tags) fine
  exact ⟨t, by rw [serialize_eq, exec_bind_ok _ wrote, writeU64Array, exec_bind_error _ refused]⟩

end Serialize

end BitDemon
