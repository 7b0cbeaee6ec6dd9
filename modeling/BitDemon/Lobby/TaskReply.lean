import BitDemon.Lobby.Results

set_option autoImplicit false

/-!
# Task replies

A reply starts with one byte-mode byte that names its type. Everything after it
is type-checked bits: a header, the number of results when they are counted,
and the results themselves.
-/

namespace BitDemon

open Machine Bits Format

inductive BdMessageType where
  | lobbyServiceTaskReply | lobbyServicePushMessage | lsgServiceError | lsgServiceConnectionId
  | lsgServiceTaskReply
  deriving DecidableEq, Repr

def BdMessageType.toU8 : BdMessageType → UInt8
  | .lobbyServiceTaskReply => 1
  | .lobbyServicePushMessage => 2
  | .lsgServiceError => 3
  | .lsgServiceConnectionId => 4
  | .lsgServiceTaskReply => 5

-- the number an error code is sent as; the names are those the handlers use
structure BdErrorCode where
  toU32 : UInt32
  deriving DecidableEq, Repr

namespace BdErrorCode

def noError : BdErrorCode := ⟨0⟩
def accessDenied : BdErrorCode := ⟨101⟩
def serviceNotAvailable : BdErrorCode := ⟨108⟩
def noProfileInfoExists : BdErrorCode := ⟨800⟩
def noFile : BdErrorCode := ⟨1000⟩
def permissionDenied : BdErrorCode := ⟨1001⟩
def fileSizeLimitExceeded : BdErrorCode := ⟨1002⟩
def filenameMaxLengthExceeded : BdErrorCode := ⟨1003⟩
def contentStreamingFileNotAvailable : BdErrorCode := ⟨2000⟩
def contentStreamingStorageSpaceExceeded : BdErrorCode := ⟨2001⟩
def contentStreamingNumFilesExceeded : BdErrorCode := ⟨2002⟩
def contentStreamingFilenameMaxLengthExceeded : BdErrorCode := ⟨2004⟩
def contentStreamingMaxThumbDataSizeExceeded : BdErrorCode := ⟨2005⟩
def richPresenceDataTooLarge : BdErrorCode := ⟨6800⟩
def richPresenceTooManyUsers : BdErrorCode := ⟨6801⟩

end BdErrorCode

structure TaskReply where
  transactionId : UInt64
  errorCode : BdErrorCode
  operationId : UInt8
  results : List TaskResult
  counted : Bool
  deriving DecidableEq

structure BdResponse where
  shouldEncrypt : Bool
  data : List UInt8
  deriving DecidableEq

def BdResponse.encryptedIfAvailable (data : List UInt8) : BdResponse :=
  { shouldEncrypt := true, data := data }

namespace TaskReply

-- every constructor draws its transaction id from the counter of its thread
def withOnlyErrorCode (transactionId : UInt64) (errorCode : BdErrorCode) (operationId : UInt8) :
    TaskReply :=
  { transactionId, errorCode, operationId, results := [], counted := false }

def withResults (transactionId : UInt64) (operationId : UInt8) (results : List TaskResult) :
    TaskReply :=
  { transactionId, errorCode := .noError, operationId, results, counted := true }

def withSingleResult (transactionId : UInt64) (operationId : UInt8) (result : TaskResult) :
    TaskReply :=
  { transactionId, errorCode := .noError, operationId, results := [result], counted := false }

open BdWriter

def writeNumResults (reply : TaskReply) : WriteM Unit :=
  if reply.counted then writeU32 (UInt32.ofNat reply.results.length) else pure ()

def write (reply : TaskReply) : WriteM Unit := do
  setTypeChecked false
  setMode .byteMode
  writeU8 BdMessageType.lobbyServiceTaskReply.toU8
  setMode .bitMode
  setTypeChecked true
  writeTypeCheckedBit
  writeU64 reply.transactionId
  writeU32 reply.errorCode.toU32
  writeU8 reply.operationId
  reply.writeNumResults
  Wire.writeEach TaskResult.serialize reply.results
  flush

def toResponse (reply : TaskReply) : Except Fault BdResponse :=
  match exec reply.write BdWriter.new with
  | (.ok _, writer) => .ok (.encryptedIfAvailable writer.out)
  | (.error fault, _) => .error fault

end TaskReply

structure ReplyContent where
  messageType : UInt8
  transactionId : UInt64
  errorCode : UInt32
  operationId : UInt8
  numResults : Option Nat
  results : List (List Field)
  deriving DecidableEq

namespace ReplyContent

open BdReader

def readNumResults (counted : Bool) : ReadM (Option Nat) :=
  if counted then do
    let numResults ← readU32
    pure (some numResults.toNat)
  else
    pure none

def readResults : List (List FieldKind) → ReadM (List (List Field))
  | [] => pure []
  | kinds :: more => do
    let fields ← readFields kinds
    let rest ← readResults more
    pure (fields :: rest)

-- the client knows whether the task counts its results and what fields they have
def read (counted : Bool) (shape : List (List FieldKind)) : ReadM ReplyContent := do
  let messageType ← readU8
  setMode .bitMode
  readTypeCheckedBit
  let transactionId ← readU64
  let errorCode ← readU32
  let operationId ← readU8
  let numResults ← readNumResults counted
  let results ← readResults shape
  pure { messageType, transactionId, errorCode, operationId, numResults, results }

end ReplyContent

namespace TaskReply

def content (reply : TaskReply) : ReplyContent where
  messageType := BdMessageType.lobbyServiceTaskReply.toU8
  transactionId := reply.transactionId
  errorCode := reply.errorCode.toU32
  operationId := reply.operationId
  numResults := if reply.counted then some reply.results.length else none
  results := reply.results.map TaskResult.fields

def shape (reply : TaskReply) : List (List FieldKind) :=
  reply.results.map fun result => result.fields.map Field.kind

def Arrives (reply : TaskReply) : Prop :=
  ∃ response, reply.toResponse = .ok response ∧
    (exec (ReplyContent.read reply.counted reply.shape) (BdReader.new response.data)).1
      = .ok reply.content

open BdWriter

-- the byte that names the reply, and the switch to type-checked bits
def writeStart : WriteM Unit := do
  setTypeChecked false
  setMode .byteMode
  writeU8 BdMessageType.lobbyServiceTaskReply.toU8
  setMode .bitMode
  setTypeChecked true
  writeTypeCheckedBit

def writeHeader (reply : TaskReply) : WriteM Unit := do
  writeU64 reply.transactionId
  writeU32 reply.errorCode.toU32
  writeU8 reply.operationId
  reply.writeNumResults

theorem write_eq (reply : TaskReply) :
    reply.write = (do
      writeStart
      reply.writeHeader
      Wire.writeEach TaskResult.serialize reply.results
      flush) := by
  simp only [write, writeStart, writeHeader, bind_assoc]

def startCode : List Bool := ofByte BdMessageType.lobbyServiceTaskReply.toU8

def numResultsCode (reply : TaskReply) : List Bool :=
  if reply.counted then
    scalarCode .bitMode true .unsignedInteger32Type .u32 (UInt32.ofNat reply.results.length)
  else []

def headerCode (reply : TaskReply) : List Bool :=
  scalarCode .bitMode true .unsignedInteger64Type .u64 reply.transactionId ++
    (scalarCode .bitMode true .unsignedInteger32Type .u32 reply.errorCode.toU32 ++
      (scalarCode .bitMode true .unsignedChar8Type .u8 reply.operationId ++ reply.numResultsCode))

def resultsCode (results : List TaskResult) : List Bool :=
  results.flatMap fun result => valuesCode .bitMode true result.values

theorem exec_start (messageType : BdMessageType) :
    ∃ w, exec (do
        setTypeChecked false
        setMode .byteMode
        writeU8 messageType.toU8
        setMode .bitMode
        setTypeChecked true
        writeTypeCheckedBit) BdWriter.new = (.ok (), w)
      ∧ w.Ready .bitMode true
      ∧ w.bits = scalarCode .byteMode false .unsignedChar8Type .u8 messageType.toU8 ++ [true] := by
  have named : Writes .byteMode false (writeU8 messageType.toU8) _ () :=
    writes_scalar .unsignedChar8Type .u8 messageType.toU8
  obtain ⟨first, ranFirst, readyFirst, bitsFirst⟩ := named BdWriter.new BdWriter.ready_new
  have switched := BdWriter.ready_setMode readyFirst
  obtain ⟨ranFlag, readyFlag, bitsFlag⟩ :=
    BdWriter.writes_setTypeChecked .bitMode false true _ switched
  obtain ⟨last, ranLast, readyLast, bitsLast⟩ := writes_typeCheckedBit _ readyFlag
  refine ⟨last, ?_, readyLast, ?_⟩
  · have untouched : exec (setTypeChecked false) BdWriter.new = (.ok (), BdWriter.new) := rfl
    have already : exec (setMode .byteMode) BdWriter.new = (.ok (), BdWriter.new) := rfl
    have toBits : exec (setMode .bitMode) first = (.ok (), { first with mode := .bitMode }) := rfl
    rw [exec_bind_ok _ untouched, exec_bind_ok _ already, exec_bind_ok _ ranFirst,
      exec_bind_ok _ toBits, exec_bind_ok _ ranFlag, ranLast]
  · have kept : BdWriter.bits { first with mode := .bitMode } = first.bits := rfl
    rw [bitsLast, bitsFlag, kept, bitsFirst]
    rfl

theorem exec_writeStart :
    ∃ w, exec writeStart BdWriter.new = (.ok (), w) ∧ w.Ready .bitMode true
      ∧ w.bits = startCode ++ [true] := exec_start .lobbyServiceTaskReply

theorem writes_header (reply : TaskReply) :
    Writes .bitMode true reply.writeHeader reply.headerCode () := by
  refine Wire.emits_bind (writes_scalar _ _ _) (Wire.emits_bind (writes_scalar _ _ _)
    (Wire.emits_bind (writes_scalar _ _ _) ?_))
  rw [writeNumResults, numResultsCode]
  split
  next counted => exact writes_scalar _ _ _
  next uncounted => exact Wire.emits_pure ()

theorem writes_results {results : List TaskResult}
    (other : ∀ result ∈ results, result.isStreamInfo = false) :
    Writes .bitMode true (Wire.writeEach TaskResult.serialize results) (resultsCode results) () :=
  Wire.emits_writeEach results fun result member => result.writes (other result member)

theorem toResponse_code {reply : TaskReply}
    (other : ∀ result ∈ reply.results, result.isStreamInfo = false) :
    ∃ data n, reply.toResponse = .ok (.encryptedIfAvailable data)
      ∧ ofBytes data = startCode ++ [true] ++ reply.headerCode ++ resultsCode reply.results
        ++ List.replicate n false := by
  obtain ⟨first, ranStart, readyStart, bitsStart⟩ := exec_writeStart
  obtain ⟨second, ranHeader, readyHeader, bitsHeader⟩ := reply.writes_header first readyStart
  obtain ⟨third, ranResults, readyResults, bitsResults⟩ := writes_results other second readyHeader
  obtain ⟨last, flushed, n, _, filled⟩ := BdWriter.exec_flush readyResults
  refine ⟨last.out, n, ?_, ?_⟩
  · have ran : exec reply.write BdWriter.new = (.ok (), last) := by
      rw [write_eq, exec_bind_ok _ ranStart, exec_bind_ok _ ranHeader, exec_bind_ok _ ranResults,
        flushed]
    rw [toResponse, ran]
  · rw [filled, bitsResults, bitsHeader, bitsStart]

theorem exec_results_streamInfo {results : List TaskResult} {result : TaskResult}
    (member : result ∈ results) (stream : result.isStreamInfo = true) :
    ∀ w : BdWriter, w.Ready .bitMode true →
      ∃ t, exec (Wire.writeEach TaskResult.serialize results) w
        = (.error (.error (.writerMode .byteMode .bitMode)), t) := by
  induction results with
  | nil => cases member
  | cons head rest ih =>
    intro w ready
    cases first : head.isStreamInfo with
    | true =>
      obtain ⟨info, rfl⟩ : ∃ info, head = .streamInfo info := by
        cases head <;> first | exact ⟨_, rfl⟩ | cases first
      obtain ⟨t, refused⟩ := info.exec_serialize_bitMode ready
      exact ⟨t, exec_bind_error _ refused⟩
    | false =>
      have later : result ∈ rest := by
        rcases List.mem_cons.mp member with rfl | later
        · simp [first] at stream
        · exact later
      obtain ⟨middle, wrote, fine, _⟩ := head.writes first w ready
      obtain ⟨t, refused⟩ := ih later middle fine
      exact ⟨t, by rw [Wire.writeEach, exec_bind_ok _ wrote, refused]⟩

theorem toResponse_streamInfo {reply : TaskReply} {result : TaskResult}
    (member : result ∈ reply.results) (stream : result.isStreamInfo = true) :
    reply.toResponse = .error (.error (.writerMode .byteMode .bitMode)) := by
  obtain ⟨first, ranStart, readyStart, _⟩ := exec_writeStart
  obtain ⟨second, ranHeader, readyHeader, _⟩ := reply.writes_header first readyStart
  obtain ⟨last, refused⟩ := exec_results_streamInfo member stream second readyHeader
  have ran : exec reply.write BdWriter.new
      = (.error (.error (.writerMode .byteMode .bitMode)), last) := by
    rw [write_eq, exec_bind_ok _ ranStart, exec_bind_ok _ ranHeader, exec_bind_error _ refused]
  rw [toResponse, ran]

end TaskReply

namespace ReplyContent

open BdReader TaskReply

theorem reads_numResults {reply : TaskReply} (few : reply.results.length < 2 ^ 32) :
    Reads .bitMode true (readNumResults reply.counted) reply.numResultsCode
      reply.content.numResults := by
  rw [readNumResults, numResultsCode, content]
  split
  next counted =>
    refine Wire.accepts_finish (reads_scalar (by decide) _ _) ?_
    rw [toNat_ofNat_of_lt few]
    exact Wire.accepts_pure _
  next uncounted => exact Wire.accepts_pure none

theorem reads_results {results : List TaskResult}
    (other : ∀ result ∈ results, result.isStreamInfo = false)
    (fits : ∀ result ∈ results, result.Fits) :
    Reads .bitMode true (readResults (results.map fun result => result.fields.map Field.kind))
      (resultsCode results) (results.map TaskResult.fields) := by
  induction results with
  | nil => exact Wire.accepts_pure []
  | cons result rest ih =>
    have head : Reads .bitMode true _ _ _ :=
      result.reads (other result List.mem_cons_self) (fits result List.mem_cons_self)
    have tail := ih (fun r member => other r (List.mem_cons_of_mem result member))
      (fun r member => fits r (List.mem_cons_of_mem result member))
    exact Wire.accepts_bind head (Wire.accepts_finish tail (Wire.accepts_pure _))

theorem reads_body {reply : TaskReply} (few : reply.results.length < 2 ^ 32)
    (other : ∀ result ∈ reply.results, result.isStreamInfo = false)
    (fits : ∀ result ∈ reply.results, result.Fits) :
    Reads .bitMode true
      (do
        let transactionId ← readU64
        let errorCode ← readU32
        let operationId ← readU8
        let numResults ← readNumResults reply.counted
        let results ← readResults reply.shape
        pure
          { messageType := BdMessageType.lobbyServiceTaskReply.toU8, transactionId, errorCode,
            operationId, numResults, results })
      (reply.headerCode ++ resultsCode reply.results) reply.content := by
  rw [headerCode]
  simp only [List.append_assoc]
  refine Wire.accepts_bind (reads_scalar (by decide) _ _)
    (Wire.accepts_bind (reads_scalar (by decide) _ _)
      (Wire.accepts_bind (reads_scalar (by decide) _ _)
        (Wire.accepts_bind (reads_numResults few)
          (Wire.accepts_finish (reads_results other fits) (Wire.accepts_pure _)))))

theorem exec_afterStart {α : Type} {m : UInt8 → ReadM α} {data : List UInt8} {code rest : List Bool}
    {a : α} (reads : Reads .bitMode true (m BdMessageType.lobbyServiceTaskReply.toU8) code a)
    (sent : ofBytes data = startCode ++ [true] ++ code ++ rest) :
    (exec (do
      let messageType ← readU8
      setMode .bitMode
      readTypeCheckedBit
      m messageType) (BdReader.new data)).1 = .ok a := by
  have start : (BdReader.new data).bits = startCode ++ (true :: (code ++ rest)) := by
    rw [BdReader.bits_whole rfl]
    change ofBytes data = _
    rw [sent]
    simp
  have named : Reads .byteMode false readU8 startCode BdMessageType.lobbyServiceTaskReply.toU8 :=
    reads_scalar (by decide) .u8 BdMessageType.lobbyServiceTaskReply.toU8
  obtain ⟨first, ranFirst, readyFirst, leftFirst⟩ := named _ _ (BdReader.ready_new data) start
  have switched := BdReader.ready_setMode readyFirst
  have toBits : exec (setMode .bitMode) first = (.ok (), { first with mode := .bitMode }) := rfl
  obtain ⟨second, ranSecond, readySecond, leftSecond⟩ :=
    reads_typeCheckedBit _ true _ switched leftFirst
  obtain ⟨last, ranLast, _, _⟩ := reads second _ readySecond leftSecond
  rw [exec_bind_ok _ ranFirst, exec_bind_ok _ toBits, exec_bind_ok _ ranSecond, ranLast]

theorem exec_read {reply : TaskReply} {data : List UInt8} {padding : List Bool}
    (few : reply.results.length < 2 ^ 32)
    (other : ∀ result ∈ reply.results, result.isStreamInfo = false)
    (fits : ∀ result ∈ reply.results, result.Fits)
    (sent : ofBytes data
      = startCode ++ [true] ++ reply.headerCode ++ resultsCode reply.results ++ padding) :
    (exec (ReplyContent.read reply.counted reply.shape) (BdReader.new data)).1
      = .ok reply.content := by
  have whole : ofBytes data
      = startCode ++ [true] ++ (reply.headerCode ++ resultsCode reply.results) ++ padding := by
    rw [sent]
    simp only [List.append_assoc]
  exact exec_afterStart (reads_body few other fits) whole

end ReplyContent

namespace TaskReply

/-- A reply arrives exactly when no result of it describes a stream. -/
theorem arrives_iff (reply : TaskReply) (few : reply.results.length < 2 ^ 32)
    (fits : ∀ result ∈ reply.results, result.Fits) :
    reply.Arrives ↔ ∀ result ∈ reply.results, result.isStreamInfo = false := by
  constructor
  · rintro ⟨response, sent, -⟩ result member
    by_contra stream
    have refused := toResponse_streamInfo member (by simpa using stream)
    rw [refused] at sent
    cases sent
  · intro other
    obtain ⟨data, n, sent, code⟩ := toResponse_code other
    exact ⟨_, sent, ReplyContent.exec_read few other fits code⟩

theorem arrives_iff_url :
    (withResults 3 2 [.streamUrl ⟨7, "http://obe/7", 0, ""⟩]).Arrives
      ↔ ∀ result ∈ [TaskResult.streamUrl ⟨7, "http://obe/7", 0, ""⟩],
        result.isStreamInfo = false :=
  arrives_iff (withResults 3 2 [.streamUrl ⟨7, "http://obe/7", 0, ""⟩]) (by decide) (by
    simp [withResults, TaskResult.Fits, TaskResult.fields, TaskResult.values, Field.Fits,
      Value.Fits])

def untaggedStream : StreamInfo :=
  { id := 1, filename := "", title := .t6Pc, streamSize := 0, summaryFileSize := 0, created := 0,
    modified := 0, ownerId := 1, ownerName := "", url := "", metadata := [], category := 0,
    slot := 0, tags := [], numCopiesMade := 0, originId := 0 }

theorem stream_listing_lost :
    (∀ result ∈ [TaskResult.streamInfo untaggedStream], result.Fits)
      ∧ (withResults 0 1 [.streamInfo untaggedStream]).toResponse
        = .error (.error (.writerMode .byteMode .bitMode))
      ∧ ¬(withResults 0 1 [.streamInfo untaggedStream]).Arrives := by
  have refused : (withResults 0 1 [.streamInfo untaggedStream]).toResponse = .error _ :=
    toResponse_streamInfo List.mem_cons_self rfl
  refine ⟨?_, refused, ?_⟩
  · simp [TaskResult.Fits, TaskResult.fields, StreamInfo.valuesBeforeTags, Field.Fits, Value.Fits,
      ArrayValue.Fits, untaggedStream, flattenTags]
  · rintro ⟨response, sent, -⟩
    rw [refused] at sent
    cases sent

end TaskReply

end BitDemon
