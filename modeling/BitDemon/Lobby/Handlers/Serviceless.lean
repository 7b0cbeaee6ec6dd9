import BitDemon.Lobby.Handling

set_option autoImplicit false

/-!
# Handlers without a service

They read what a client sends, log it and answer with what they have.
-/

namespace BitDemon

open Machine BdReader BdWriter

structure TwitchBoolResult where
  value : Bool
  deriving DecidableEq

structure YoutubeBoolResult where
  value : Bool
  deriving DecidableEq

-- floats are their bit patterns
structure DmlInfoResult where
  countryCode : String
  country : String
  region : String
  city : String
  latitude : UInt32
  longitude : UInt32
  deriving DecidableEq

structure DmlHierarchicalInfoResult where
  base : DmlInfoResult
  tier0 : UInt32
  tier1 : UInt32
  tier2 : UInt32
  tier3 : UInt32
  deriving DecidableEq

structure TimestampResult where
  value : UInt32
  deriving DecidableEq

def TwitchBoolResult.serialize (result : TwitchBoolResult) : WriteM Unit := writeBool result.value

def YoutubeBoolResult.serialize (result : YoutubeBoolResult) : WriteM Unit := writeBool result.value

def DmlInfoResult.serialize (result : DmlInfoResult) : WriteM Unit := do
  writeStr result.countryCode
  writeStr result.country
  writeStr result.region
  writeStr result.city
  writeF32 result.latitude
  writeF32 result.longitude

def DmlHierarchicalInfoResult.serialize (result : DmlHierarchicalInfoResult) : WriteM Unit := do
  result.base.serialize
  writeU32 result.tier0
  writeU32 result.tier1
  writeU32 result.tier2
  writeU32 result.tier3

def TimestampResult.serialize (result : TimestampResult) : WriteM Unit := writeU32 result.value

inductive FixedResult where
  | twitchBool (result : TwitchBoolResult)
  | youtubeBool (result : YoutubeBoolResult)
  | dmlInfo (result : DmlInfoResult)
  | dmlHierarchicalInfo (result : DmlHierarchicalInfoResult)
  | timestamp (result : TimestampResult)
  deriving DecidableEq

def FixedResult.serialize : FixedResult → WriteM Unit
  | .twitchBool result => result.serialize
  | .youtubeBool result => result.serialize
  | .dmlInfo result => result.serialize
  | .dmlHierarchicalInfo result => result.serialize
  | .timestamp result => result.serialize

/-- A `TaskReply` whose results come from these handlers. -/
structure FixedReply where
  transactionId : UInt64
  errorCode : BdErrorCode
  operationId : UInt8
  results : List FixedResult
  counted : Bool
  deriving DecidableEq

namespace FixedReply

def writeNumResults (reply : FixedReply) : WriteM Unit :=
  if reply.counted then writeU32 (UInt32.ofNat reply.results.length) else pure ()

def write (reply : FixedReply) : WriteM Unit := do
  setTypeChecked false
  setMode .byteMode
  writeU8 BdMessageType.lobbyServiceTaskReply.toU8
  setMode .bitMode
  setTypeChecked true
  writeTypeCheckedBit
  writeU64 reply.transactionId
  writeU32 reply.errorCode.toU32
  writeU8 reply.operationId
  reply.writeNumResults
  Wire.writeEach FixedResult.serialize reply.results
  flush

def toResponse (reply : FixedReply) : Except Fault BdResponse :=
  match exec reply.write BdWriter.new with
  | (.ok _, writer) => .ok (.encryptedIfAvailable writer.out)
  | (.error fault, _) => .error fault

end FixedReply

inductive ServiceReply where
  | lobby (reply : Reply)
  | fixed (reply : FixedReply)
  deriving DecidableEq

def ServiceReply.toResponse : ServiceReply → Except Fault BdResponse
  | .lobby reply => reply.toResponse
  | .fixed reply => reply.toResponse

section Answers

variable {ω : Type}

def answerOnly (errorCode : BdErrorCode) (operationId : UInt8) : HandleM ω ServiceReply := do
  let reply ← withOnlyErrorCode errorCode operationId
  pure (.lobby reply)

def answerWith (operationId : UInt8) (results : List FixedResult) : HandleM ω ServiceReply := do
  let transactionId ← nextTransactionId
  pure (.fixed { transactionId, errorCode := .noError, operationId, results, counted := true })

end Answers

variable {ω : Type}

inductive AntiCheatTaskId where
  | answerChallenges | reportConsoleId | reportConsoleDetails
  deriving DecidableEq, Repr

namespace AntiCheatTaskId

def toU8 : AntiCheatTaskId → UInt8
  | .answerChallenges => 2
  | .reportConsoleId => 3
  | .reportConsoleDetails => 4

def all : List AntiCheatTaskId := [.answerChallenges, .reportConsoleId, .reportConsoleDetails]

def fromU8 (value : UInt8) : Option AntiCheatTaskId := all.find? fun taskId => taskId.toU8 == value

end AntiCheatTaskId

namespace AntiCheatHandler

def reportConsoleDetails : HandleM ω ServiceReply := do
  let _blob1 ← perform readBlob
  let _uint1 ← perform readU32
  let _changelist ← perform readU32
  let _ulong1 ← perform readU64
  let _ulong2 ← perform readU64
  let _ulong3 ← perform readU64
  let _blob2 ← perform readBlob
  answerOnly .noError AntiCheatTaskId.reportConsoleDetails.toU8

def handleTask (taskIdValue : UInt8) : HandleM ω ServiceReply :=
  match AntiCheatTaskId.fromU8 taskIdValue with
  | none => answerOnly .noError taskIdValue
  | some .reportConsoleDetails => reportConsoleDetails
  -- the others are not implemented
  | some taskId => answerOnly .noError taskId.toU8

end AntiCheatHandler

inductive DmlTaskId where
  | recordIp | getUserData | getUserHierarchicalData
  deriving DecidableEq, Repr

namespace DmlTaskId

def toU8 : DmlTaskId → UInt8
  | .recordIp => 1
  | .getUserData => 2
  | .getUserHierarchicalData => 3

def all : List DmlTaskId := [.recordIp, .getUserData, .getUserHierarchicalData]

def fromU8 (value : UInt8) : Option DmlTaskId := all.find? fun taskId => taskId.toU8 == value

end DmlTaskId

namespace DmlHandler

-- 34.0453 and -118.2413
def createMockDmlInfo : DmlInfoResult :=
  { countryCode := "US", country := "United States", region := "California", city := "Los Angeles"
    latitude := 0x42082e63, longitude := 0xc2ec7b8c }

def recordIp : HandleM ω ServiceReply := do
  let _ip ← perform readU32
  answerOnly .noError DmlTaskId.recordIp.toU8

def getUserData : HandleM ω ServiceReply :=
  answerWith DmlTaskId.getUserData.toU8 [.dmlInfo createMockDmlInfo]

-- it answers under the id of the task before it
def getUserHierarchicalData : HandleM ω ServiceReply :=
  answerWith DmlTaskId.getUserData.toU8
    [.dmlHierarchicalInfo
      { base := createMockDmlInfo, tier0 := 0, tier1 := 0, tier2 := 0, tier3 := 0 }]

def handleTask (taskIdValue : UInt8) : HandleM ω ServiceReply :=
  match DmlTaskId.fromU8 taskIdValue with
  | none => answerOnly .noError taskIdValue
  | some .recordIp => recordIp
  | some .getUserData => getUserData
  | some .getUserHierarchicalData => getUserHierarchicalData

end DmlHandler

structure EventInfo where
  categoryId : UInt32
  binaryData : Option (List UInt8)
  stringData : Option String
  deriving DecidableEq

def EventInfo.deserialize : ReadM EventInfo := do
  let categoryId ← readU32
  let isBinary ← readBool
  if isBinary then
    let binaryData ← readBlob
    pure { categoryId, binaryData := some binaryData, stringData := none }
  else
    let stringData ← readStr
    pure { categoryId, binaryData := none, stringData := some stringData }

inductive EventLogTaskId where
  | recordEvent | recordEventBin | recordEvents | recordEventsMixed
  deriving DecidableEq, Repr

namespace EventLogTaskId

def toU8 : EventLogTaskId → UInt8
  | .recordEvent => 1
  | .recordEventBin => 2
  | .recordEvents => 3
  | .recordEventsMixed => 5

def all : List EventLogTaskId := [.recordEvent, .recordEventBin, .recordEvents, .recordEventsMixed]

def fromU8 (value : UInt8) : Option EventLogTaskId := all.find? fun taskId => taskId.toU8 == value

end EventLogTaskId

namespace EventLogHandler

def recordEvent : HandleM ω ServiceReply := do
  let _stringEvent ← perform readStr
  let _categoryId ← perform readU32
  answerOnly .noError EventLogTaskId.recordEvent.toU8

def recordEventBin : HandleM ω ServiceReply := do
  let _binaryData ← perform readBlob
  let _categoryId ← perform readU32
  answerOnly .noError EventLogTaskId.recordEventBin.toU8

def recordEvents : HandleM ω ServiceReply := do
  let _categoryId ← perform readU32
  let eventCount ← perform readU32
  let _stringEvents ← Wire.readEach (perform readStr) eventCount.toNat
  answerOnly .noError EventLogTaskId.recordEvents.toU8

-- it answers under the id of the task before it
def recordEventsMixed : HandleM ω ServiceReply := do
  let eventCount ← perform readU32
  let _eventInfos ← Wire.readEach (perform EventInfo.deserialize) eventCount.toNat
  answerOnly .noError EventLogTaskId.recordEvents.toU8

def handleTask (taskIdValue : UInt8) : HandleM ω ServiceReply :=
  match EventLogTaskId.fromU8 taskIdValue with
  | none => answerOnly .noError taskIdValue
  | some .recordEvent => recordEvent
  | some .recordEventBin => recordEventBin
  | some .recordEvents => recordEvents
  | some .recordEventsMixed => recordEventsMixed

end EventLogHandler

inductive KeyArchiveUpdateType where
  | replace | add | max | min | and | or | xor | subSafe
  deriving DecidableEq, Repr

namespace KeyArchiveUpdateType

def toU8 : KeyArchiveUpdateType → UInt8
  | .replace => 0
  | .add => 1
  | .max => 2
  | .min => 3
  | .and => 4
  | .or => 5
  | .xor => 6
  | .subSafe => 7

def all : List KeyArchiveUpdateType := [.replace, .add, .max, .min, .and, .or, .xor, .subSafe]

def fromU8 (value : UInt8) : Option KeyArchiveUpdateType :=
  all.find? fun updateType => updateType.toU8 == value

end KeyArchiveUpdateType

structure KeyValuePairWriteResult where
  index : UInt16
  value : Int64
  updateType : KeyArchiveUpdateType
  deriving DecidableEq

def KeyValuePairWriteResult.deserialize : ReadM KeyValuePairWriteResult := do
  let index ← readU16
  let value ← readI64
  let updateTypeValue ← readU8
  let updateType ←
    okOr (KeyArchiveUpdateType.fromU8 updateTypeValue) (.invalidUpdateType updateTypeValue)
  pure { index, value, updateType }

inductive KeyArchiveTaskId where
  | write | read | readAll | readMultipleEntityIds
  deriving DecidableEq, Repr

namespace KeyArchiveTaskId

def toU8 : KeyArchiveTaskId → UInt8
  | .write => 1
  | .read => 2
  | .readAll => 3
  | .readMultipleEntityIds => 4

def all : List KeyArchiveTaskId := [.write, .read, .readAll, .readMultipleEntityIds]

def fromU8 (value : UInt8) : Option KeyArchiveTaskId := all.find? fun taskId => taskId.toU8 == value

end KeyArchiveTaskId

namespace KeyArchiveHandler

def readWrites : HandleM ω Unit := do
  if ← unwrapOr (perform nextIsU16) false then
    let _categoryId ← perform readU16
    let _kvps ← collectOk (perform KeyValuePairWriteResult.deserialize)
    pure ()
  else
    pure ()

def write : HandleM ω ServiceReply := do
  let _entityId ← perform readU64
  readWrites
  answerOnly .noError KeyArchiveTaskId.write.toU8

def readIndices : HandleM ω Unit := do
  if ← unwrapOr (perform nextIsU16) false then
    let _categoryId ← perform readU16
    let _readDedicated ← perform readBool
    let _indices ← collectWhile (unwrapOr (perform nextIsU16) false) (perform readU16)
    pure ()
  else
    pure ()

def read : HandleM ω ServiceReply := do
  let _entityId ← perform readU64
  readIndices
  answerOnly .noError KeyArchiveTaskId.read.toU8

def readAll : HandleM ω ServiceReply := answerOnly .noError KeyArchiveTaskId.readAll.toU8

-- it answers under the id of the task before it
def readMultipleEntityIds : HandleM ω ServiceReply :=
  answerOnly .noError KeyArchiveTaskId.readAll.toU8

def handleTask (taskIdValue : UInt8) : HandleM ω ServiceReply :=
  match KeyArchiveTaskId.fromU8 taskIdValue with
  | none => answerOnly .noError taskIdValue
  | some .write => write
  | some .read => read
  | some .readAll => readAll
  | some .readMultipleEntityIds => readMultipleEntityIds

end KeyArchiveHandler

inductive TitleUtilitiesTaskId where
  | verifyString | getTitleStats | recordEvent | recordIp | recordEventBin | getServerTime
  | areUsersOnline | getUserNames
  deriving DecidableEq, Repr

namespace TitleUtilitiesTaskId

def toU8 : TitleUtilitiesTaskId → UInt8
  | .verifyString => 1
  | .getTitleStats => 2
  | .recordEvent => 3
  | .recordIp => 4
  | .recordEventBin => 5
  | .getServerTime => 6
  | .areUsersOnline => 7
  | .getUserNames => 9

def all : List TitleUtilitiesTaskId :=
  [.verifyString, .getTitleStats, .recordEvent, .recordIp, .recordEventBin, .getServerTime,
    .areUsersOnline, .getUserNames]

def fromU8 (value : UInt8) : Option TitleUtilitiesTaskId :=
  all.find? fun taskId => taskId.toU8 == value

end TitleUtilitiesTaskId

namespace TitleUtilitiesHandler

-- `now` is what `Utc::now().timestamp()` reads
def getServerTime (now : Fallible ω Int64) : HandleM ω ServiceReply := do
  let now ← call now
  answerWith TitleUtilitiesTaskId.getServerTime.toU8 [.timestamp ⟨wrapTimestamp now⟩]

def handleTask (now : Fallible ω Int64) (taskIdValue : UInt8) : HandleM ω ServiceReply :=
  match TitleUtilitiesTaskId.fromU8 taskIdValue with
  | none => answerOnly .noError taskIdValue
  | some .getServerTime => getServerTime now
  -- the others are not implemented
  | some taskId => answerOnly .noError taskId.toU8

end TitleUtilitiesHandler

inductive TwitchTaskId where
  | linkAccount | unlinkAccount | isLinked | getUserInfo
  deriving DecidableEq, Repr

namespace TwitchTaskId

def toU8 : TwitchTaskId → UInt8
  | .linkAccount => 1
  | .unlinkAccount => 2
  | .isLinked => 3
  | .getUserInfo => 4

def all : List TwitchTaskId := [.linkAccount, .unlinkAccount, .isLinked, .getUserInfo]

def fromU8 (value : UInt8) : Option TwitchTaskId := all.find? fun taskId => taskId.toU8 == value

end TwitchTaskId

namespace TwitchHandler

def linkAccount : HandleM ω ServiceReply := do
  let _token ← perform readStr
  answerOnly .noError TwitchTaskId.linkAccount.toU8

-- it answers under the id of the task before it
def unlinkAccount : HandleM ω ServiceReply := answerOnly .noError TwitchTaskId.linkAccount.toU8

def isLinked : HandleM ω ServiceReply := answerWith TwitchTaskId.isLinked.toU8 [.twitchBool ⟨false⟩]

def getUserInfo : HandleM ω ServiceReply :=
  answerOnly .serviceNotAvailable TwitchTaskId.getUserInfo.toU8

def handleTask (taskIdValue : UInt8) : HandleM ω ServiceReply :=
  match TwitchTaskId.fromU8 taskIdValue with
  | none => answerOnly .noError taskIdValue
  | some .linkAccount => linkAccount
  | some .unlinkAccount => unlinkAccount
  | some .isLinked => isLinked
  | some .getUserInfo => getUserInfo

end TwitchHandler

inductive Vote where
  | dislike | like
  deriving DecidableEq, Repr

namespace Vote

def toU8 : Vote → UInt8
  | .dislike => 0x0
  | .like => 0xA

def all : List Vote := [.dislike, .like]

def fromU8 (value : UInt8) : Option Vote := all.find? fun vote => vote.toU8 == value

end Vote

structure RatingInfo where
  entityId : UInt64
  rating : Vote
  deriving DecidableEq

structure CategorizedRatingInfo where
  ratingInfo : RatingInfo
  category : UInt16
  deriving DecidableEq

def RatingInfo.deserialize : ReadM RatingInfo := do
  let entityId ← readU64
  let ratingValue ← readU8
  let rating ← okOr (Vote.fromU8 ratingValue) (.invalidVote ratingValue)
  pure { entityId, rating }

def CategorizedRatingInfo.deserialize : ReadM CategorizedRatingInfo := do
  let ratingInfo ← RatingInfo.deserialize
  let category ← readU16
  pure { ratingInfo, category }

inductive VoteRankTaskId where
  | submitRating | submitCategorizedRating | getVoteHistory
  deriving DecidableEq, Repr

namespace VoteRankTaskId

def toU8 : VoteRankTaskId → UInt8
  | .submitRating => 1
  | .submitCategorizedRating => 2
  | .getVoteHistory => 3

def all : List VoteRankTaskId := [.submitRating, .submitCategorizedRating, .getVoteHistory]

def fromU8 (value : UInt8) : Option VoteRankTaskId := all.find? fun taskId => taskId.toU8 == value

end VoteRankTaskId

namespace VoteRankHandler

def submitRating : HandleM ω ServiceReply := do
  let _votes ← collectOk (perform RatingInfo.deserialize)
  answerOnly .noError VoteRankTaskId.submitRating.toU8

-- it answers under the id of the task before it
def submitCategorizedRating : HandleM ω ServiceReply := do
  let _votes ← collectOk (perform CategorizedRatingInfo.deserialize)
  answerOnly .noError VoteRankTaskId.submitRating.toU8

def getVoteHistory : HandleM ω ServiceReply := do
  let _unknown ← perform readU16
  let _itemOffset ← perform readU32
  let _itemCount ← perform readU32
  answerWith VoteRankTaskId.getVoteHistory.toU8 []

def handleTask (taskIdValue : UInt8) : HandleM ω ServiceReply :=
  match VoteRankTaskId.fromU8 taskIdValue with
  | none => answerOnly .noError taskIdValue
  | some .submitRating => submitRating
  | some .submitCategorizedRating => submitCategorizedRating
  | some .getVoteHistory => getVoteHistory

end VoteRankHandler

def BdErrorCode.youtubeServiceError : BdErrorCode := ⟨3301⟩

inductive YoutubeTaskId where
  | startAccountRegistration | isRegistered | unregister | uploadVideo | getUserToken
  deriving DecidableEq, Repr

namespace YoutubeTaskId

def toU8 : YoutubeTaskId → UInt8
  | .startAccountRegistration => 1
  | .isRegistered => 2
  | .unregister => 3
  | .uploadVideo => 4
  | .getUserToken => 6

def all : List YoutubeTaskId :=
  [.startAccountRegistration, .isRegistered, .unregister, .uploadVideo, .getUserToken]

def fromU8 (value : UInt8) : Option YoutubeTaskId := all.find? fun taskId => taskId.toU8 == value

end YoutubeTaskId

namespace YoutubeHandler

def startAccountRegistration : HandleM ω ServiceReply :=
  answerOnly .youtubeServiceError YoutubeTaskId.startAccountRegistration.toU8

def isRegistered : HandleM ω ServiceReply :=
  answerWith YoutubeTaskId.isRegistered.toU8 [.youtubeBool ⟨false⟩]

def unregister : HandleM ω ServiceReply := answerOnly .noError YoutubeTaskId.unregister.toU8

def uploadVideo : HandleM ω ServiceReply := do
  let _fileId ← perform readU64
  let _isPrivate ← perform readBool
  let developerTagCount ← perform readU32
  let _developerTags ← Wire.readEach (perform readStr) developerTagCount.toNat
  answerOnly .youtubeServiceError YoutubeTaskId.uploadVideo.toU8

def getUserToken : HandleM ω ServiceReply :=
  answerOnly .youtubeServiceError YoutubeTaskId.getUserToken.toU8

def handleTask (taskIdValue : UInt8) : HandleM ω ServiceReply :=
  match YoutubeTaskId.fromU8 taskIdValue with
  | none => answerOnly .noError taskIdValue
  | some .startAccountRegistration => startAccountRegistration
  | some .isRegistered => isRegistered
  | some .unregister => unregister
  | some .uploadVideo => uploadVideo
  | some .getUserToken => getUserToken

end YoutubeHandler

end BitDemon
