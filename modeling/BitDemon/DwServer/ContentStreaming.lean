import BitDemon.DwServer.Sqlite
import BitDemon.Library.Runs
import BitDemon.Lobby.Handlers.ContentStreaming

set_option autoImplicit false

/-!
# The streams of the users

A stream is uploaded and deleted over HTTP. What authorises a request is a token
that names a row by its title and its id.
-/

namespace BitDemon

open Machine

-- ids count up from one and stay far below the integers that SQLite holds
structure UserStream where
  id : Nat
  filename : String
  title : UInt32
  createdAt : Int
  modifiedAt : Int
  ownerId : UInt64
  metadata : Option (List UInt8)
  category : UInt16
  slot : UInt16
  data : Option (List UInt8)
  deriving DecidableEq

structure UserStreamTag where
  streamId : Nat
  tag : StreamTag
  deriving DecidableEq

structure UserInfo where
  userId : UInt64
  name : String
  deriving DecidableEq

inductive UserFileClaimOperation where
  | stream | create | delete
  deriving DecidableEq, Repr

structure UserFileClaims where
  -- expiration time
  exp : Int
  -- issued at
  iat : Int
  -- whom the token refers to
  sub : String
  streamTitle : UInt32
  streamId : Nat
  streamOperation : UserFileClaimOperation
  deriving DecidableEq

/-- The token library: the text of a signed token, and how long `decode` bears with an expired one. -/
structure Jwt where
  encode : UserFileClaims → String
  leeway : Nat

structure ContentServer where
  userStream : List UserStream
  userStreamTag : List UserStreamTag
  userInfo : List UserInfo
  -- what `Utc::now().timestamp()` reads
  now : Int
  -- history: the claims of every token that was signed
  issued : List UserFileClaims
  deriving DecidableEq

def ContentServer.new : ContentServer :=
  { userStream := [], userStreamTag := [], userInfo := [], now := 0, issued := [] }

inductive StatusCode where
  | badRequest | unauthorized | forbidden
  deriving DecidableEq, Repr

structure SlotCountForUpload where
  usedSlots : Nat
  givenSlotIsTaken : Bool
  deriving DecidableEq

structure DwUserContentStreamingService where
  contentServerHostname : String
  contentServerPort : UInt16
  jwt : Jwt

namespace DwUserContentStreamingService

def claimLifetimeInSeconds : Int := 5 * 60

def maxFilenameLength : Nat := 260

def maxUserFileSize : Nat := 50000

def maxMetadataSize : Nat := 50000

def maxSlotCount : Nat := 128

-- `UPDATE user_stream SET .. WHERE ..`
def updateWhere (test : UserStream → Bool) (change : UserStream → UserStream)
    (rows : List UserStream) : List UserStream :=
  rows.map fun u => if test u then change u else u

def getSlotCountForUpload (title : Title) (ownerId : UInt64) (slot : UInt16) :
    Fallible ContentServer SlotCountForUpload := do
  let server ← get
  if Sqlite.bindable ownerId then
    let ofUser := server.userStream.filter fun u => u.ownerId == ownerId && u.title == title.toU32
    pure
      { usedSlots := ofUser.length
        givenSlotIsTaken := ofUser.any fun u => u.slot == slot }
  else
    panicWith .unwrapOnError

-- the columns of the unique index
def inSlot (titleNum : UInt32) (ownerId : UInt64) (slot : UInt16) (u : UserStream) : Bool :=
  u.title == titleNum && u.ownerId == ownerId && u.slot == slot

-- `ON CONFLICT DO UPDATE`: the row keeps its id and its time of creation
def reopen (filename : String) (category : UInt16) (now : Int) (u : UserStream) : UserStream :=
  { u with filename, modifiedAt := now, metadata := none, category, data := none }

def emptyStream (title : Title) (ownerId : UInt64) (filename : String) (slot category : UInt16)
    (server : ContentServer) : UserStream :=
  { id := Sqlite.nextRowId (server.userStream.map UserStream.id), filename, title := title.toU32
    createdAt := server.now, modifiedAt := server.now, ownerId, metadata := none, category, slot
    data := none }

def createEmptyStream (title : Title) (ownerId : UInt64) (filename : String)
    (slot category : UInt16) : Fallible ContentServer Nat := do
  let server ← get
  if Sqlite.bindable ownerId then
    match server.userStream.find? (inSlot title.toU32 ownerId slot) with
    | some existing => do
      set { server with
        userStream := updateWhere (fun u => u.id == existing.id)
          (reopen filename category server.now) server.userStream }
      pure existing.id
    | none => do
      let row := emptyStream title ownerId filename slot category server
      set { server with userStream := server.userStream ++ [row] }
      pure row.id
  else
    panicWith .unwrapOnError

-- what the statements of the HTTP side name a row by
def named (titleNum : UInt32) (streamId : Nat) (u : UserStream) : Bool :=
  u.title == titleNum && u.id == streamId

def setStreamData (title : Title) (streamId : Nat) (data : List UInt8) :
    Fallible ContentServer Bool := do
  let server ← get
  if server.userStream.any fun u => named title.toU32 streamId u && u.data.isNone then
    set { server with
      userStream := updateWhere (named title.toU32 streamId)
        (fun u => { u with data := some data }) server.userStream }
    pure true
  else
    pure false

def addTag (streamId : Nat) (tag : StreamTag) : Fallible ContentServer Unit := do
  if Sqlite.bindable tag.primary && Sqlite.bindable tag.secondary then
    modify fun server =>
      { server with userStreamTag := server.userStreamTag ++ [⟨streamId, tag⟩] }
  else
    panicWith .unwrapOnError

-- a panic at a tag leaves what was done before it: the transaction commits when dropped
def setStreamMetadata (title : Title) (ownerId : UInt64) (slot : UInt16)
    (metadata : List UInt8) (tags : List StreamTag) : Fallible ContentServer (Option Nat) := do
  let server ← get
  let found := server.userStream.find? fun u =>
    inSlot title.toU32 ownerId slot u && u.metadata.isNone
  match found.filter fun _ => Sqlite.bindable ownerId with
  | none => pure none
  | some row => do
    set { server with
      userStream := updateWhere (fun u => named title.toU32 row.id u && u.ownerId == ownerId)
        (fun u => { u with metadata := some metadata }) server.userStream }
    tags.forM (addTag row.id)
    pure (some row.id)

def getStreamIdForSlot (title : Title) (ownerId : UInt64) (slot : UInt16) :
    Fallible ContentServer (Option Nat) := do
  let server ← get
  let found := server.userStream.find? (inSlot title.toU32 ownerId slot)
  pure ((found.filter fun _ => Sqlite.bindable ownerId).map UserStream.id)

-- the tags of a stream go with it; a statement that deletes nothing is no error
def deleteDbStream (sqlite : Sqlite) (title : Title) (streamId : Nat) :
    Fallible ContentServer Bool := do
  if sqlite.acceptsBareAlias then
    modify fun server =>
      let gone := server.userStream.filter (named title.toU32 streamId)
      { server with
        userStream := server.userStream.filter fun u => !named title.toU32 streamId u
        userStreamTag := server.userStreamTag.filter fun t =>
          !gone.any fun u => u.id == t.streamId }
    pure true
  else
    pure false

def recordUserName (userId : UInt64) (name : String) : Fallible ContentServer Unit := do
  if Sqlite.bindable userId then
    modify fun server =>
      { server with
        userInfo := server.userInfo.filter (fun info => info.userId != userId) ++ [⟨userId, name⟩] }
  else
    panicWith .unwrapOnError

def claimsFor (userId : UInt64) (title : Title) (streamId : Nat)
    (streamOperation : UserFileClaimOperation) (now : Int) : UserFileClaims :=
  { exp := now + claimLifetimeInSeconds, iat := now, sub := toString userId
    streamTitle := title.toU32, streamId, streamOperation }

def createJwt (service : DwUserContentStreamingService) (userId : UInt64) (title : Title)
    (streamId : Nat) (streamOperation : UserFileClaimOperation) :
    Fallible ContentServer String := do
  let server ← get
  let claims := claimsFor userId title streamId streamOperation server.now
  set { server with issued := server.issued ++ [claims] }
  pure (service.jwt.encode claims)

def buildStreamUrl (service : DwUserContentStreamingService) (userId : UInt64) (title : Title)
    (streamId : Nat) (operation : UserFileClaimOperation) : Fallible ContentServer StreamUrl := do
  let jwt ← service.createJwt userId title streamId operation
  pure
    { streamId := UInt64.ofNat streamId
      url := "http://" ++ service.contentServerHostname ++ ":"
        ++ toString service.contentServerPort ++ "/content/user/" ++ toString title.toU32 ++ "/"
        ++ toString streamId ++ "?authorization=" ++ jwt
      serverType := 1
      serverIndex := "" }

abbrev Answered (α : Type) := Except ContentStreamingServiceError α

def requestStreamUpload (service : DwUserContentStreamingService) (session : BdSession)
    (requestData : StreamCreationRequest) : Fallible ContentServer (Answered StreamUrl) := do
  if maxUserFileSize < requestData.fileSize.toNat then
    pure (.error .storageSpaceExceeded)
  else if maxFilenameLength < requestData.filename.utf8ByteSize then
    pure (.error .storageSpaceExceeded)
  else
    let authentication ← unwrap session.authentication
    let slotCountForUpload ←
      getSlotCountForUpload authentication.title authentication.userId requestData.slot
    if slotCountForUpload.givenSlotIsTaken = false ∧ maxSlotCount ≤ slotCountForUpload.usedSlots then
      pure (.error .streamCountExceeded)
    else
      let streamId ← createEmptyStream authentication.title authentication.userId
        requestData.filename requestData.slot requestData.category
      recordUserName authentication.userId authentication.username
      let url ← service.buildStreamUrl authentication.userId authentication.title streamId .create
      pure (.ok url)

def finishStreamUpload (session : BdSession) (uploadedFile : UploadedStream) :
    Fallible ContentServer (Answered UInt64) := do
  let authentication ← unwrap session.authentication
  if maxMetadataSize < uploadedFile.metadata.length then
    pure (.error .metaDataTooLarge)
  else
    match ← setStreamMetadata authentication.title authentication.userId uploadedFile.slot
        uploadedFile.metadata uploadedFile.tags with
    | some streamId => pure (.ok (UInt64.ofNat streamId))
    | none => pure (.error .noStreamFound)

def requestStreamDeletion (service : DwUserContentStreamingService) (session : BdSession)
    (slotId : UInt16) : Fallible ContentServer (Answered StreamUrl) := do
  let authentication ← unwrap session.authentication
  match ← getStreamIdForSlot authentication.title authentication.userId slotId with
  | some streamId => do
    let url ← service.buildStreamUrl authentication.userId authentication.title streamId .delete
    pure (.ok url)
  | none => pure (.error .noStreamFound)

-- a token is known by its claims: only what was issued carries the signature
def decode (service : DwUserContentStreamingService) (authorization : UserFileClaims) :
    Fallible ContentServer (Option UserFileClaims) := do
  let server ← get
  if authorization ∈ server.issued ∧ server.now ≤ authorization.exp + service.jwt.leeway then
    pure (some authorization)
  else
    pure none

-- neither `sub` nor the owner of the row is looked at
def validateJwt (service : DwUserContentStreamingService) (authorization : UserFileClaims)
    (titleNum : UInt32) (streamId : Nat) (operation : UserFileClaimOperation) :
    Fallible ContentServer (Except StatusCode Unit) := do
  match ← service.decode authorization with
  | none => pure (.error .unauthorized)
  | some claims =>
    if claims.streamTitle ≠ titleNum ∨ claims.streamId ≠ streamId
        ∨ claims.streamOperation ≠ operation then
      pure (.error .forbidden)
    else
      pure (.ok ())

def uploadUserFile (service : DwUserContentStreamingService) (authorization : UserFileClaims)
    (titleNum : UInt32) (streamId : Nat) (body : List UInt8) :
    Fallible ContentServer (Except StatusCode Unit) := do
  match ← service.validateJwt authorization titleNum streamId .create with
  | .error status => pure (.error status)
  | .ok () =>
    match Title.fromU32 titleNum with
    | none => pure (.error .badRequest)
    | some title =>
      if ← setStreamData title streamId body then
        pure (.ok ())
      else
        pure (.error .badRequest)

def deleteUserFile (service : DwUserContentStreamingService) (sqlite : Sqlite)
    (authorization : UserFileClaims) (titleNum : UInt32) (streamId : Nat) :
    Fallible ContentServer (Except StatusCode Unit) := do
  match ← service.validateJwt authorization titleNum streamId .delete with
  | .error status => pure (.error status)
  | .ok () =>
    match Title.fromU32 titleNum with
    | none => pure (.error .badRequest)
    | some title =>
      if ← deleteDbStream sqlite title streamId then
        pure (.ok ())
      else
        pure (.error .badRequest)

end DwUserContentStreamingService

end BitDemon
