import BitDemon.DwServer.ContentStreaming

set_option autoImplicit false

/-!
# What a request leaves in the tables

The requests of sessions and those over HTTP, and one lemma each for the answer
and the rows after it.
-/

namespace BitDemon

open Machine

def ContentServer.wait (s : ContentServer) (elapsed : Nat) : ContentServer :=
  { s with now := s.now + elapsed }

namespace DwUserContentStreamingService

inductive Request where
  | upload (session : BdSession) (requestData : StreamCreationRequest)
  | finish (session : BdSession) (uploadedFile : UploadedStream)
  | deletion (session : BdSession) (slotId : UInt16)
  | put (authorization : UserFileClaims) (titleNum : UInt32) (streamId : Nat) (body : List UInt8)
  | delete (authorization : UserFileClaims) (titleNum : UInt32) (streamId : Nat)

structure Call where
  -- seconds since the call before it
  elapsed : Nat
  request : Request

variable (service : DwUserContentStreamingService) (sqlite : Sqlite)

def serve (s : ContentServer) : Request → ContentServer
  | .upload session requestData => (exec (service.requestStreamUpload session requestData) s).2
  | .finish session uploadedFile => (exec (finishStreamUpload session uploadedFile) s).2
  | .deletion session slotId => (exec (service.requestStreamDeletion session slotId) s).2
  | .put authorization titleNum streamId body =>
    (exec (service.uploadUserFile authorization titleNum streamId body) s).2
  | .delete authorization titleNum streamId =>
    (exec (service.deleteUserFile sqlite authorization titleNum streamId) s).2

def step (s : ContentServer) (call : Call) : ContentServer :=
  service.serve sqlite (s.wait call.elapsed) call.request

variable {service sqlite}

theorem exec_buildStreamUrl (userId : UInt64) (title : Title) (streamId : Nat)
    (operation : UserFileClaimOperation) (s : ContentServer) :
    ∃ url, exec (service.buildStreamUrl userId title streamId operation) s
      = (.ok url, { s with issued := s.issued ++ [claimsFor userId title streamId operation s.now] }) :=
  ⟨_, rfl⟩

theorem exec_recordUserName {userId : UInt64} (name : String) (s : ContentServer)
    (bound : Sqlite.bindable userId = true) :
    ∃ userInfo, exec (recordUserName userId name) s = (.ok (), { s with userInfo := userInfo }) := by
  rw [recordUserName, if_pos bound]
  exact ⟨_, rfl⟩

theorem inSlot_iff {titleNum : UInt32} {ownerId : UInt64} {slot : UInt16} {u : UserStream} :
    inSlot titleNum ownerId slot u = true
      ↔ u.title = titleNum ∧ u.ownerId = ownerId ∧ u.slot = slot := by
  simp [inSlot, and_assoc]

theorem exec_getSlotCountForUpload (title : Title) {ownerId : UInt64} (slot : UInt16)
    (s : ContentServer) (bound : Sqlite.bindable ownerId = true) :
    exec (getSlotCountForUpload title ownerId slot) s
      = (.ok
          { usedSlots := (s.userStream.filter fun u =>
              u.ownerId == ownerId && u.title == title.toU32).length
            givenSlotIsTaken := (s.userStream.find? (inSlot title.toU32 ownerId slot)).isSome }, s) := by
  rw [getSlotCountForUpload, exec_bind_ok _ (exec_get s), if_pos bound, exec_pure]
  congr 3
  rw [List.any_filter, List.isSome_find?]
  congr 1
  funext u
  simp only [inSlot]
  cases u.ownerId == ownerId <;> cases u.title == title.toU32 <;> simp

theorem exec_createEmptyStream_reopen {title : Title} {ownerId : UInt64} (filename : String)
    {slot : UInt16} (category : UInt16) {s : ContentServer} {existing : UserStream}
    (bound : Sqlite.bindable ownerId = true)
    (taken : s.userStream.find? (inSlot title.toU32 ownerId slot) = some existing) :
    exec (createEmptyStream title ownerId filename slot category) s
      = (.ok existing.id,
          { s with
            userStream := updateWhere (fun u => u.id == existing.id)
              (reopen filename category s.now) s.userStream }) := by
  rw [createEmptyStream, exec_bind_ok _ (exec_get s), if_pos bound, taken]
  rfl

theorem exec_createEmptyStream_insert {title : Title} {ownerId : UInt64} (filename : String)
    {slot : UInt16} (category : UInt16) {s : ContentServer}
    (bound : Sqlite.bindable ownerId = true)
    (free : s.userStream.find? (inSlot title.toU32 ownerId slot) = none) :
    exec (createEmptyStream title ownerId filename slot category) s
      = (.ok (Sqlite.nextRowId (s.userStream.map UserStream.id)),
          { s with
            userStream :=
              s.userStream ++ [emptyStream title ownerId filename slot category s] }) := by
  rw [createEmptyStream, exec_bind_ok _ (exec_get s), if_pos bound, free]
  rfl

-- what the limit counts
def streamsOf (ownerId : UInt64) (titleNum : UInt32) (rows : List UserStream) : List UserStream :=
  rows.filter fun u => u.ownerId == ownerId && u.title == titleNum

def slotRow (user : SessionAuthentication) (slot : UInt16) (rows : List UserStream) :
    Option UserStream :=
  rows.find? (inSlot user.title.toU32 user.userId slot)

/-- The check of the limit: the slot is in use, or one more is free. -/
def HasRoom (user : SessionAuthentication) (slot : UInt16) (rows : List UserStream) : Prop :=
  (slotRow user slot rows).isSome = true
    ∨ (streamsOf user.userId user.title.toU32 rows).length < maxSlotCount

instance (user : SessionAuthentication) (slot : UInt16) (rows : List UserStream) :
    Decidable (HasRoom user slot rows) := inferInstanceAs (Decidable (_ ∨ _))

def WellSized (requestData : StreamCreationRequest) : Prop :=
  requestData.fileSize.toNat ≤ maxUserFileSize
    ∧ requestData.filename.utf8ByteSize ≤ maxFilenameLength

instance (requestData : StreamCreationRequest) : Decidable (WellSized requestData) :=
  inferInstanceAs (Decidable (_ ∧ _))

-- the rows after an upload has opened a stream in the slot
def opened (user : SessionAuthentication) (requestData : StreamCreationRequest)
    (s : ContentServer) : List UserStream :=
  match slotRow user requestData.slot s.userStream with
  | some existing =>
    updateWhere (fun u => u.id == existing.id)
      (reopen requestData.filename requestData.category s.now) s.userStream
  | none =>
    s.userStream ++ [emptyStream user.title user.userId requestData.filename requestData.slot
      requestData.category s]

theorem exec_getSlotCountForUpload_unbound (title : Title) {ownerId : UInt64} (slot : UInt16)
    (s : ContentServer) (unbound : Sqlite.bindable ownerId = false) :
    exec (getSlotCountForUpload title ownerId slot) s = (.error (.panic .unwrapOnError), s) := by
  rw [getSlotCountForUpload, exec_bind_ok _ (exec_get s), unbound]
  rfl

-- the id of the row that an upload opens
def openedId (user : SessionAuthentication) (requestData : StreamCreationRequest)
    (s : ContentServer) : Nat :=
  match slotRow user requestData.slot s.userStream with
  | some existing => existing.id
  | none => Sqlite.nextRowId (s.userStream.map UserStream.id)

theorem exec_createEmptyStream (user : SessionAuthentication) (requestData : StreamCreationRequest)
    (s : ContentServer) (bound : Sqlite.bindable user.userId = true) :
    exec (createEmptyStream user.title user.userId requestData.filename requestData.slot
        requestData.category) s
      = (.ok (openedId user requestData s), { s with userStream := opened user requestData s }) := by
  rw [opened, openedId]
  cases taken : slotRow user requestData.slot s.userStream with
  | some existing => exact exec_createEmptyStream_reopen _ _ bound taken
  | none => exact exec_createEmptyStream_insert _ _ bound taken

theorem upload_cases {session : BdSession} {user : SessionAuthentication}
    (authenticated : session.authentication = some user) (requestData : StreamCreationRequest)
    (s : ContentServer) :
    (WellSized requestData ∧ Sqlite.bindable user.userId = true
        ∧ HasRoom user requestData.slot s.userStream
        ∧ ∃ url userInfo, exec (service.requestStreamUpload session requestData) s
          = (.ok (.ok url),
            { s with
              userStream := opened user requestData s
              userInfo
              issued := s.issued ++
                [claimsFor user.userId user.title (openedId user requestData s) .create s.now] }))
      ∨ (WellSized requestData ∧ Sqlite.bindable user.userId = false
        ∧ exec (service.requestStreamUpload session requestData) s
          = (.error (.panic .unwrapOnError), s))
      ∨ (¬(WellSized requestData ∧ Sqlite.bindable user.userId = true
          ∧ HasRoom user requestData.slot s.userStream)
        ∧ (WellSized requestData → Sqlite.bindable user.userId = true)
        ∧ ∃ error, exec (service.requestStreamUpload session requestData) s
          = (.ok (.error error), s)) := by
  rw [requestStreamUpload]
  by_cases large : maxUserFileSize < requestData.fileSize.toNat
  next =>
    rw [if_pos large]
    have not : ¬WellSized requestData := fun sized => absurd sized.1 (by omega)
    exact .inr (.inr ⟨fun all => not all.1, fun sized => absurd sized not, _, rfl⟩)
  by_cases long : maxFilenameLength < requestData.filename.utf8ByteSize
  next =>
    rw [if_neg large, if_pos long]
    have not : ¬WellSized requestData := fun sized => absurd sized.2 (by omega)
    exact .inr (.inr ⟨fun all => not all.1, fun sized => absurd sized not, _, rfl⟩)
  have sized : WellSized requestData := ⟨by omega, by omega⟩
  rw [if_neg large, if_neg long, authenticated, unwrap_some, pure_bind]
  cases bound : Sqlite.bindable user.userId with
  | false =>
    have panics := exec_getSlotCountForUpload_unbound user.title requestData.slot s bound
    exact .inr (.inl ⟨sized, rfl, exec_bind_error _ panics⟩)
  | true =>
    rw [exec_bind_ok _ (exec_getSlotCountForUpload user.title requestData.slot s bound)]
    dsimp only
    split
    next full =>
      refine .inr (.inr ⟨fun all => ?_, fun _ => rfl, _, rfl⟩)
      rcases all.2.2 with taken | room
      next => exact absurd (full.1.symm.trans taken) (by decide)
      next => exact absurd full.2 (Nat.not_le.mpr room)
    next room =>
      have fits : HasRoom user requestData.slot s.userStream := by
        rw [not_and_or, Bool.not_eq_false, Nat.not_le] at room
        exact room
      rw [exec_bind_ok _ (exec_createEmptyStream user requestData s bound)]
      obtain ⟨userInfo, recorded⟩ := exec_recordUserName user.username
        { s with userStream := opened user requestData s } bound
      rw [exec_bind_ok _ recorded]
      obtain ⟨url, built⟩ := @exec_buildStreamUrl service user.userId user.title
        (openedId user requestData s) .create
        { s with userStream := opened user requestData s, userInfo := userInfo }
      rw [exec_bind_ok _ built]
      exact .inl ⟨sized, rfl, fits, url, userInfo, rfl⟩

theorem exec_upload_unauthenticated {session : BdSession} (stranger : session.authentication = none)
    (requestData : StreamCreationRequest) (s : ContentServer) :
    (exec (service.requestStreamUpload session requestData) s).2 = s
      ∧ ∀ url, (exec (service.requestStreamUpload session requestData) s).1 ≠ .ok (.ok url) := by
  rw [requestStreamUpload, stranger]
  split
  next => exact ⟨rfl, fun _ granted => by cases granted⟩
  next =>
    split
    next => exact ⟨rfl, fun _ granted => by cases granted⟩
    next => exact ⟨rfl, fun _ granted => by cases granted⟩

def tagBinds (tag : StreamTag) : Bool := Sqlite.bindable tag.primary && Sqlite.bindable tag.secondary

-- the rows of the tags that are inserted, up to the first that cannot be bound
def tagRows (streamId : Nat) (tags : List StreamTag) : List UserStreamTag :=
  (tags.takeWhile tagBinds).map fun tag => ⟨streamId, tag⟩

def openRow (user : SessionAuthentication) (slot : UInt16) (rows : List UserStream) :
    Option UserStream :=
  rows.find? fun u => inSlot user.title.toU32 user.userId slot u && u.metadata.isNone

-- the tables after a finished upload has described the row
def described (user : SessionAuthentication) (row : UserStream) (uploadedFile : UploadedStream)
    (s : ContentServer) : ContentServer :=
  { s with
    userStream := updateWhere
      (fun u => named user.title.toU32 row.id u && u.ownerId == user.userId)
      (fun u => { u with metadata := some uploadedFile.metadata }) s.userStream
    userStreamTag := s.userStreamTag ++ tagRows row.id uploadedFile.tags }

theorem exec_addTags (streamId : Nat) (tags : List StreamTag) (s : ContentServer) :
    exec (tags.forM (addTag streamId)) s
      = (if tags.all tagBinds then .ok () else .error (.panic .unwrapOnError),
          { s with userStreamTag := s.userStreamTag ++ tagRows streamId tags }) := by
  induction tags generalizing s with
  | nil => simp [tagRows]
  | cons tag rest ih =>
    have unrolled : (tag :: rest).forM (addTag streamId)
        = (addTag streamId tag >>= fun _ => rest.forM (addTag streamId)) := rfl
    rw [unrolled]
    cases binding : tagBinds tag with
    | true =>
      have added : exec (addTag streamId tag) s
          = (.ok (), { s with userStreamTag := s.userStreamTag ++ [⟨streamId, tag⟩] }) := by
        rw [addTag, ← tagBinds, binding]
        rfl
      rw [exec_bind_ok _ added, ih]
      simp [tagRows, binding]
    | false =>
      have failed : exec (addTag streamId tag) s = (.error (.panic .unwrapOnError), s) := by
        rw [addTag, ← tagBinds, binding]
        rfl
      rw [exec_bind_error _ failed]
      simp [tagRows, binding]

theorem exec_setStreamMetadata_none {user : SessionAuthentication} {uploadedFile : UploadedStream}
    (s : ContentServer) (missing : Sqlite.bindable user.userId = false
      ∨ openRow user uploadedFile.slot s.userStream = none) :
    exec (setStreamMetadata user.title user.userId uploadedFile.slot uploadedFile.metadata
        uploadedFile.tags) s = (.ok none, s) := by
  rw [openRow] at missing
  rw [setStreamMetadata, exec_bind_ok _ (exec_get s)]
  rcases missing with unbound | none
  next =>
    rw [unbound]
    cases (s.userStream.find? fun u => inSlot user.title.toU32 user.userId uploadedFile.slot u
      && u.metadata.isNone) <;> rfl
  next =>
    rw [none]
    rfl

theorem exec_setStreamMetadata_some {user : SessionAuthentication} {uploadedFile : UploadedStream}
    {row : UserStream} (s : ContentServer) (bound : Sqlite.bindable user.userId = true)
    (found : openRow user uploadedFile.slot s.userStream = some row) :
    exec (setStreamMetadata user.title user.userId uploadedFile.slot uploadedFile.metadata
        uploadedFile.tags) s
      = (if uploadedFile.tags.all tagBinds then .ok (some row.id)
          else .error (.panic .unwrapOnError), described user row uploadedFile s) := by
  rw [openRow] at found
  rw [setStreamMetadata, exec_bind_ok _ (exec_get s), found, bound]
  dsimp only [Option.filter]
  rw [if_pos rfl]
  dsimp only
  rw [exec_bind_ok _ (exec_set _ s), exec_bind, exec_addTags]
  cases uploadedFile.tags.all tagBinds <;> rfl

theorem finish_cases {session : BdSession} {user : SessionAuthentication}
    (authenticated : session.authentication = some user) (uploadedFile : UploadedStream)
    (s : ContentServer) :
    (uploadedFile.metadata.length ≤ maxMetadataSize ∧ Sqlite.bindable user.userId = true
        ∧ ∃ row, openRow user uploadedFile.slot s.userStream = some row
          ∧ exec (finishStreamUpload session uploadedFile) s
            = (if uploadedFile.tags.all tagBinds then .ok (.ok (UInt64.ofNat row.id))
                else .error (.panic .unwrapOnError), described user row uploadedFile s))
      ∨ (¬(uploadedFile.metadata.length ≤ maxMetadataSize ∧ Sqlite.bindable user.userId = true
          ∧ (openRow user uploadedFile.slot s.userStream).isSome = true)
        ∧ ∃ error, exec (finishStreamUpload session uploadedFile) s = (.ok (.error error), s)) := by
  rw [finishStreamUpload, authenticated, unwrap_some, pure_bind]
  split
  next large => exact .inr ⟨fun all => absurd all.1 (by omega), _, rfl⟩
  next small =>
    cases bound : Sqlite.bindable user.userId with
    | false =>
      rw [exec_bind_ok _ (exec_setStreamMetadata_none s (.inl bound))]
      exact .inr ⟨by simp, _, rfl⟩
    | true =>
      cases found : openRow user uploadedFile.slot s.userStream with
      | none =>
        rw [exec_bind_ok _ (exec_setStreamMetadata_none s (.inr found))]
        exact .inr ⟨by simp, _, rfl⟩
      | some row =>
        refine .inl ⟨by omega, rfl, row, rfl, ?_⟩
        rw [exec_bind, exec_setStreamMetadata_some s bound found]
        cases uploadedFile.tags.all tagBinds <;> rfl

theorem exec_finish_unauthenticated {session : BdSession} (stranger : session.authentication = none)
    (uploadedFile : UploadedStream) (s : ContentServer) :
    (exec (finishStreamUpload session uploadedFile) s).2 = s
      ∧ ∀ id, (exec (finishStreamUpload session uploadedFile) s).1 ≠ .ok (.ok id) := by
  rw [finishStreamUpload, stranger]
  exact ⟨rfl, fun _ finished => by cases finished⟩

theorem deletion_cases (session : BdSession) (slotId : UInt16) (s : ContentServer) :
    (∃ user row, session.authentication = some user ∧ slotRow user slotId s.userStream = some row
        ∧ service.serve sqlite s (.deletion session slotId)
          = { s with
              issued := s.issued ++ [claimsFor user.userId user.title row.id .delete s.now] })
      ∨ service.serve sqlite s (.deletion session slotId) = s := by
  rw [serve, requestStreamDeletion]
  cases session.authentication with
  | none => exact .inr rfl
  | some user =>
    rw [unwrap_some, pure_bind]
    have looked : exec (getStreamIdForSlot user.title user.userId slotId) s
        = (.ok (((slotRow user slotId s.userStream).filter fun _ =>
            Sqlite.bindable user.userId).map UserStream.id), s) := by
      rw [getStreamIdForSlot, exec_bind_ok _ (exec_get s)]
      rfl
    rw [exec_bind_ok _ looked]
    split
    next streamId found =>
      obtain ⟨row, kept, rfl⟩ := Option.map_eq_some_iff.mp found
      obtain ⟨url, built⟩ := @exec_buildStreamUrl service user.userId user.title row.id .delete s
      rw [exec_bind_ok _ built]
      exact .inl ⟨user, row, rfl, (Option.filter_eq_some_iff.mp kept).1, rfl⟩
    next missing => exact .inr rfl

theorem deletion_rows (session : BdSession) (slotId : UInt16) (s : ContentServer) :
    ∃ issued, service.serve sqlite s (.deletion session slotId) = { s with issued } := by
  rcases @deletion_cases service sqlite session slotId s with ⟨_, _, _, _, did⟩ | same
  next => exact ⟨_, did⟩
  next => exact ⟨s.issued, same⟩

structure Accepts (service : DwUserContentStreamingService) (s : ContentServer)
    (token : UserFileClaims) (titleNum : UInt32) (streamId : Nat)
    (operation : UserFileClaimOperation) : Prop where
  issued : token ∈ s.issued
  live : s.now ≤ token.exp + service.jwt.leeway
  title : token.streamTitle = titleNum
  id : token.streamId = streamId
  operation : token.streamOperation = operation

theorem exec_validateJwt_iff (token : UserFileClaims) (titleNum : UInt32) (streamId : Nat)
    (operation : UserFileClaimOperation) (s : ContentServer) :
    ∃ outcome, exec (service.validateJwt token titleNum streamId operation) s = (.ok outcome, s)
      ∧ (outcome = .ok () ↔ Accepts service s token titleNum streamId operation) := by
  by_cases valid : token ∈ s.issued ∧ s.now ≤ token.exp + service.jwt.leeway
  · have decoded : exec (service.decode token) s = (.ok (some token), s) := by
      rw [decode, exec_bind_ok _ (exec_get s), if_pos valid]
      rfl
    rw [validateJwt, exec_bind_ok _ decoded]
    dsimp only
    split
    next differs =>
      refine ⟨_, rfl, by simp, fun accepts => ?_⟩
      rcases differs with title | id | operation
      · exact absurd accepts.title title
      · exact absurd accepts.id id
      · exact absurd accepts.operation operation
    next same =>
      simp only [not_or, not_not] at same
      exact ⟨_, rfl, fun _ => ⟨valid.1, valid.2, same.1, same.2.1, same.2.2⟩, fun _ => rfl⟩
  · have refused : exec (service.decode token) s = (.ok none, s) := by
      rw [decode, exec_bind_ok _ (exec_get s), if_neg valid]
      rfl
    rw [validateJwt, exec_bind_ok _ refused]
    exact ⟨_, rfl, by simp, fun accepts => absurd ⟨accepts.issued, accepts.live⟩ valid⟩

-- the rows after data has been stored in one
def withData (titleNum : UInt32) (streamId : Nat) (body : List UInt8) (rows : List UserStream) :
    List UserStream :=
  updateWhere (named titleNum streamId) (fun u => { u with data := some body }) rows

theorem exec_setStreamData (title : Title) (streamId : Nat) (body : List UInt8) (s : ContentServer) :
    exec (setStreamData title streamId body) s =
      if s.userStream.any fun u => named title.toU32 streamId u && u.data.isNone then
        (.ok true, { s with userStream := withData title.toU32 streamId body s.userStream })
      else (.ok false, s) := by
  rw [setStreamData, exec_bind_ok _ (exec_get s)]
  split <;> rfl

structure Stores (service : DwUserContentStreamingService) (s : ContentServer)
    (token : UserFileClaims) (titleNum : UInt32) (streamId : Nat) : Prop where
  accepts : Accepts service s token titleNum streamId .create
  known : ∃ title : Title, title.toU32 = titleNum
  pending : (s.userStream.any fun u => named titleNum streamId u && u.data.isNone) = true

theorem put_cases (token : UserFileClaims) (titleNum : UInt32) (streamId : Nat) (body : List UInt8)
    (s : ContentServer) :
    (Stores service s token titleNum streamId
        ∧ exec (service.uploadUserFile token titleNum streamId body) s
          = (.ok (.ok ()), { s with userStream := withData titleNum streamId body s.userStream }))
      ∨ (¬Stores service s token titleNum streamId
        ∧ ∃ status, exec (service.uploadUserFile token titleNum streamId body) s
          = (.ok (.error status), s)) := by
  obtain ⟨outcome, validated, accepted⟩ :=
    @exec_validateJwt_iff service token titleNum streamId .create s
  rw [uploadUserFile, exec_bind_ok _ validated]
  cases outcome with
  | error status =>
    refine .inr ⟨fun stores => ?_, status, rfl⟩
    cases accepted.mpr stores.accepts
  | ok granted =>
    cases known : Title.fromU32 titleNum with
    | none =>
      refine .inr ⟨fun stores => ?_, .badRequest, rfl⟩
      obtain ⟨title, rfl⟩ := stores.known
      rw [Title.fromU32_toU32] at known
      cases known
    | some title =>
      obtain rfl := Title.toU32_of_fromU32 known
      dsimp only
      by_cases pending : (s.userStream.any fun u =>
          named title.toU32 streamId u && u.data.isNone) = true
      next =>
        rw [exec_bind, exec_setStreamData, if_pos pending]
        exact .inl ⟨⟨accepted.mp rfl, ⟨title, rfl⟩, pending⟩, rfl⟩
      next =>
        rw [exec_bind, exec_setStreamData, if_neg pending]
        exact .inr ⟨fun stores => pending stores.pending, .badRequest, rfl⟩

theorem put_rows (token : UserFileClaims) (titleNum : UInt32) (streamId : Nat) (body : List UInt8)
    (s : ContentServer) :
    (Stores service s token titleNum streamId
        ∧ service.serve sqlite s (.put token titleNum streamId body)
          = { s with userStream := withData titleNum streamId body s.userStream })
      ∨ (¬Stores service s token titleNum streamId
        ∧ service.serve sqlite s (.put token titleNum streamId body) = s) := by
  rw [serve]
  rcases put_cases token titleNum streamId body s with ⟨stores, did⟩ | ⟨refused, status, did⟩
  next => exact .inl ⟨stores, by rw [did]⟩
  next => exact .inr ⟨refused, by rw [did]⟩

-- the rows after one has been deleted
def without (titleNum : UInt32) (streamId : Nat) (rows : List UserStream) : List UserStream :=
  rows.filter fun u => !named titleNum streamId u

-- the tables after a stream has been deleted
def deleted (titleNum : UInt32) (streamId : Nat) (s : ContentServer) : ContentServer :=
  { s with
    userStream := without titleNum streamId s.userStream
    userStreamTag := s.userStreamTag.filter fun t =>
      !(s.userStream.filter (named titleNum streamId)).any fun u => u.id == t.streamId }

structure Deletes (service : DwUserContentStreamingService) (sqlite : Sqlite) (s : ContentServer)
    (token : UserFileClaims) (titleNum : UInt32) (streamId : Nat) : Prop where
  accepts : Accepts service s token titleNum streamId .delete
  known : ∃ title : Title, title.toU32 = titleNum
  runs : sqlite.acceptsBareAlias = true

theorem delete_cases (token : UserFileClaims) (titleNum : UInt32) (streamId : Nat)
    (s : ContentServer) :
    (Deletes service sqlite s token titleNum streamId
        ∧ exec (service.deleteUserFile sqlite token titleNum streamId) s
          = (.ok (.ok ()), deleted titleNum streamId s))
      ∨ (¬Deletes service sqlite s token titleNum streamId
        ∧ ∃ status, exec (service.deleteUserFile sqlite token titleNum streamId) s
          = (.ok (.error status), s)) := by
  obtain ⟨outcome, validated, accepted⟩ :=
    @exec_validateJwt_iff service token titleNum streamId .delete s
  rw [deleteUserFile, exec_bind_ok _ validated]
  cases outcome with
  | error status =>
    refine .inr ⟨fun deletes => ?_, status, rfl⟩
    cases accepted.mpr deletes.accepts
  | ok granted =>
    cases known : Title.fromU32 titleNum with
    | none =>
      refine .inr ⟨fun deletes => ?_, .badRequest, rfl⟩
      obtain ⟨title, rfl⟩ := deletes.known
      rw [Title.fromU32_toU32] at known
      cases known
    | some title =>
      obtain rfl := Title.toU32_of_fromU32 known
      dsimp only
      rw [deleteDbStream]
      split
      next runs => exact .inl ⟨⟨accepted.mp rfl, ⟨title, rfl⟩, runs⟩, rfl⟩
      next fails => exact .inr ⟨fun deletes => fails deletes.runs, .badRequest, rfl⟩

theorem delete_rows (token : UserFileClaims) (titleNum : UInt32) (streamId : Nat)
    (s : ContentServer) :
    (Deletes service sqlite s token titleNum streamId
        ∧ service.serve sqlite s (.delete token titleNum streamId) = deleted titleNum streamId s)
      ∨ (¬Deletes service sqlite s token titleNum streamId
        ∧ service.serve sqlite s (.delete token titleNum streamId) = s) := by
  rw [serve]
  rcases delete_cases token titleNum streamId s with ⟨deletes, did⟩ | ⟨refused, status, did⟩
  next => exact .inl ⟨deletes, by rw [did]⟩
  next => exact .inr ⟨refused, by rw [did]⟩

theorem map_updateWhere {α : Type} {column : UserStream → α} {change : UserStream → UserStream}
    (stable : ∀ u, column (change u) = column u) (test : UserStream → Bool)
    (rows : List UserStream) : (updateWhere test change rows).map column = rows.map column := by
  rw [updateWhere, List.map_map]
  refine List.map_congr_left fun u _ => ?_
  dsimp only [Function.comp]
  split
  next => exact stable u
  next => rfl

theorem forall_updateWhere {property : UserStream → Prop} {test : UserStream → Bool}
    {change : UserStream → UserStream} {rows : List UserStream} (others : ∀ u ∈ rows, property u)
    (changed : ∀ u ∈ rows, test u = true → property (change u)) :
    ∀ u ∈ updateWhere test change rows, property u := by
  intro u member
  obtain ⟨old, present, rfl⟩ := List.mem_map.mp member
  split
  next hit => exact changed old present hit
  next miss => exact others old present

end DwUserContentStreamingService

end BitDemon
