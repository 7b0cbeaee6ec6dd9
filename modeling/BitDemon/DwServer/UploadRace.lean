import BitDemon.DwServer.StreamTokens
import BitDemon.Library.Table

set_option autoImplicit false

/-!
# Uploads at the same time

A call of `request_stream_upload` counts the streams of its user and creates one
more under two locks. Other calls come between.
-/

namespace BitDemon

open Machine Runs

namespace DwUserContentStreamingService

inductive UploadPhase where
  -- before `get_slot_count_for_upload`, `create_empty_stream` and `record_user_name`
  | counting
  | creating
  | granting (streamId : Nat)
  deriving DecidableEq

structure UploadCall where
  user : SessionAuthentication
  requestData : StreamCreationRequest
  phase : UploadPhase
  deriving DecidableEq

structure UploadServer where
  content : ContentServer
  -- the calls under way
  calls : Table Nat UploadCall

inductive UploadAction where
  | start (id : Nat) (session : BdSession) (requestData : StreamCreationRequest)
  | advance (id : Nat)
  -- a request that no other comes between
  | serve (call : Call)

def countSlots (user : SessionAuthentication) (requestData : StreamCreationRequest) :
    Fallible ContentServer Bool := do
  let slotCountForUpload ← getSlotCountForUpload user.title user.userId requestData.slot
  pure !(!slotCountForUpload.givenSlotIsTaken && decide (maxSlotCount ≤ slotCountForUpload.usedSlots))

variable (service : DwUserContentStreamingService) (sqlite : Sqlite)

def grantUpload (user : SessionAuthentication) (streamId : Nat) :
    Fallible ContentServer (Answered StreamUrl) := do
  recordUserName user.userId user.username
  let url ← service.buildStreamUrl user.userId user.title streamId .create
  pure (.ok url)

-- the checks that need no database
def admitted (session : BdSession) (requestData : StreamCreationRequest) : Option UploadCall :=
  if maxUserFileSize < requestData.fileSize.toNat then none
  else if maxFilenameLength < requestData.filename.utf8ByteSize then none
  else session.authentication.map fun user => { user, requestData, phase := .counting }

def UploadCall.advance (call : UploadCall) (s : ContentServer) : ContentServer × Option UploadCall :=
  match call.phase with
  | .counting =>
    match exec (countSlots call.user call.requestData) s with
    | (.ok true, t) => (t, some { call with phase := .creating })
    | (_, t) => (t, none)
  | .creating =>
    match exec (createEmptyStream call.user.title call.user.userId call.requestData.filename
        call.requestData.slot call.requestData.category) s with
    | (.ok streamId, t) => (t, some { call with phase := .granting streamId })
    | (.error _, t) => (t, none)
  | .granting streamId => ((exec (service.grantUpload call.user streamId) s).2, none)

namespace UploadServer

def started : UploadServer := { content := .new, calls := ∅ }

def withCall (calls : Table Nat UploadCall) (id : Nat) : Option UploadCall → Table Nat UploadCall
  | some call => calls.put id call
  | none => calls.remove id

def step (t : UploadServer) : UploadAction → UploadServer
  | .start id session requestData =>
    match t.calls.get id with
    | some _ => t
    | none => { t with calls := withCall t.calls id (admitted session requestData) }
  | .advance id =>
    match t.calls.get id with
    | some call =>
      { content := (call.advance service t.content).1
        calls := withCall t.calls id (call.advance service t.content).2 }
    | none => t
  | .serve call => { t with content := service.step sqlite t.content call }

def WithinSlots (t : UploadServer) : Prop :=
  ∀ userId titleNum, (streamsOf userId titleNum t.content.userStream).length ≤ maxSlotCount

/-- When a call creates its stream, the check it has passed would be passed again. -/
def StillRoom (t : UploadServer) (action : UploadAction) : Prop :=
  ∀ id call, action = .advance id → t.calls.get id = some call → call.phase = .creating →
    HasRoom call.user call.requestData.slot t.content.userStream

end UploadServer

variable {service sqlite} {s : ContentServer} {user : SessionAuthentication}
  {requestData : StreamCreationRequest}

theorem exec_countSlots (s : ContentServer) (bound : Sqlite.bindable user.userId = true) :
    exec (countSlots user requestData) s
      = (.ok (decide (HasRoom user requestData.slot s.userStream)), s) := by
  rw [countSlots, exec_bind_ok _ (exec_getSlotCountForUpload user.title requestData.slot s bound),
    exec_pure]
  dsimp only
  congr 2
  rw [Bool.eq_iff_iff]
  simp [HasRoom, slotRow, streamsOf]

theorem exec_countSlots_unbound (s : ContentServer) (unbound : Sqlite.bindable user.userId = false) :
    exec (countSlots user requestData) s = (.error (.panic .unwrapOnError), s) := by
  rw [countSlots, exec_bind_error _ (exec_getSlotCountForUpload_unbound _ _ s unbound)]

theorem requestStreamUpload_of_admitted {session : BdSession} {call : UploadCall}
    (admits : admitted session requestData = some call) :
    call.phase = .counting ∧ call.requestData = requestData
      ∧ service.requestStreamUpload session requestData = (do
        if ← countSlots call.user requestData then
          let streamId ← createEmptyStream call.user.title call.user.userId requestData.filename
            requestData.slot requestData.category
          service.grantUpload call.user streamId
        else
          pure (.error .streamCountExceeded)) := by
  rw [admitted] at admits
  split at admits
  next => cases admits
  next small =>
    split at admits
    next => cases admits
    next short =>
      obtain ⟨user, authenticated, rfl⟩ := Option.map_eq_some_iff.mp admits
      refine ⟨rfl, rfl, ?_⟩
      rw [requestStreamUpload, if_neg small, if_neg short, authenticated, unwrap_some, pure_bind,
        countSlots, bind_assoc]
      refine congrArg _ (funext fun c => ?_)
      rw [pure_bind]
      by_cases full : c.givenSlotIsTaken = false ∧ maxSlotCount ≤ c.usedSlots
      next => simp [full]
      next =>
        have room : (!(!c.givenSlotIsTaken && decide (maxSlotCount ≤ c.usedSlots))) = true := by
          revert full
          cases c.givenSlotIsTaken <;> simp
        rw [if_neg full, if_pos room]
        rfl

theorem content_of_refused {session : BdSession} (refused : admitted session requestData = none) :
    service.serve sqlite s (.upload session requestData) = s := by
  rw [admitted] at refused
  rw [serve, requestStreamUpload]
  split at refused
  next large => rw [if_pos large]; rfl
  next small =>
    split at refused
    next long => rw [if_neg small, if_pos long]; rfl
    next short =>
      have stranger : session.authentication = none := Option.map_eq_none_iff.mp refused
      rw [if_neg small, if_neg short, stranger]
      rfl

theorem advance_counting {call : UploadCall} (counting : call.phase = .counting)
    (s : ContentServer) :
    call.advance service s = (s,
      if Sqlite.bindable call.user.userId = true
          ∧ HasRoom call.user call.requestData.slot s.userStream then
        some { call with phase := .creating }
      else none) := by
  rw [UploadCall.advance, counting]
  dsimp only
  cases bound : Sqlite.bindable call.user.userId with
  | false =>
    rw [exec_countSlots_unbound s bound]
    simp
  | true =>
    rw [exec_countSlots s bound]
    by_cases room : HasRoom call.user call.requestData.slot s.userStream <;> simp [room]

theorem advance_creating {call : UploadCall} (creating : call.phase = .creating)
    (bound : Sqlite.bindable call.user.userId = true) (s : ContentServer) :
    ∃ streamId, exec (createEmptyStream call.user.title call.user.userId call.requestData.filename
          call.requestData.slot call.requestData.category) s
        = (.ok streamId, { s with userStream := opened call.user call.requestData s })
      ∧ call.advance service s = ({ s with userStream := opened call.user call.requestData s },
        some { call with phase := .granting streamId }) := by
  have created := exec_createEmptyStream call.user call.requestData s bound
  refine ⟨_, created, ?_⟩
  rw [UploadCall.advance, creating]
  dsimp only
  rw [created]

theorem advance_granting {call : UploadCall} {streamId : Nat}
    (granting : call.phase = .granting streamId) (s : ContentServer) :
    ∃ userInfo issued, call.advance service s = ({ s with userInfo, issued }, none) := by
  rw [UploadCall.advance, granting]
  dsimp only
  cases bound : Sqlite.bindable call.user.userId with
  | false =>
    have panics : exec (recordUserName call.user.userId call.user.username) s
        = (.error (.panic .unwrapOnError), s) := by
      rw [recordUserName, bound]
      rfl
    rw [grantUpload, exec_bind_error _ panics]
    exact ⟨_, _, rfl⟩
  | true =>
    obtain ⟨userInfo, recorded⟩ := exec_recordUserName call.user.username s bound
    rw [grantUpload, exec_bind_ok _ recorded]
    obtain ⟨url, built⟩ := @exec_buildStreamUrl service call.user.userId call.user.title streamId
      .create { s with userInfo := userInfo }
    rw [exec_bind_ok _ built]
    exact ⟨_, _, rfl⟩

namespace UploadServer

variable {t : UploadServer} {id : Nat} {call : UploadCall}

theorem step_advance (under : t.calls.get id = some call) :
    step service sqlite t (.advance id)
      = { content := (call.advance service t.content).1
          calls := withCall t.calls id (call.advance service t.content).2 } := by
  rw [step, under]

theorem step_advance_none (idle : t.calls.get id = none) :
    step service sqlite t (.advance id) = t := by
  rw [step, idle]

@[simp] theorem get_withCall (calls : Table Nat UploadCall) (id : Nat) (left : Option UploadCall) :
    (withCall calls id left).get id = left := by
  cases left with
  | none => exact Table.get_remove_self calls id
  | some call => exact Table.get_put_self calls id call

theorem get_withCall_of_ne (calls : Table Nat UploadCall) {id other : Nat} (apart : other ≠ id)
    (left : Option UploadCall) : (withCall calls id left).get other = calls.get other := by
  cases left with
  | none => exact Table.get_remove_of_ne calls apart
  | some call => exact Table.get_put_of_ne calls call apart

theorem serial_upload (free : t.calls.get id = none) (session : BdSession)
    (requestData : StreamCreationRequest) :
    (run (step service sqlite) t
        [.start id session requestData, .advance id, .advance id, .advance id]).content
      = service.serve sqlite t.content (.upload session requestData) := by
  have start : step service sqlite t (.start id session requestData)
      = { t with calls := withCall t.calls id (admitted session requestData) } := by
    rw [step, free]
  have done (content : ContentServer) (calls : Table Nat UploadCall) :
      step service sqlite ⟨content, withCall calls id none⟩ (.advance id)
        = ⟨content, withCall calls id none⟩ := step_advance_none (get_withCall calls id none)
  have goes (content : ContentServer) (calls : Table Nat UploadCall) (call : UploadCall) :
      step service sqlite ⟨content, withCall calls id (some call)⟩ (.advance id)
        = { content := (call.advance service content).1
            calls := withCall (withCall calls id (some call)) id (call.advance service content).2 } :=
    step_advance (get_withCall calls id (some call))
  simp only [run_cons, run_nil]
  rw [start]
  cases admits : admitted session requestData with
  | none =>
    rw [content_of_refused admits, done, done, done]
  | some call =>
    obtain ⟨counting, rfl, whole⟩ := @requestStreamUpload_of_admitted service _ _ _ admits
    rw [serve, whole, goes, advance_counting counting]
    cases bound : Sqlite.bindable call.user.userId with
    | false =>
      rw [exec_bind_error _ (exec_countSlots_unbound t.content bound), if_neg (by simp), done, done]
    | true =>
      rw [exec_bind_ok _ (exec_countSlots t.content bound)]
      by_cases room : HasRoom call.user call.requestData.slot t.content.userStream
      next =>
        obtain ⟨streamId, created, advanced⟩ :=
          @advance_creating service { call with phase := .creating } rfl bound t.content
        rw [if_pos ⟨rfl, room⟩, goes, advanced, goes, if_pos (by simpa using room),
          exec_bind_ok _ created]
        rfl
      next =>
        rw [if_neg (by simp [room]), done, done, if_neg (by simp [room])]
        rfl

end UploadServer

def countsFor (userId : UInt64) (titleNum : UInt32) (key : StreamKey) : Bool :=
  key.ownerId == userId && key.title == titleNum

theorem length_streamsOf (userId : UInt64) (titleNum : UInt32) (rows : List UserStream) :
    (streamsOf userId titleNum rows).length
      = (rows.map UserStream.key).countP (countsFor userId titleNum) := by
  rw [streamsOf, ← List.countP_eq_length_filter, List.countP_map]
  rfl

theorem length_streamsOf_reopened (userId : UInt64) (titleNum : UInt32) (existing : UserStream)
    (rows : List UserStream) :
    (streamsOf userId titleNum (updateWhere (fun u => u.id == existing.id)
        (reopen requestData.filename requestData.category s.now) rows)).length
      = (streamsOf userId titleNum rows).length := by
  rw [length_streamsOf, length_streamsOf,
    @map_updateWhere _ UserStream.key (reopen requestData.filename requestData.category s.now)
      fun _ => rfl]

theorem length_streamsOf_added (userId : UInt64) (titleNum : UInt32) (row : UserStream)
    (rows : List UserStream) :
    (streamsOf userId titleNum (rows ++ [row])).length
      = (streamsOf userId titleNum rows).length + if countsFor userId titleNum row.key then 1 else 0 := by
  rw [length_streamsOf, length_streamsOf, List.map_append, List.countP_append, List.map_singleton,
    List.countP_singleton]

theorem within_opened_iff
    (within : ∀ userId titleNum, (streamsOf userId titleNum s.userStream).length ≤ maxSlotCount) :
    (∀ userId titleNum, (streamsOf userId titleNum (opened user requestData s)).length ≤ maxSlotCount)
      ↔ HasRoom user requestData.slot s.userStream := by
  rw [opened, HasRoom]
  cases taken : slotRow user requestData.slot s.userStream with
  | some existing =>
    simp only [length_streamsOf_reopened]
    simpa using within
  | none =>
    simp only [length_streamsOf_added, Option.isSome_none, Bool.false_eq_true, false_or]
    constructor
    · intro after
      have here := after user.userId user.title.toU32
      rw [if_pos (by simp [countsFor, UserStream.key, emptyStream])] at here
      omega
    · intro room userId titleNum
      split
      next same =>
        obtain ⟨rfl, rfl⟩ : user.userId = userId ∧ user.title.toU32 = titleNum := by
          simpa [countsFor, UserStream.key, emptyStream] using same
        omega
      next other => exact within userId titleNum

theorem room_of_opens {request : Request} {key : StreamKey} (opening : opens s request = some key) :
    (streamsOf key.ownerId key.title s.userStream).length < maxSlotCount := by
  cases request with
  | upload session requestData =>
    cases authenticated : session.authentication with
    | none =>
      rw [opens, authenticated] at opening
      cases opening
    | some user =>
      obtain ⟨_, _, room, free, rfl⟩ := (opens_upload_iff authenticated).mp opening
      exact room.resolve_left (by simp [free])
  | finish session uploadedFile => cases opening
  | deletion session slotId => cases opening
  | put token titleNum streamId body => cases opening
  | delete token titleNum streamId => cases opening

theorem within_serve
    (within : ∀ userId titleNum, (streamsOf userId titleNum s.userStream).length ≤ maxSlotCount)
    (request : Request) (userId : UInt64) (titleNum : UInt32) :
    (streamsOf userId titleNum (service.serve sqlite s request).userStream).length
      ≤ maxSlotCount := by
  have effect : _ := @serve_effect service sqlite s request
  have before := within userId titleNum
  rw [length_streamsOf] at before ⊢
  cases opening : opens s request with
  | none =>
    rw [opening] at effect
    exact Nat.le_trans effect.keys.countP_le before
  | some key =>
    rw [opening] at effect
    have keys : (service.serve sqlite s request).userStream.map UserStream.key
      = s.userStream.map UserStream.key ++ [key] := effect.keys_eq
    rw [keys, List.countP_append, List.countP_singleton]
    split
    next same =>
      obtain ⟨rfl, rfl⟩ : key.ownerId = userId ∧ key.title = titleNum := by
        simpa [countsFor] using same
      have room := room_of_opens opening
      rw [length_streamsOf] at room
      omega
    next other => exact before

namespace UploadServer

variable {t : UploadServer} {id : Nat} {call : UploadCall}

def Sound (t : UploadServer) : Prop :=
  ∀ id call, t.calls.get id = some call → call.phase = .creating →
    Sqlite.bindable call.user.userId = true

theorem sound_withCall {content : ContentServer} (sound : Sound t) {left : Option UploadCall}
    (fine : ∀ call, left = some call → call.phase = .creating →
      Sqlite.bindable call.user.userId = true) :
    Sound ⟨content, withCall t.calls id left⟩ := by
  intro other call under creating
  by_cases same : other = id
  next =>
    rw [same, get_withCall] at under
    exact fine call under creating
  next =>
    rw [get_withCall_of_ne _ same] at under
    exact sound other call under creating

theorem sound_step (sound : Sound t) (action : UploadAction) :
    Sound (step service sqlite t action) := by
  cases action with
  | start id session requestData =>
    rw [step]
    split
    next => exact sound
    next =>
      refine sound_withCall sound fun call admits creating => ?_
      rw [(@requestStreamUpload_of_admitted service _ _ _ admits).1] at creating
      cases creating
  | advance id =>
    cases under : t.calls.get id with
    | none => rwa [step_advance_none under]
    | some call =>
      rw [step_advance under]
      refine sound_withCall sound fun next left creating => ?_
      cases phase : call.phase with
      | counting =>
        rw [advance_counting phase] at left
        dsimp only at left
        split at left
        next room =>
          obtain rfl := Option.some.inj left
          exact room.1
        next => cases left
      | creating =>
        obtain ⟨_, _, did⟩ :=
          @advance_creating service _ phase (sound id call under phase) t.content
        rw [did] at left
        obtain rfl := Option.some.inj left
        cases creating
      | granting streamId =>
        obtain ⟨_, _, did⟩ := @advance_granting service _ _ phase t.content
        rw [did] at left
        cases left
  | serve call => exact sound

theorem stillRoom_advance_none (idle : t.calls.get id = none) : StillRoom t (.advance id) := by
  rintro _ call ⟨⟩ under
  rw [idle] at under
  cases under

theorem stillRoom_advance_iff (under : t.calls.get id = some call) :
    StillRoom t (.advance id)
      ↔ (call.phase = .creating → HasRoom call.user call.requestData.slot t.content.userStream) := by
  constructor
  · exact fun still creating => still id call rfl under creating
  · rintro room _ other ⟨⟩ present creating
    obtain rfl := Option.some.inj (under.symm.trans present)
    exact room creating

theorem withinSlots_step_iff (sound : Sound t) (within : WithinSlots t) (action : UploadAction) :
    WithinSlots (step service sqlite t action) ↔ StillRoom t action := by
  cases action with
  | start id session requestData =>
    have same : WithinSlots (step service sqlite t (.start id session requestData)) := by
      rw [step]
      split
      next => exact within
      next => exact within
    exact iff_of_true same nofun
  | advance id =>
    cases under : t.calls.get id with
    | none =>
      rw [step_advance_none under]
      exact iff_of_true within (stillRoom_advance_none under)
    | some call =>
      rw [step_advance under, stillRoom_advance_iff under]
      cases phase : call.phase with
      | counting =>
        rw [advance_counting phase]
        exact iff_of_true within nofun
      | creating =>
        obtain ⟨_, _, did⟩ :=
          @advance_creating service _ phase (sound id call under phase) t.content
        rw [did]
        exact (within_opened_iff within).trans ⟨fun room _ => room, fun still => still rfl⟩
      | granting streamId =>
        obtain ⟨_, _, did⟩ := @advance_granting service _ _ phase t.content
        rw [did]
        exact iff_of_true within nofun
  | serve call =>
    exact iff_of_true (@within_serve service sqlite (t.content.wait call.elapsed) within call.request)
      nofun

/--
No user gets more streams than the limit, however the calls come between each
other, exactly if no call creates a stream on a check that has become wrong.
-/
theorem withinSlots_always_iff (service : DwUserContentStreamingService) (sqlite : Sqlite)
    (actions : List UploadAction) :
    Always (step service sqlite) WithinSlots started actions
      ↔ Meets (step service sqlite) StillRoom started actions := by
  refine @always_iff_meets _ _ (step service sqlite) Sound WithinSlots StillRoom ?_ ?_ _ _ ?_ ?_
  · exact fun t action sound _ _ => sound_step sound action
  · exact fun t action sound within => withinSlots_step_iff sound within action
  · intro id call under
    cases under
  · exact fun userId titleNum => Nat.zero_le _

-- all slots of a user but one are taken, then two sessions of his ask for a slot at once
def race : List UploadAction :=
  ((List.range 127).map fun slot => .serve ⟨0, .upload first { clip with slot := UInt16.ofNat slot }⟩)
    ++ [.start 0 first { clip with slot := 127 }, .start 1 first { clip with slot := 128 },
      .advance 0, .advance 1, .advance 0, .advance 1]

theorem race_exceeds : ¬Always (step server ⟨true⟩) WithinSlots started race := by
  rw [always_iff_prefixes]
  intro always
  have within := always race [] (by simp) 7 Title.t6Pc.toU32
  have count : (streamsOf 7 Title.t6Pc.toU32
      (run (step server ⟨true⟩) started race).content.userStream).length = 129 := by
    decide +kernel
  rw [count] at within
  exact absurd within (by decide)

end UploadServer

end DwUserContentStreamingService

end BitDemon
