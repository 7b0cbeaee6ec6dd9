import BitDemon.DwServer.StreamRows

set_option autoImplicit false

/-!
# What a token lets its holder change

A token names a row by its id. Were a row ever removed, its id would be given out
again, and what a token may change would hang on who has opened that row last.
-/

namespace BitDemon

open Machine Runs

/-- What no request changes in a row. -/
structure StreamKey where
  id : Nat
  title : UInt32
  ownerId : UInt64
  deriving DecidableEq

def UserStream.key (u : UserStream) : StreamKey := ⟨u.id, u.title, u.ownerId⟩

namespace ContentServer

def keys (s : ContentServer) : List StreamKey := s.userStream.map UserStream.key

end ContentServer

namespace DwUserContentStreamingService

-- the token that a request over HTTP presents
def Request.authorization : Request → Option UserFileClaims
  | .put authorization _ _ _ => some authorization
  | .delete authorization _ _ => some authorization
  | _ => none

variable (service : DwUserContentStreamingService) (sqlite : Sqlite)

def Harmless (s : ContentServer) : Prop :=
  ∀ (call : Call) (token : UserFileClaims) (userId : UInt64),
    call.request.authorization = some token → token.sub = toString userId →
    ∀ u ∈ s.userStream, u ∉ (service.step sqlite s call).userStream → u.ownerId = userId

/-- The token would be taken for a change of the row. -/
structure Commands (now : Int) (token : UserFileClaims) (key : StreamKey) : Prop where
  changes : token.streamOperation ≠ .stream
  title : token.streamTitle = key.title
  id : token.streamId = key.id
  live : now ≤ token.exp + service.jwt.leeway

def opens (s : ContentServer) : Request → Option StreamKey
  | .upload session requestData =>
    match session.authentication with
    | some user =>
      let ofUser := s.userStream.filter fun u =>
        u.ownerId == user.userId && u.title == user.title.toU32
      if requestData.fileSize.toNat ≤ maxUserFileSize
          ∧ requestData.filename.utf8ByteSize ≤ maxFilenameLength
          ∧ Sqlite.bindable user.userId ∧ ofUser.length < maxSlotCount
          ∧ s.userStream.find? (inSlot user.title.toU32 user.userId requestData.slot) = none then
        some ⟨Sqlite.nextRowId (s.userStream.map UserStream.id), user.title.toU32, user.userId⟩
      else none
    | none => none
  | _ => none

/-- A row that is added does not get an id that a live token of another user still names. -/
def Unclaimed (s : ContentServer) (call : Call) : Prop :=
  ∀ key, opens s call.request = some key → ∀ token ∈ s.issued,
    service.Commands (s.now + call.elapsed) token key → token.sub = toString key.ownerId

structure Granted (token : UserFileClaims) (key : StreamKey) : Prop where
  sub : token.sub = toString key.ownerId
  title : token.streamTitle = key.title
  id : token.streamId = key.id

structure Settled (s t : ContentServer) : Prop where
  now : t.now = s.now
  keys : List.Sublist t.keys s.keys
  removes : sqlite.acceptsBareAlias = false → t.keys = s.keys
  issued : t.issued = s.issued
    ∨ ∃ key ∈ t.keys, ∃ token, Granted token key ∧ t.issued = s.issued ++ [token]

structure Opened (s t : ContentServer) (key : StreamKey) : Prop where
  now : t.now = s.now
  fresh : key.id = Sqlite.nextRowId (s.userStream.map UserStream.id)
  row : ∃ row, t.userStream = s.userStream ++ [row] ∧ row.key = key ∧ row.data = none
  known : ∃ title : Title, title.toU32 = key.title
  issued : ∃ token, Granted token key ∧ t.issued = s.issued ++ [token]

def Untouched (s t : ContentServer) : Prop := t.keys = s.keys ∧ t.issued = s.issued ∧ t.now = s.now

variable {service sqlite}

theorem Untouched.settled {s t : ContentServer} (untouched : Untouched s t) :
    Settled sqlite s t := by
  obtain ⟨keys, issued, now⟩ := untouched
  exact ⟨now, by rw [keys], fun _ => keys, .inl issued⟩

theorem untouched_refl (s : ContentServer) : Untouched s s := ⟨rfl, rfl, rfl⟩

theorem untouched_updateWhere {change : UserStream → UserStream}
    (stable : ∀ u, (change u).key = u.key) (test : UserStream → Bool) (s : ContentServer) :
    Untouched s { s with userStream := updateWhere test change s.userStream } :=
  ⟨@map_updateWhere _ UserStream.key _ stable test s.userStream, rfl, rfl⟩

theorem mem_keys_of_find? {s : ContentServer} {test : UserStream → Bool} {u : UserStream}
    (found : s.userStream.find? test = some u) : u.key ∈ s.keys :=
  List.mem_map_of_mem (List.mem_of_find?_eq_some found)

theorem granted_claimsFor (userId : UInt64) (title : Title) (streamId : Nat)
    (operation : UserFileClaimOperation) (now : Int) :
    Granted (claimsFor userId title streamId operation now) ⟨streamId, title.toU32, userId⟩ :=
  ⟨rfl, rfl, rfl⟩

theorem settled_of_grant {s t r : ContentServer} {key : StreamKey} {token : UserFileClaims}
    (untouched : Untouched s t) (present : key ∈ s.keys) (granted : Granted token key)
    (rows : r.keys = t.keys) (issued : r.issued = t.issued ++ [token]) (now : r.now = t.now) :
    Settled sqlite s r := by
  obtain ⟨keysT, issuedT, nowT⟩ := untouched
  have same : r.keys = s.keys := rows.trans keysT
  constructor
  · exact now.trans nowT
  · rw [same]
  · exact fun _ => same
  · exact .inr ⟨key, by rw [same]; exact present, token, granted, by rw [issued, issuedT]⟩

theorem key_of_inSlot {rows : List UserStream} {titleNum : UInt32} {ownerId : UInt64}
    {slot : UInt16} {u : UserStream} (found : rows.find? (inSlot titleNum ownerId slot) = some u) :
    u.key = ⟨u.id, titleNum, ownerId⟩ := by
  obtain ⟨sameTitle, sameOwner, _⟩ := inSlot_iff.mp (List.find?_some found)
  rw [UserStream.key, sameTitle, sameOwner]

theorem opens_upload_iff {session : BdSession} {user : SessionAuthentication}
    {requestData : StreamCreationRequest} {s : ContentServer} {key : StreamKey}
    (authenticated : session.authentication = some user) :
    opens s (.upload session requestData) = some key
      ↔ WellSized requestData ∧ Sqlite.bindable user.userId = true
        ∧ HasRoom user requestData.slot s.userStream
        ∧ slotRow user requestData.slot s.userStream = none
        ∧ key = ⟨Sqlite.nextRowId (s.userStream.map UserStream.id), user.title.toU32,
          user.userId⟩ := by
  rw [opens, authenticated]
  dsimp only
  constructor
  · intro opening
    split at opening
    next fits =>
      obtain ⟨small, short, bound, room, free⟩ := fits
      exact ⟨⟨small, short⟩, bound, .inr room, free, (Option.some.inj opening).symm⟩
    next => cases opening
  · rintro ⟨⟨small, short⟩, bound, room, free, rfl⟩
    have fewer := room.resolve_left (by simp [free])
    rw [if_pos ⟨small, short, bound, fewer, free⟩]

theorem untouched_opened {user : SessionAuthentication} {requestData : StreamCreationRequest}
    {s : ContentServer} {existing : UserStream}
    (taken : slotRow user requestData.slot s.userStream = some existing) :
    Untouched s { s with userStream := opened user requestData s } := by
  have stable (u : UserStream) :
      (reopen requestData.filename requestData.category s.now u).key = u.key := rfl
  rw [opened, taken]
  exact untouched_updateWhere stable _ s

theorem settled_upload {session : BdSession} {requestData : StreamCreationRequest}
    {s : ContentServer} (closed : opens s (.upload session requestData) = none) :
    Settled sqlite s (service.serve sqlite s (.upload session requestData)) := by
  cases authenticated : session.authentication with
  | none =>
    rw [serve, (exec_upload_unauthenticated authenticated requestData s).1]
    exact (untouched_refl s).settled
  | some user =>
    rcases @upload_cases service _ _ authenticated requestData s with
      ⟨sized, bound, room, _, userInfo, did⟩ | ⟨_, _, did⟩ | ⟨_, _, _, did⟩
    · cases taken : slotRow user requestData.slot s.userStream with
      | none =>
        have opening := (opens_upload_iff authenticated).mpr ⟨sized, bound, room, taken, rfl⟩
        cases closed.symm.trans opening
      | some existing =>
        have id : openedId user requestData s = existing.id := by rw [openedId, taken]
        rw [serve, did, id]
        exact settled_of_grant (untouched_opened taken)
          (key_of_inSlot taken ▸ mem_keys_of_find? taken)
          (granted_claimsFor user.userId user.title existing.id .create s.now) rfl rfl rfl
    · rw [serve, did]
      exact (untouched_refl s).settled
    · rw [serve, did]
      exact (untouched_refl s).settled

theorem opened_upload {session : BdSession} {requestData : StreamCreationRequest}
    {s : ContentServer} {key : StreamKey}
    (opening : opens s (.upload session requestData) = some key) :
    Opened s (service.serve sqlite s (.upload session requestData)) key := by
  cases authenticated : session.authentication with
  | none =>
    rw [opens, authenticated] at opening
    cases opening
  | some user =>
    obtain ⟨sized, bound, room, free, rfl⟩ := (opens_upload_iff authenticated).mp opening
    rcases @upload_cases service _ _ authenticated requestData s with
      ⟨_, _, _, _, userInfo, did⟩ | ⟨_, unbound, _⟩ | ⟨refused, _⟩
    · have id : openedId user requestData s = Sqlite.nextRowId (s.userStream.map UserStream.id) := by
        rw [openedId, free]
      have rows : opened user requestData s = s.userStream ++
          [emptyStream user.title user.userId requestData.filename requestData.slot
            requestData.category s] := by rw [opened, free]
      rw [serve, did, id, rows]
      constructor
      · rfl
      · rfl
      · exact ⟨_, rfl, rfl, rfl⟩
      · exact ⟨user.title, rfl⟩
      · exact ⟨_, granted_claimsFor _ _ _ _ _, rfl⟩
    · cases bound.symm.trans unbound
    · exact absurd ⟨sized, bound, room⟩ refused

theorem upload_effect (session : BdSession) (requestData : StreamCreationRequest)
    (s : ContentServer) :
    match opens s (.upload session requestData) with
    | none => Settled sqlite s (service.serve sqlite s (.upload session requestData))
    | some key => Opened s (service.serve sqlite s (.upload session requestData)) key := by
  cases opening : opens s (.upload session requestData) with
  | none => exact settled_upload opening
  | some key => exact opened_upload opening

theorem finish_effect (session : BdSession) (uploadedFile : UploadedStream) (s : ContentServer) :
    Untouched s (service.serve sqlite s (.finish session uploadedFile)) := by
  rw [serve]
  cases authenticated : session.authentication with
  | none =>
    rw [(exec_finish_unauthenticated authenticated uploadedFile s).1]
    exact untouched_refl s
  | some user =>
    rcases finish_cases authenticated uploadedFile s with ⟨_, _, row, _, did⟩ | ⟨_, _, did⟩
    · have stable (u : UserStream) :
          UserStream.key { u with metadata := some uploadedFile.metadata } = u.key := rfl
      rw [did]
      exact ⟨@map_updateWhere _ UserStream.key _ stable _ _, rfl, rfl⟩
    · rw [did]
      exact untouched_refl s

theorem deletion_effect (session : BdSession) (slotId : UInt16) (s : ContentServer) :
    Settled sqlite s (service.serve sqlite s (.deletion session slotId)) := by
  rcases @deletion_cases service sqlite session slotId s with ⟨user, row, _, found, did⟩ | same
  · rw [did]
    exact settled_of_grant (untouched_refl s) (key_of_inSlot found ▸ mem_keys_of_find? found)
      (granted_claimsFor user.userId user.title row.id .delete s.now) rfl rfl rfl
  · rw [same]
    exact (untouched_refl s).settled

theorem put_effect (token : UserFileClaims) (titleNum : UInt32) (streamId : Nat)
    (body : List UInt8) (s : ContentServer) :
    Untouched s (service.serve sqlite s (.put token titleNum streamId body)) := by
  rcases @put_rows service sqlite token titleNum streamId body s with ⟨_, changed⟩ | ⟨_, same⟩
  · rw [changed]
    exact untouched_updateWhere (fun u => (rfl : UserStream.key { u with data := some body } = u.key))
      _ s
  · rw [same]
    exact untouched_refl s

theorem delete_effect (token : UserFileClaims) (titleNum : UInt32) (streamId : Nat)
    (s : ContentServer) :
    Settled sqlite s (service.serve sqlite s (.delete token titleNum streamId)) := by
  rcases @delete_rows service sqlite token titleNum streamId s with ⟨deletes, changed⟩ | ⟨_, same⟩
  · rw [changed]
    constructor
    · rfl
    · exact List.Sublist.map _ List.filter_sublist
    · intro fails
      rw [deletes.runs] at fails
      cases fails
    · exact .inl rfl
  · rw [same]
    exact (untouched_refl s).settled

theorem serve_effect (s : ContentServer) (request : Request) :
    match opens s request with
    | none => Settled sqlite s (service.serve sqlite s request)
    | some key => Opened s (service.serve sqlite s request) key := by
  cases request with
  | upload session requestData => exact upload_effect session requestData s
  | finish session uploadedFile => exact (finish_effect session uploadedFile s).settled
  | deletion session slotId => exact deletion_effect session slotId s
  | put token titleNum streamId body => exact (put_effect token titleNum streamId body s).settled
  | delete token titleNum streamId => exact delete_effect token titleNum streamId s

structure Sound (service : DwUserContentStreamingService) (sqlite : Sqlite) (s : ContentServer) :
    Prop where
  unique : (s.keys.map StreamKey.id).Nodup
  apart : ∀ token ∈ s.issued, ∀ key ∈ s.keys, service.Commands s.now token key →
    token.sub = toString key.ownerId
  subject : ∀ token ∈ s.issued, ∃ userId : UInt64, token.sub = toString userId
  -- without removals a token always names a row
  kept : sqlite.acceptsBareAlias = false → ∀ token ∈ s.issued, ∃ key ∈ s.keys, key.id = token.streamId

theorem toString_inj {a b : UInt64} (same : toString a = toString b) : a = b := by
  have texts : a.toNat.repr.toList = b.toNat.repr.toList := congrArg String.toList same
  rw [Nat.toList_repr, Nat.toList_repr] at texts
  have values := congrArg (fun text => Nat.ofDigitChars 10 text 0) texts
  apply UInt64.toNat_inj.mp
  simpa [Nat.ofDigitChars_ten_toDigits] using values

theorem Commands.earlier {early late : Int} {token : UserFileClaims} {key : StreamKey}
    (commands : service.Commands late token key) (before : early ≤ late) :
    service.Commands early token key :=
  ⟨commands.changes, commands.title, commands.id, Int.le_trans before commands.live⟩

theorem Sound.wait {s : ContentServer} (sound : Sound service sqlite s) (elapsed : Nat) :
    Sound service sqlite (s.wait elapsed) := by
  constructor
  · exact sound.unique
  · intro token issued key present commands
    have before : s.now ≤ (s.wait elapsed).now := Int.le_add_of_nonneg_right (Int.natCast_nonneg _)
    exact sound.apart token issued key present (commands.earlier before)
  · exact sound.subject
  · exact sound.kept

theorem sound_new : Sound service sqlite .new := by
  constructor <;> simp [ContentServer.new, ContentServer.keys]

theorem apart_granted {s : ContentServer} {key other : StreamKey} {token : UserFileClaims}
    {now : Int} (unique : (s.keys.map StreamKey.id).Nodup) (present : key ∈ s.keys)
    (granted : Granted token key) (member : other ∈ s.keys)
    (commands : service.Commands now token other) : token.sub = toString other.ownerId := by
  have sameId : other.id = key.id := commands.id.symm.trans granted.id
  have same : other = key := List.inj_on_of_nodup_map unique member present sameId
  rw [same]
  exact granted.sub

theorem sound_granted {t : ContentServer} {issued : List UserFileClaims} {key : StreamKey}
    {token : UserFileClaims} (unique : (t.keys.map StreamKey.id).Nodup)
    (apart : ∀ token ∈ issued, ∀ key ∈ t.keys, service.Commands t.now token key →
      token.sub = toString key.ownerId)
    (subject : ∀ token ∈ issued, ∃ userId : UInt64, token.sub = toString userId)
    (kept : sqlite.acceptsBareAlias = false → ∀ token ∈ issued,
      ∃ key ∈ t.keys, key.id = token.streamId)
    (present : key ∈ t.keys) (granted : Granted token key) (more : t.issued = issued ++ [token]) :
    Sound service sqlite t := by
  have issuedCases {other : UserFileClaims} (member : other ∈ t.issued) :
      other ∈ issued ∨ other = token := by
    rw [more] at member
    exact (List.mem_append.mp member).imp_right List.mem_singleton.mp
  constructor
  · exact unique
  · intro other member row stored commands
    rcases issuedCases member with before | rfl
    · exact apart other before row stored commands
    · exact apart_granted unique present granted stored commands
  · intro other member
    rcases issuedCases member with before | rfl
    · exact subject other before
    · exact ⟨key.ownerId, granted.sub⟩
  · intro fails other member
    rcases issuedCases member with before | rfl
    · exact kept fails other before
    · exact ⟨key, present, granted.id.symm⟩

theorem sound_settled {s t : ContentServer} (sound : Sound service sqlite s)
    (settled : Settled sqlite s t) : Sound service sqlite t := by
  have unique : (t.keys.map StreamKey.id).Nodup :=
    sound.unique.sublist (settled.keys.map StreamKey.id)
  have older : ∀ token ∈ s.issued, ∀ key ∈ t.keys, service.Commands t.now token key →
      token.sub = toString key.ownerId := by
    intro token issued key present commands
    rw [settled.now] at commands
    exact sound.apart token issued key (settled.keys.subset present) commands
  have keptOlder : sqlite.acceptsBareAlias = false → ∀ token ∈ s.issued,
      ∃ key ∈ t.keys, key.id = token.streamId := by
    intro fails token issued
    rw [settled.removes fails]
    exact sound.kept fails token issued
  rcases settled.issued with same | ⟨key, present, token, granted, more⟩
  · exact ⟨unique, same ▸ older, same ▸ sound.subject, same ▸ keptOlder⟩
  · exact sound_granted unique older sound.subject keptOlder present granted more

theorem Opened.keys_eq {s t : ContentServer} {key : StreamKey} (opened : Opened s t key) :
    t.keys = s.keys ++ [key] := by
  obtain ⟨row, rows, rfl, _⟩ := opened.row
  rw [ContentServer.keys, rows]
  simp [ContentServer.keys]

theorem keys_id (s : ContentServer) :
    s.keys.map StreamKey.id = s.userStream.map UserStream.id := by
  rw [ContentServer.keys, List.map_map]
  rfl

theorem Opened.id_unused {s t : ContentServer} {key : StreamKey} (opened : Opened s t key)
    {other : StreamKey} (present : other ∈ s.keys) : other.id < key.id := by
  rw [opened.fresh, ← keys_id]
  exact Sqlite.lt_nextRowId (List.mem_map_of_mem present)

theorem Sound.unnamed {s t : ContentServer} {key : StreamKey} {token : UserFileClaims}
    (sound : Sound service sqlite s) (refuses : sqlite.acceptsBareAlias = false)
    (opened : Opened s t key) (issued : token ∈ s.issued) : token.streamId ≠ key.id := by
  obtain ⟨other, member, sameId⟩ := sound.kept refuses token issued
  have smaller := opened.id_unused member
  omega

theorem sound_opened {s t : ContentServer} {key : StreamKey} (sound : Sound service sqlite s)
    (opened : Opened s t key)
    (unclaimed : ∀ token ∈ s.issued, service.Commands s.now token key →
      token.sub = toString key.ownerId) : Sound service sqlite t := by
  have keys := opened.keys_eq
  have unique : (t.keys.map StreamKey.id).Nodup := by
    rw [keys, List.map_append]
    refine List.Nodup.append sound.unique (List.nodup_singleton _) ?_
    intro id before new
    obtain ⟨other, present, rfl⟩ := List.mem_map.mp before
    have smaller := opened.id_unused present
    have same : other.id = key.id := List.mem_singleton.mp new
    omega
  have here : key ∈ t.keys := by simp [keys]
  obtain ⟨token, granted, more⟩ := opened.issued
  refine sound_granted unique ?_ sound.subject ?_ here granted more
  · intro other before row member commands
    rw [opened.now] at commands
    rw [keys] at member
    rcases List.mem_append.mp member with older | newest
    · exact sound.apart other before row older commands
    · obtain rfl := List.mem_singleton.mp newest
      exact unclaimed other before commands
  · intro fails other before
    obtain ⟨row, present, sameId⟩ := sound.kept fails other before
    exact ⟨row, by simp [keys, present], sameId⟩

theorem sound_step {s : ContentServer} {call : Call} (sound : Sound service sqlite s)
    (unclaimed : service.Unclaimed s call) : Sound service sqlite (service.step sqlite s call) := by
  have waited := sound.wait call.elapsed
  have effect : _ := @serve_effect service sqlite (s.wait call.elapsed) call.request
  rw [step]
  cases opening : opens (s.wait call.elapsed) call.request with
  | none =>
    rw [opening] at effect
    exact sound_settled waited effect
  | some key =>
    rw [opening] at effect
    exact sound_opened waited effect (unclaimed key opening)

theorem named_iff {titleNum : UInt32} {streamId : Nat} {u : UserStream} :
    named titleNum streamId u = true ↔ u.key.title = titleNum ∧ u.key.id = streamId := by
  simp [named, UserStream.key]

theorem named_of_not_mem_withData {titleNum : UInt32} {streamId : Nat} {body : List UInt8}
    {rows : List UserStream} {u : UserStream} (present : u ∈ rows)
    (changed : u ∉ withData titleNum streamId body rows) : named titleNum streamId u = true := by
  by_contra other
  apply changed
  refine List.mem_map.mpr ⟨u, present, ?_⟩
  rw [if_neg other]

theorem not_mem_withData {titleNum : UInt32} {streamId : Nat} (body : List UInt8)
    (rows : List UserStream) {u : UserStream} (names : named titleNum streamId u = true)
    (pending : u.data = none) : u ∉ withData titleNum streamId body rows := by
  intro member
  obtain ⟨v, _, same⟩ := List.mem_map.mp member
  split at same
  next stored =>
    rw [← same] at pending
    cases pending
  next other =>
    rw [same] at other
    exact other names

theorem named_of_not_mem_without {titleNum : UInt32} {streamId : Nat} {rows : List UserStream}
    {u : UserStream} (present : u ∈ rows) (gone : u ∉ without titleNum streamId rows) :
    named titleNum streamId u = true := by
  by_contra other
  exact gone (List.mem_filter.mpr ⟨present, by simpa using other⟩)

theorem not_mem_without {titleNum : UInt32} {streamId : Nat} (rows : List UserStream)
    {u : UserStream} (names : named titleNum streamId u = true) :
    u ∉ without titleNum streamId rows := by
  intro member
  have kept := (List.mem_filter.mp member).2
  simp [names] at kept

theorem Accepts.commands {s : ContentServer} {token : UserFileClaims} {titleNum : UInt32}
    {streamId : Nat} {operation : UserFileClaimOperation} {key : StreamKey}
    (accepts : Accepts service s token titleNum streamId operation) (changes : operation ≠ .stream)
    (title : key.title = titleNum) (id : key.id = streamId) :
    service.Commands s.now token key := by
  constructor
  · rw [accepts.operation]
    exact changes
  · rw [accepts.title, title]
  · rw [accepts.id, id]
  · exact accepts.live

theorem commands_of_changed {s : ContentServer} {request : Request} {token : UserFileClaims}
    {u : UserStream} (presents : request.authorization = some token) (present : u ∈ s.userStream)
    (changed : u ∉ (service.serve sqlite s request).userStream) :
    token ∈ s.issued ∧ service.Commands s.now token u.key := by
  cases request with
  | upload session requestData => cases presents
  | finish session uploadedFile => cases presents
  | deletion session slotId => cases presents
  | put authorization titleNum streamId body =>
    obtain rfl := Option.some.inj presents
    rcases @put_rows service sqlite authorization titleNum streamId body s with
      ⟨⟨accepts, _, _⟩, rows⟩ | ⟨_, same⟩
    · rw [rows] at changed
      obtain ⟨title, id⟩ := named_iff.mp (named_of_not_mem_withData present changed)
      exact ⟨accepts.issued, accepts.commands (by simp) title id⟩
    · rw [same] at changed
      exact absurd present changed
  | delete authorization titleNum streamId =>
    obtain rfl := Option.some.inj presents
    rcases @delete_rows service sqlite authorization titleNum streamId s with
      ⟨⟨accepts, _, _⟩, rows⟩ | ⟨_, same⟩
    · rw [rows] at changed
      obtain ⟨title, id⟩ := named_iff.mp (named_of_not_mem_without present changed)
      exact ⟨accepts.issued, accepts.commands (by simp) title id⟩
    · rw [same] at changed
      exact absurd present changed

theorem Sound.harmless {s : ContentServer} (sound : Sound service sqlite s) :
    service.Harmless sqlite s := by
  intro call token userId presents subject u present changed
  obtain ⟨issued, commands⟩ :=
    @commands_of_changed service sqlite (s.wait call.elapsed) _ _ _ presents present changed
  have before : s.now ≤ (s.wait call.elapsed).now := Int.le_add_of_nonneg_right (Int.natCast_nonneg _)
  have owner := sound.apart token issued u.key (List.mem_map_of_mem present)
    (commands.earlier before)
  exact toString_inj (owner.symm.trans subject)

theorem exists_change_of_opened {s t : ContentServer} {key : StreamKey}
    {token : UserFileClaims} (sound : Sound service sqlite s) (opened : Opened s t key)
    (issued : token ∈ s.issued) (commands : service.Commands s.now token key) :
    ∃ call : Call, call.request.authorization = some token
      ∧ ∃ u ∈ t.userStream, u ∉ (service.step sqlite t call).userStream ∧ u.ownerId = key.ownerId := by
  obtain ⟨row, rows, rfl, pending⟩ := opened.row
  obtain ⟨title, known⟩ := opened.known
  obtain ⟨_, _, more⟩ := opened.issued
  have present : row ∈ t.userStream := by simp [rows]
  have names : named title.toU32 row.key.id row = true := named_iff.mpr ⟨known.symm, rfl⟩
  have accepts (operation : UserFileClaimOperation) (grants : token.streamOperation = operation) :
      Accepts service (t.wait 0) token title.toU32 row.key.id operation := by
    constructor
    · change token ∈ t.issued
      simp [more, issued]
    · have live := commands.live
      rw [← opened.now] at live
      simpa [ContentServer.wait] using live
    · rw [commands.title, known]
    · exact commands.id
    · exact grants
  cases grants : token.streamOperation with
  | stream => exact absurd grants commands.changes
  | create =>
    refine ⟨⟨0, .put token title.toU32 row.key.id []⟩, rfl, row, present, ?_, rfl⟩
    have empty : ((t.wait 0).userStream.any fun u =>
        named title.toU32 row.key.id u && u.data.isNone) = true :=
      List.any_eq_true.mpr ⟨row, present, by simp [names, pending]⟩
    rcases @put_rows service sqlite token title.toU32 row.key.id [] (t.wait 0) with
      ⟨_, did⟩ | ⟨idle, _⟩
    · rw [step, did]
      exact not_mem_withData [] _ names pending
    · exact absurd ⟨accepts .create grants, ⟨title, rfl⟩, empty⟩ idle
  | delete =>
    refine ⟨⟨0, .delete token title.toU32 row.key.id⟩, rfl, row, present, ?_, rfl⟩
    cases runs : sqlite.acceptsBareAlias with
    | true =>
      rcases @delete_rows service sqlite token title.toU32 row.key.id (t.wait 0) with
        ⟨_, did⟩ | ⟨idle, _⟩
      · rw [step, did]
        exact not_mem_without _ names
      · exact absurd ⟨accepts .delete grants, ⟨title, rfl⟩, runs⟩ idle
    | false => exact absurd commands.id (sound.unnamed runs opened issued)

theorem harmless_step_iff {s : ContentServer} (sound : Sound service sqlite s) (call : Call) :
    service.Harmless sqlite (service.step sqlite s call) ↔ service.Unclaimed s call := by
  constructor
  · intro harmless key opening token issued commands
    have waited := sound.wait call.elapsed
    have effect : _ := @serve_effect service sqlite (s.wait call.elapsed) call.request
    have opens : opens (s.wait call.elapsed) call.request = some key := opening
    rw [opens] at effect
    obtain ⟨next, presents, u, present, changed, owner⟩ :=
      exists_change_of_opened waited effect issued commands
    obtain ⟨userId, subject⟩ := sound.subject token issued
    have same := harmless next token userId presents subject u present changed
    rw [subject, ← owner, same]
  · intro unclaimed
    exact (sound_step sound unclaimed).harmless

/--
No url ever changes a stream of another user exactly if no new stream is given
an id that a live url of another user still names.
-/
theorem harmless_always_iff (service : DwUserContentStreamingService) (sqlite : Sqlite)
    (calls : List Call) :
    Always (service.step sqlite) (service.Harmless sqlite) .new calls
      ↔ Meets (service.step sqlite) service.Unclaimed .new calls := by
  refine @always_iff_meets _ _ (service.step sqlite) (Sound service sqlite)
    (service.Harmless sqlite) service.Unclaimed ?_ ?_ _ _ sound_new sound_new.harmless
  · intro s call sound _ unclaimed
    exact sound_step sound unclaimed
  · intro s call sound _
    exact harmless_step_iff sound call

theorem Sound.unclaimed {s : ContentServer} (sound : Sound service sqlite s)
    (refuses : sqlite.acceptsBareAlias = false) (call : Call) : service.Unclaimed s call := by
  intro key opening token issued commands
  have effect : _ := @serve_effect service sqlite (s.wait call.elapsed) call.request
  have opens : opens (s.wait call.elapsed) call.request = some key := opening
  rw [opens] at effect
  exact absurd commands.id ((sound.wait call.elapsed).unnamed refuses effect issued)

/-- With an SQLite that refuses the deletion no url ever changes a stream of another user. -/
theorem harmless_always (service : DwUserContentStreamingService) (sqlite : Sqlite)
    (refuses : sqlite.acceptsBareAlias = false) (calls : List Call) :
    Always (service.step sqlite) (service.Harmless sqlite) .new calls := by
  rw [harmless_always_iff]
  have keeps (s : ContentServer) (call : Call) (sound : Sound service sqlite s) :
      Sound service sqlite (service.step sqlite s call) :=
    sound_step sound (sound.unclaimed refuses call)
  have claimless (s : ContentServer) (call : Call) (sound : Sound service sqlite s) :
      service.Unclaimed s call ↔ True := iff_of_true (sound.unclaimed refuses call) trivial
  exact (meets_iff_of_invariant keeps claimless sound_new).mpr (meets_true _ _)

def server : DwUserContentStreamingService :=
  { contentServerHostname := "localhost", contentServerPort := 8081
    jwt := { encode := fun claims => claims.sub, leeway := 60 } }

def first : BdSession := ⟨1, some ⟨7, "first", [], .t6Pc⟩, none⟩

def second : BdSession := ⟨2, some ⟨8, "second", [], .t6Pc⟩, none⟩

def clip : StreamCreationRequest :=
  { filename := "clip", slot := 1, fileSize := 1, category := 0, checksum := [], clientLocale := "" }

-- the first user uploads a stream and calls its deletion, then the second user uploads one
def reopened : List Call :=
  [⟨1000, .upload first clip⟩, ⟨10, .deletion first 1⟩,
    ⟨1, .delete (claimsFor 7 .t6Pc 1 .delete 1010) Title.t6Pc.toU32 1⟩, ⟨1, .upload second clip⟩]

theorem harmless_always_reopened :
    (run (server.step ⟨false⟩) .new reopened).userStream.map UserStream.key
        = [⟨1, Title.t6Pc.toU32, 7⟩, ⟨2, Title.t6Pc.toU32, 8⟩]
      ∧ Always (server.step ⟨false⟩) (server.Harmless ⟨false⟩) .new reopened :=
  ⟨by decide, harmless_always server ⟨false⟩ rfl reopened⟩

end DwUserContentStreamingService

end BitDemon
