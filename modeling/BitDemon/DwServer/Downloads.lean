import BitDemon.DwServer.UploadCycles

set_option autoImplicit false

/-!
# Downloads

A lookup tells a user of streams, and gives him a link to each. What a link is
followed by is what the stream holds by then.
-/

namespace BitDemon

open Machine Runs

namespace DwUserContentStreamingService

section

variable (service : DwUserContentStreamingService)

def buildGetUrl (userId : UInt64) (persistedStream : PersistedStreamInfo) :
    Fallible ContentServer StreamInfo := do
  let jwt ← service.createJwt userId persistedStream.title persistedStream.id .stream
  pure
    { id := UInt64.ofNat persistedStream.id
      filename := persistedStream.filename
      title := persistedStream.title
      streamSize := UInt64.ofNat persistedStream.streamSize
      summaryFileSize := 0
      created := Int64.ofInt persistedStream.created
      modified := Int64.ofInt persistedStream.modified
      ownerId := persistedStream.ownerId
      ownerName := persistedStream.ownerName
      url := "http://" ++ service.contentServerHostname ++ ":"
        ++ toString service.contentServerPort ++ "/content/user/"
        ++ toString persistedStream.title.toU32 ++ "/" ++ toString persistedStream.id
        ++ "?authorization=" ++ jwt
      metadata := persistedStream.metadata
      category := persistedStream.category
      slot := persistedStream.slot
      tags := persistedStream.tags
      numCopiesMade := 0
      originId := 0 }

def buildGetUrls (userId : UInt64) :
    List PersistedStreamInfo → Fallible ContentServer (List StreamInfo)
  | [] => pure []
  | persistedStream :: rest => do
    let here ← service.buildGetUrl userId persistedStream
    let others ← buildGetUrls userId rest
    pure (here :: others)

def getUserStreamsById (session : BdSession) (fileIds : List UInt64) :
    Fallible ContentServer (Answered (List StreamInfo)) := do
  let authentication ← unwrap session.authentication
  let persisted ← getStreamsByIds authentication.title fileIds
  let res ← service.buildGetUrls authentication.userId persisted
  if res.isEmpty then pure (.error .noStreamFound) else pure (.ok res)

-- with how many there are in all
def listStreamsOfUsers (plan : QueryPlan) (session : BdSession) (ownerIds : List UInt64)
    (page : StreamPage) : Fallible ContentServer (Answered (List StreamInfo × Nat)) := do
  let authentication ← unwrap session.authentication
  let (persisted, total) ← getStreamsByOwners plan authentication.title ownerIds
    page.minDateTime.toInt page.category page.itemOffset page.itemCount
  let res ← service.buildGetUrls authentication.userId persisted
  pure (.ok (res, total))

inductive Retrieved where
  | content (bytes : List UInt8)
  | refused (status : StatusCode)
  | notFound
  deriving DecidableEq

def retrieveUserFile (authorization : UserFileClaims) (titleNum : UInt32) (streamId : Nat) :
    Fallible ContentServer Retrieved := do
  match ← service.validateJwt authorization titleNum streamId .stream with
  | .error status => pure (.refused status)
  | .ok () =>
    match Title.fromU32 titleNum with
    | none => pure (.refused .badRequest)
    | some title =>
      match ← getStreamData title streamId with
      | some stream => pure (.content stream)
      | none => pure .notFound

end

inductive Lookup where
  | byIds (fileIds : List UInt64)
  | byOwners (ownerIds : List UInt64) (page : StreamPage)

def Lookup.find (plan : QueryPlan) (title : Title) :
    Lookup → Fallible ContentServer (List PersistedStreamInfo)
  | .byIds fileIds => getStreamsByIds title fileIds
  | .byOwners ownerIds page => do
    let (persisted, _) ← getStreamsByOwners plan title ownerIds page.minDateTime.toInt page.category
      page.itemOffset page.itemCount
    pure persisted

def Lookup.answer (service : DwUserContentStreamingService) (plan : QueryPlan) (session : BdSession) :
    Lookup → Fallible ContentServer (Answered (List StreamInfo))
  | .byIds fileIds => service.getUserStreamsById session fileIds
  | .byOwners ownerIds page => do
    let answered ← service.listStreamsOfUsers plan session ownerIds page
    pure (answered.map Prod.fst)

structure LookupCall where
  user : SessionAuthentication
  -- the streams that are still without a link
  found : List PersistedStreamInfo
  deriving DecidableEq

structure Downloads where
  uploads : UploadServer
  lookups : Table Nat LookupCall

namespace Downloads

inductive Event where
  | act (action : UploadAction)
  | wait (elapsed : Nat)
  -- the transaction of a lookup, and one link of its answer
  | look (id : Nat) (session : BdSession) (lookup : Lookup)
  | link (id : Nat)

def started : Downloads := { uploads := .started, lookups := ∅ }

def content (d : Downloads) : ContentServer := d.uploads.content

def withContent (d : Downloads) (content : ContentServer) : Downloads :=
  { d with uploads := { d.uploads with content } }

variable (service : DwUserContentStreamingService) (sqlite : Sqlite) (plan : QueryPlan)

def step (d : Downloads) : Event → Downloads
  | .act action => { d with uploads := UploadServer.step service sqlite d.uploads action }
  | .wait elapsed => d.withContent (d.content.wait elapsed)
  | .look id session lookup =>
    match d.lookups.get id, session.authentication with
    | none, some user =>
      match (exec (lookup.find plan user.title) d.content).1 with
      | .ok found => { d with lookups := d.lookups.put id ⟨user, found⟩ }
      | .error _ => d
    | _, _ => d
  | .link id =>
    match d.lookups.get id with
    | none => d
    | some ⟨_, []⟩ => { d with lookups := d.lookups.remove id }
    | some ⟨user, info :: found⟩ =>
      { d.withContent (exec (service.buildGetUrl user.userId info) d.content).2 with
        lookups := d.lookups.put id ⟨user, found⟩ }

def after (events : List Event) : Downloads := run (step service sqlite plan) started events

def Opens (d : Downloads) (event : Event) (slot : StreamSlot) : Prop :=
  ∃ action, event = .act action ∧ UploadServer.Reopens service d.uploads action slot

def Stores (d : Downloads) (event : Event) (slot : StreamSlot) (streamId : Nat) (body : List UInt8) :
    Prop :=
  ∃ action, event = .act action ∧ UploadServer.Puts service d.uploads action slot streamId body

def Finishes (d : Downloads) (event : Event) (slot : StreamSlot) : Prop :=
  ∃ action, event = .act action ∧ UploadServer.Finishes d.uploads action slot

def Removes (d : Downloads) (event : Event) (slot : StreamSlot) (streamId : Nat) : Prop :=
  ∃ action, event = .act action
    ∧ UploadServer.Removes service sqlite d.uploads action slot streamId

def happened (d : Downloads) (event : Event) (slot : StreamSlot) : Cycle.Happened where
  opened := Opens service d event slot
  stored := Stores service d event slot
  finished := Finishes d event slot
  removed := Removes service sqlite d event slot

def Uploaded (events : List Event) (slot : StreamSlot) (streamId : Nat) (body : List UInt8) : Prop :=
  ∃ first event rest, events = first ++ event :: rest
    ∧ Stores service (after service sqlite plan first) event slot streamId body
    ∧ Meets (step service sqlite plan) (fun d event => ¬Opens service d event slot)
      (after service sqlite plan (first ++ [event])) rest

def Told (events : List Event) (user : SessionAuthentication) (info : PersistedStreamInfo) : Prop :=
  ∃ first id session lookup rest found, events = first ++ .look id session lookup :: rest
    ∧ session.authentication = some user
    ∧ (exec (lookup.find plan user.title) (after service sqlite plan first).content).1 = .ok found
    ∧ info ∈ found

variable {service sqlite plan} {d : Downloads} {events : List Event} {event : Event}
  {slot : StreamSlot} {streamId : Nat} {body : List UInt8}

theorem after_concat (events : List Event) (event : Event) :
    after service sqlite plan (events ++ [event])
      = step service sqlite plan (after service sqlite plan events) event := by
  rw [after, run_append, run_cons, run_nil, after]

theorem rows_step (other : ∀ action, event ≠ .act action) :
    (step service sqlite plan d event).uploads.calls = d.uploads.calls
      ∧ (step service sqlite plan d event).content.userStream = d.content.userStream := by
  cases event with
  | act action => exact absurd rfl (other action)
  | wait elapsed => exact ⟨rfl, rfl⟩
  | look id session lookup =>
    rw [step]
    split
    next =>
      split
      next => exact ⟨rfl, rfl⟩
      next => exact ⟨rfl, rfl⟩
    next => exact ⟨rfl, rfl⟩
  | link id =>
    rw [step]
    split
    next => exact ⟨rfl, rfl⟩
    next => exact ⟨rfl, rfl⟩
    next => exact ⟨rfl, rfl⟩

theorem steady_step (steady : UploadServer.Steady d.uploads) (event : Event) :
    UploadServer.Steady (step service sqlite plan d event).uploads := by
  by_cases acts : ∃ action, event = .act action
  next =>
    obtain ⟨action, rfl⟩ := acts
    exact ⟨UploadServer.sound_step steady.sound action,
      UploadServer.keyed_step steady.sound steady.keyed action⟩
  next =>
    obtain ⟨calls, rows⟩ := @rows_step service sqlite plan d event (not_exists.mp acts)
    refine ⟨fun id call under => steady.sound id call (by rwa [calls] at under), ?_, ?_⟩
    · exact (congrArg (fun rows => (rows.map UserStream.id).Nodup) rows).mpr steady.keyed.ids
    · exact (congrArg (Rows.Distinct inSlotOf) rows).mpr steady.keyed.slots

variable (service sqlite plan) in
theorem steady_after (events : List Event) :
    UploadServer.Steady (after service sqlite plan events).uploads := by
  refine @run_keeps _ _ (step service sqlite plan) (fun d => UploadServer.Steady d.uploads) ?_ _ events
    (@UploadServer.steady_run service sqlite [])
  exact fun _ event steady => steady_step steady event

theorem move_step (steady : UploadServer.Steady d.uploads) (event : Event) (slot : StreamSlot) :
    Cycle.Move (happened service sqlite d event slot) (cycleOf slot d.content.userStream)
      (cycleOf slot (step service sqlite plan d event).content.userStream) := by
  by_cases acts : ∃ action, event = .act action
  next =>
    obtain ⟨action, rfl⟩ := acts
    have only {does : UploadAction → Prop} :
        (∃ other, Event.act action = .act other ∧ does other) ↔ does action := by simp
    exact (UploadServer.move_step steady action slot).congr only (fun _ _ => only) only fun _ => only
  next =>
    rw [(@rows_step service sqlite plan d event (not_exists.mp acts)).2]
    have never {does : UploadAction → Prop} : ¬∃ action, event = .act action ∧ does action :=
      fun ⟨action, same, _⟩ => acts ⟨action, same⟩
    exact .keeps _ never (fun _ _ => never) never

theorem uploaded_of_cycle {metadata : Option (List UInt8)}
    (there : cycleOf slot (after service sqlite plan events).content.userStream
      = some ⟨streamId, some body, metadata⟩) :
    Uploaded service sqlite plan events slot streamId body := by
  induction events using List.reverseRecOn generalizing metadata with
  | nil => cases there
  | append_singleton events event ih =>
    have move := @move_step service sqlite plan _ (steady_after service sqlite plan events) event slot
    rw [after_concat] at there
    rw [there] at move
    generalize before : cycleOf slot (after service sqlite plan events).content.userStream = cycle at move
    have earlier {metadata : Option (List UInt8)}
        (unopened : ¬Opens service (after service sqlite plan events) event slot)
        (held : cycle = some ⟨streamId, some body, metadata⟩) :
        Uploaded service sqlite plan (events ++ [event]) slot streamId body := by
      obtain ⟨first, put, rest, rfl, stored, quiet⟩ := ih (before.trans held)
      refine ⟨first, put, rest ++ [event], by rw [List.append_assoc, List.cons_append], stored, ?_⟩
      refine quiet.concat ?_
      rw [after, ← run_append, List.append_assoc]
      exact unopened
    cases move with
    | keeps _ unopened => exact earlier unopened rfl
    | stores _ _ _ _ stored => exact ⟨events, event, [], rfl, (stored _ _).mpr ⟨rfl, rfl⟩, trivial⟩
    | describes _ _ _ unopened => exact earlier unopened rfl

structure Signs (s t : ContentServer) : Prop where
  now : s.now ≤ t.now
  tokens : ∃ signed, t.issued = s.issued ++ signed ∧ ∀ token ∈ signed, token.streamOperation ≠ .stream

theorem Signs.none {s t : ContentServer} (now : t.now = s.now) (issued : t.issued = s.issued) :
    Signs s t := ⟨Int.le_of_eq now.symm, [], by rw [issued, List.append_nil], nofun⟩

theorem Signs.one {s t : ContentServer} {token : UserFileClaims} (now : t.now = s.now)
    (issued : t.issued = s.issued ++ [token]) (operation : token.streamOperation ≠ .stream) :
    Signs s t := by
  refine ⟨Int.le_of_eq now.symm, [token], issued, fun other member => ?_⟩
  obtain rfl := List.mem_singleton.mp member
  exact operation

theorem signs_serve (s : ContentServer) (request : Request) :
    Signs s (service.serve sqlite s request) := by
  cases request with
  | upload session requestData =>
    rw [serve]
    cases authenticated : session.authentication with
    | none =>
      rw [(@exec_upload_unauthenticated service _ authenticated requestData s).1]
      exact .none rfl rfl
    | some user =>
      rcases @upload_cases service _ _ authenticated requestData s with
        ⟨_, _, _, _, _, did⟩ | ⟨_, _, did⟩ | ⟨_, _, _, did⟩
      · rw [did]
        exact .one rfl rfl (by simp [claimsFor])
      · rw [did]
        exact .none rfl rfl
      · rw [did]
        exact .none rfl rfl
  | finish session uploadedFile =>
    rw [serve]
    cases authenticated : session.authentication with
    | none =>
      rw [(exec_finish_unauthenticated authenticated uploadedFile s).1]
      exact .none rfl rfl
    | some user =>
      rcases finish_cases authenticated uploadedFile s with ⟨_, _, _, _, did⟩ | ⟨_, _, did⟩
      · rw [did]
        exact .none rfl rfl
      · rw [did]
        exact .none rfl rfl
  | deletion session slotId =>
    rcases @deletion_cases service sqlite session slotId s with ⟨_, _, _, _, did⟩ | did
    · rw [did]
      exact .one rfl rfl (by simp [claimsFor])
    · rw [did]
      exact .none rfl rfl
  | put authorization titleNum id body =>
    rcases @put_rows service sqlite authorization titleNum id body s with ⟨_, did⟩ | ⟨_, did⟩
    · rw [did]
      exact .none rfl rfl
    · rw [did]
      exact .none rfl rfl
  | delete authorization titleNum id =>
    rcases @delete_rows service sqlite authorization titleNum id s with ⟨_, did⟩ | ⟨_, did⟩
    · rw [did]
      exact .none rfl rfl
    · rw [did]
      exact .none rfl rfl

theorem signs_grantUpload (user : SessionAuthentication) (id : Nat) (s : ContentServer) :
    Signs s (exec (grantUpload service user id) s).2 := by
  rw [grantUpload]
  cases bound : Sqlite.bindable user.userId with
  | false =>
    have panics : exec (recordUserName user.userId user.username) s
        = (.error (.panic .unwrapOnError), s) := by
      rw [recordUserName, bound]
      rfl
    rw [exec_bind_error _ panics]
    exact .none rfl rfl
  | true =>
    obtain ⟨userInfo, recorded⟩ := exec_recordUserName user.username s bound
    obtain ⟨url, built⟩ := @exec_buildStreamUrl service user.userId user.title id .create
      { s with userInfo := userInfo }
    rw [exec_bind_ok _ recorded, exec_bind_ok _ built]
    exact .one rfl rfl (by simp [claimsFor])

theorem signs_action (steady : UploadServer.Steady d.uploads) (action : UploadAction) :
    Signs d.content (UploadServer.step service sqlite d.uploads action).content := by
  cases action with
  | start id session requestData =>
    rw [UploadServer.step]
    split
    next => exact .none rfl rfl
    next => exact .none rfl rfl
  | advance id =>
    cases under : d.uploads.calls.get id with
    | none =>
      rw [UploadServer.step_advance_none under]
      exact .none rfl rfl
    | some call =>
      rw [UploadServer.step_advance under]
      cases phase : call.phase with
      | counting =>
        rw [advance_counting phase]
        exact .none rfl rfl
      | creating =>
        obtain ⟨_, _, did⟩ :=
          @advance_creating service _ phase (steady.sound id call under phase) d.uploads.content
        rw [did]
        exact .none rfl rfl
      | granting streamId =>
        rw [UploadCall.advance, phase]
        exact signs_grantUpload call.user streamId d.content
  | serve call =>
    obtain ⟨now, signed⟩ := @signs_serve service sqlite (d.content.wait call.elapsed) call.request
    refine ⟨Int.le_trans ?_ now, signed⟩
    exact Int.le_add_of_nonneg_right (Int.natCast_nonneg _)

theorem issued_step (steady : UploadServer.Steady d.uploads) (event : Event) :
    d.content.issued ⊆ (step service sqlite plan d event).content.issued := by
  cases event with
  | act action =>
    obtain ⟨_, signed, issued, _⟩ := @signs_action service sqlite d steady action
    exact issued.symm ▸ List.subset_append_left _ _
  | wait elapsed => exact List.Subset.refl _
  | look id session lookup =>
    rw [step]
    split
    next =>
      split
      next => exact List.Subset.refl _
      next => exact List.Subset.refl _
    next => exact List.Subset.refl _
  | link id =>
    rw [step]
    split
    next => exact List.Subset.refl _
    next => exact List.Subset.refl _
    next => exact List.subset_append_left _ _

structure Known (service : DwUserContentStreamingService) (sqlite : Sqlite) (plan : QueryPlan)
    (events : List Event) (d : Downloads) : Prop where
  found : ∀ id call, d.lookups.get id = some call →
    ∀ info ∈ call.found, Told service sqlite plan events call.user info
  issued : ∀ token ∈ d.content.issued, token.streamOperation = .stream →
    ∃ user info instant, Told service sqlite plan events user info ∧ instant ≤ d.content.now
      ∧ token = claimsFor user.userId info.title info.id .stream instant

theorem Told.concat {user : SessionAuthentication} {info : PersistedStreamInfo}
    (told : Told service sqlite plan events user info) (event : Event) :
    Told service sqlite plan (events ++ [event]) user info := by
  obtain ⟨first, id, session, lookup, rest, found, rfl, signedIn, ran, member⟩ := told
  refine ⟨first, id, session, lookup, rest ++ [event], found, ?_, signedIn, ran, member⟩
  rw [List.append_assoc, List.cons_append]

theorem known_after (service : DwUserContentStreamingService) (sqlite : Sqlite) (plan : QueryPlan)
    (events : List Event) : Known service sqlite plan events (after service sqlite plan events) := by
  induction events using List.reverseRecOn with
  | nil => exact ⟨nofun, nofun⟩
  | append_singleton events event ih =>
    have steady := steady_after service sqlite plan events
    have old {id : Nat} {call : LookupCall}
        (waits : (after service sqlite plan events).lookups.get id = some call)
        {info : PersistedStreamInfo} (member : info ∈ call.found) :
        Told service sqlite plan (events ++ [event]) call.user info :=
      (ih.found id call waits info member).concat event
    have signed {token : UserFileClaims} {now : Int}
        (member : token ∈ (after service sqlite plan events).content.issued)
        (later : (after service sqlite plan events).content.now ≤ now)
        (shows : token.streamOperation = .stream) :
        ∃ user info instant, Told service sqlite plan (events ++ [event]) user info ∧ instant ≤ now
          ∧ token = claimsFor user.userId info.title info.id .stream instant := by
      obtain ⟨user, info, instant, told, before, same⟩ := ih.issued token member shows
      exact ⟨user, info, instant, told.concat event, Int.le_trans before later, same⟩
    rw [after_concat]
    cases event with
    | act action =>
      obtain ⟨later, fresh, issued, others⟩ := @signs_action service sqlite _ steady action
      refine ⟨fun id call waits info member => old waits member, fun token member shows => ?_⟩
      rw [step, content, issued] at member
      rcases List.mem_append.mp member with was | new
      · exact signed was later shows
      · exact absurd shows (others token new)
    | wait elapsed =>
      refine ⟨fun id call waits info member => old waits member, fun token member shows => ?_⟩
      exact signed member (Int.le_add_of_nonneg_right (Int.natCast_nonneg _)) shows
    | look id session lookup =>
      have unchanged : Known service sqlite plan (events ++ [.look id session lookup])
          (after service sqlite plan events) :=
        ⟨fun id call waits info member => old waits member,
          fun token member shows => signed member (Int.le_refl _) shows⟩
      rw [step]
      split
      next user _ signedIn =>
        split
        next found ran =>
          refine ⟨fun other call waits info member => ?_, unchanged.issued⟩
          dsimp only at waits
          rw [Table.get_put] at waits
          split at waits
          next =>
            obtain rfl := Option.some.inj waits
            exact ⟨events, id, session, lookup, [], found, rfl, signedIn, ran, member⟩
          next => exact unchanged.found other call waits info member
        next => exact unchanged
      next => exact unchanged
    | link id =>
      rw [step]
      split
      next =>
        exact ⟨fun id call waits info member => old waits member,
          fun token member shows => signed member (Int.le_refl _) shows⟩
      next =>
        refine ⟨fun other call waits info member => ?_,
          fun token member shows => signed member (Int.le_refl _) shows⟩
        dsimp only at waits
        rw [Table.get_remove] at waits
        split at waits
        next => cases waits
        next => exact old waits member
      next user info found held =>
        refine ⟨fun other call waits info' member => ?_, fun token member shows => ?_⟩
        · dsimp only at waits
          rw [Table.get_put] at waits
          split at waits
          next =>
            obtain rfl := Option.some.inj waits
            exact old held (List.mem_cons_of_mem _ member)
          next => exact old waits member
        · rcases List.mem_append.mp member with was | new
          · exact signed was (Int.le_refl _) shows
          · obtain rfl := List.mem_singleton.mp new
            exact ⟨user, info, _, old held List.mem_cons_self, Int.le_refl _, rfl⟩

theorem exec_getStreamData_eq (title : Title) (streamId : Nat) (s : ContentServer) :
    exec (getStreamData title streamId) s
      = (.ok ((s.userStream.find? (named title.toU32 streamId)).bind UserStream.data), s) := by
  rw [getStreamData, exec_bind_ok _ (exec_get s)]
  cases s.userStream.find? (named title.toU32 streamId) with
  | none => rfl
  | some u => rfl

theorem retrieve_content_iff {token : UserFileClaims} {titleNum : UInt32} {s : ContentServer} :
    (exec (service.retrieveUserFile token titleNum streamId) s).1 = .ok (.content body)
      ↔ Accepts service s token titleNum streamId .stream ∧ ∃ title : Title, title.toU32 = titleNum
        ∧ (exec (getStreamData title streamId) s).1 = .ok (some body) := by
  obtain ⟨outcome, validated, accepted⟩ :=
    @exec_validateJwt_iff service token titleNum streamId .stream s
  rw [retrieveUserFile, exec_bind_ok _ validated]
  cases outcome with
  | error status =>
    constructor
    · intro gives
      cases gives
    · intro gives
      cases accepted.mpr gives.1
  | ok granted =>
    have accepts := accepted.mp rfl
    cases known : Title.fromU32 titleNum with
    | none =>
      constructor
      · intro gives
        cases gives
      · rintro ⟨_, title, rfl, _⟩
        rw [Title.fromU32_toU32] at known
        cases known
    | some title =>
      obtain rfl := Title.toU32_of_fromU32 known
      dsimp only
      rw [exec_bind_ok _ (exec_getStreamData_eq title streamId s)]
      have only (gives : (exec (getStreamData title streamId) s).1 = .ok (some body)) :
          Accepts service s token title.toU32 streamId .stream ∧ ∃ other : Title,
            other.toU32 = title.toU32 ∧ (exec (getStreamData other streamId) s).1 = .ok (some body) :=
        ⟨accepts, title, rfl, gives⟩
      rw [exec_getStreamData_eq] at only
      constructor
      · intro gives
        refine only ?_
        split at gives
        next data held =>
          cases gives
          rw [held]
        next => cases gives
      · rintro ⟨_, other, same, gives⟩
        obtain rfl := Title.toU32_inj same
        rw [exec_getStreamData_eq] at gives
        rw [Except.ok.inj gives]
        rfl

structure Genuine (service : DwUserContentStreamingService) (sqlite : Sqlite) (plan : QueryPlan)
    (events : List Event) (token : UserFileClaims) (titleNum : UInt32) (streamId : Nat)
    (body : List UInt8) : Prop where
  -- the token was signed for a user who had been told of the stream, some minutes ago at most
  told : ∃ user info instant, Told service sqlite plan events user info
    ∧ info.title.toU32 = titleNum ∧ info.id = streamId
    ∧ token = claimsFor user.userId info.title info.id .stream instant
    ∧ instant ≤ (after service sqlite plan events).content.now
    ∧ (after service sqlite plan events).content.now
      ≤ instant + claimLifetimeInSeconds + service.jwt.leeway
  uploaded : ∃ slot : StreamSlot, slot.title = titleNum
    ∧ Uploaded service sqlite plan events slot streamId body

/--
However uploads, deletions and lookups go on: who downloads a stream was told of
it, and gets what was uploaded for it since its slot was last opened.
-/
theorem downloads_genuine (service : DwUserContentStreamingService) (sqlite : Sqlite)
    (plan : QueryPlan) (events : List Event) (token : UserFileClaims) (titleNum : UInt32)
    (streamId : Nat) (body : List UInt8)
    (gives : (exec (service.retrieveUserFile token titleNum streamId)
      (after service sqlite plan events).content).1 = .ok (.content body)) :
    Genuine service sqlite plan events token titleNum streamId body := by
  obtain ⟨accepts, title, rfl, stored⟩ := retrieve_content_iff.mp gives
  constructor
  · obtain ⟨user, info, instant, told, before, rfl⟩ :=
      (known_after service sqlite plan events).issued token accepts.issued accepts.operation
    exact ⟨user, info, instant, told, accepts.title, accepts.id, rfl, before, accepts.live⟩
  · rw [exec_getStreamData_eq] at stored
    obtain ⟨u, found, data⟩ := Option.bind_eq_some_iff.mp (Except.ok.inj stored)
    have present := List.mem_of_find?_eq_some found
    have called := List.find?_some found
    rw [named, Bool.and_eq_true, beq_iff_eq, beq_iff_eq] at called
    have keyed := (steady_after service sqlite plan events).keyed
    have there : cycleOf (inSlotOf u) (after service sqlite plan events).content.userStream
        = some ⟨streamId, some body, u.metadata⟩ := by
      rw [← called.2, ← data]
      exact congrArg (Option.map UserStream.cycle) (keyed.find_slot present rfl)
    exact ⟨inSlotOf u, called.1, uploaded_of_cycle there⟩

theorem exec_getStreamsByIds_state (title : Title) (fileIds : List UInt64) (s : ContentServer) :
    (exec (getStreamsByIds title fileIds) s).2 = s := by
  induction fileIds with
  | nil => rfl
  | cons fileId rest ih =>
    rw [getStreamsByIds, exec_bind, exec_getStreamById]
    cases streamById title s fileId with
    | error fault => rfl
    | ok here =>
      dsimp only
      rw [exec_bind]
      rcases ran : exec (getStreamsByIds title rest) s with ⟨outcome, left⟩
      rw [ran] at ih
      cases outcome with
      | error fault => exact ih
      | ok others => exact ih

theorem exec_getStreamsByOwners_state (title : Title) (ownerIds : List UInt64) (minDateTime : Int)
    (category : UInt16) (itemOffset itemCount : Nat) (s : ContentServer) :
    (exec (getStreamsByOwners plan title ownerIds minDateTime category itemOffset itemCount) s).2 = s := by
  rw [getStreamsByOwners, exec_bind_ok _ (exec_get s)]
  dsimp only
  split
  next => rfl
  next =>
    split
    next => rfl
    next => rfl

theorem exec_buildGetUrls (userId : UInt64) (found : List PersistedStreamInfo) (s : ContentServer) :
    ∃ links, exec (service.buildGetUrls userId found) s
      = (.ok links, { s with
          issued := s.issued ++ found.map fun info =>
            claimsFor userId info.title info.id .stream s.now }) := by
  induction found generalizing s with
  | nil => exact ⟨[], by rw [List.map_nil, List.append_nil]; rfl⟩
  | cons info found ih =>
    obtain ⟨links, ran⟩ := ih
      { s with issued := s.issued ++ [claimsFor userId info.title info.id .stream s.now] }
    obtain ⟨link, linked⟩ : ∃ link, exec (service.buildGetUrl userId info) s = (.ok link, { s with
        issued := s.issued ++ [claimsFor userId info.title info.id .stream s.now] }) := ⟨_, rfl⟩
    refine ⟨link :: links, ?_⟩
    rw [buildGetUrls, exec_bind_ok _ linked, exec_bind_ok _ ran]
    rw [List.append_assoc, List.singleton_append]
    rfl

theorem content_run_links {user : SessionAuthentication} {found : List PersistedStreamInfo} {id : Nat}
    (held : d.lookups.get id = some ⟨user, found⟩) :
    (run (step service sqlite plan) d (List.replicate found.length (.link id))).content
      = (exec (service.buildGetUrls user.userId found) d.content).2 := by
  obtain ⟨_, ran⟩ := @exec_buildGetUrls service user.userId found d.content
  rw [ran]
  clear ran
  induction found generalizing d with
  | nil =>
    rw [List.map_nil, List.append_nil]
    rfl
  | cons info found ih =>
    rw [List.length_cons, List.replicate_succ, run_cons, step, held]
    dsimp only
    rw [ih (Table.get_put_self _ _ _)]
    change ContentServer.mk _ _ _ _ ((d.content.issued ++ [_]) ++ _) = _
    rw [List.append_assoc, List.map_cons, List.singleton_append]
    rfl

theorem serial_lookup {id : Nat} {session : BdSession} {user : SessionAuthentication} {lookup : Lookup}
    {found : List PersistedStreamInfo} (idle : d.lookups.get id = none)
    (signedIn : session.authentication = some user)
    (ran : (exec (lookup.find plan user.title) d.content).1 = .ok found) :
    (run (step service sqlite plan) d
        (.look id session lookup :: List.replicate found.length (.link id))).content
      = (exec (lookup.answer service plan session) d.content).2 := by
  have looked : step service sqlite plan d (.look id session lookup)
      = { d with lookups := d.lookups.put id ⟨user, found⟩ } := by
    rw [step, idle, signedIn]
    dsimp only
    rw [ran]
  obtain ⟨links, linked⟩ := @exec_buildGetUrls service user.userId found d.content
  rw [run_cons, looked, content_run_links (Table.get_put_self _ _ _)]
  cases lookup with
  | byIds fileIds =>
    have whole : exec (getStreamsByIds user.title fileIds) d.content = (.ok found, d.content) :=
      Prod.ext ran (exec_getStreamsByIds_state _ _ _)
    rw [Lookup.answer, getUserStreamsById, signedIn, unwrap_some, pure_bind, exec_bind_ok _ whole,
      exec_bind_ok _ linked]
    split
    next => exact congrArg Prod.snd linked
    next => exact congrArg Prod.snd linked
  | byOwners ownerIds page =>
    rw [Lookup.find, exec_bind] at ran
    rcases queried : exec (getStreamsByOwners plan user.title ownerIds page.minDateTime.toInt page.category
      page.itemOffset page.itemCount) d.content with ⟨outcome, left⟩
    obtain rfl : left = d.content := by
      rw [← exec_getStreamsByOwners_state user.title ownerIds page.minDateTime.toInt page.category
        page.itemOffset page.itemCount d.content, queried]
    rw [queried] at ran
    cases outcome with
    | error fault => cases ran
    | ok given =>
      obtain ⟨persisted, total⟩ := given
      obtain rfl : persisted = found := Except.ok.inj ran
      rw [Lookup.answer, listStreamsOfUsers, signedIn, unwrap_some, pure_bind, bind_assoc,
        exec_bind_ok _ queried, bind_assoc, exec_bind_ok _ linked]
      exact congrArg Prod.snd linked

structure Row (s : ContentServer) (title : Title) (lookup : Lookup) (info : PersistedStreamInfo)
    (u : UserStream) : Prop where
  present : u ∈ s.userStream
  titled : u.title = title.toU32
  told : info = mapPersistedStreamInfo title s u ((u.data.map List.length).getD 0)
  whole : ∀ fileIds, lookup = .byIds fileIds → u.data ≠ none

theorem row_of_streamById {title : Title} {s : ContentServer} {fileId : UInt64}
    {info : PersistedStreamInfo} (found : streamById title s fileId = .ok (some info))
    (lookup : Lookup) : ∃ u, Row s title lookup info u := by
  rw [streamById] at found
  split at found
  next => cases found
  next u there =>
    have named := (Option.filter_eq_some_iff.mp there).1
    have called := List.find?_some named
    rw [DwUserContentStreamingService.named, Bool.and_eq_true, beq_iff_eq] at called
    split at found
    next data stored =>
      cases found
      refine ⟨u, List.mem_of_find?_eq_some named, called.1, by rw [stored]; rfl, fun _ _ => ?_⟩
      rw [stored]
      exact Option.some_ne_none data
    next => cases found

theorem row_of_getStreamsByIds {title : Title} {s : ContentServer} {fileIds : List UInt64}
    {found : List PersistedStreamInfo} (ran : (exec (getStreamsByIds title fileIds) s).1 = .ok found)
    {info : PersistedStreamInfo} (member : info ∈ found) (lookup : Lookup) :
    ∃ u, Row s title lookup info u := by
  induction fileIds generalizing found with
  | nil =>
    cases ran
    cases member
  | cons fileId rest ih =>
    rw [getStreamsByIds, exec_bind, exec_getStreamById] at ran
    cases here : streamById title s fileId with
    | error fault =>
      rw [here] at ran
      cases ran
    | ok one =>
      rw [here] at ran
      dsimp only at ran
      rw [exec_bind] at ran
      rcases after : exec (getStreamsByIds title rest) s with ⟨outcome, left⟩
      rw [after] at ran
      cases outcome with
      | error fault => cases ran
      | ok others =>
        cases ran
        rcases List.mem_append.mp member with first | later
        · obtain rfl := Option.mem_toList.mp first
          exact row_of_streamById here lookup
        · exact ih (by rw [after]) later

theorem row_of_find {title : Title} {s : ContentServer} {lookup : Lookup}
    {found : List PersistedStreamInfo} (ran : (exec (lookup.find plan title) s).1 = .ok found)
    {info : PersistedStreamInfo} (member : info ∈ found) : ∃ u, Row s title lookup info u := by
  cases lookup with
  | byIds fileIds => exact row_of_getStreamsByIds ran member _
  | byOwners ownerIds page =>
    rw [Lookup.find, exec_bind, getStreamsByOwners, exec_bind_ok _ (exec_get s)] at ran
    dsimp only at ran
    split at ran
    next given left came =>
      cases ran
      split at came
      next =>
        cases came
        cases member
      next =>
        split at came
        next =>
          cases came
          obtain ⟨u, shown, rfl⟩ := List.mem_map.mp member
          have selected := (plan.perm _).mem_iff.mp (List.mem_of_mem_drop (List.mem_of_mem_take shown))
          obtain ⟨present, chosen⟩ := List.mem_filter.mp selected
          simp only [byOwners, Bool.and_eq_true, beq_iff_eq] at chosen
          refine ⟨u, present, chosen.1.1.2, rfl, fun fileIds same => ?_⟩
          cases same
        next => cases came
    next => cases ran

def Undisturbed (service : DwUserContentStreamingService) (sqlite : Sqlite) (slot : StreamSlot)
    (streamId : Nat) (d : Downloads) (event : Event) : Prop :=
  ¬Opens service d event slot ∧ ¬Removes service sqlite d event slot streamId

def Holds (slot : StreamSlot) (streamId : Nat) (body : List UInt8) (d : Downloads) : Prop :=
  UploadServer.Steady d.uploads
    ∧ ∃ metadata, cycleOf slot d.content.userStream = some ⟨streamId, some body, metadata⟩

theorem holds_step (holds : Holds slot streamId body d)
    (undisturbed : Undisturbed service sqlite slot streamId d event) :
    Holds slot streamId body (step service sqlite plan d event) := by
  obtain ⟨steady, metadata, there⟩ := holds
  have move := @move_step service sqlite plan d steady event slot
  rw [there] at move
  refine ⟨steady_step steady event, ?_⟩
  generalize cycleOf slot (step service sqlite plan d event).content.userStream = cycle at move ⊢
  cases move with
  | keeps => exact ⟨metadata, rfl⟩
  | opens _ _ opened => exact absurd opened undisturbed.1
  | describes _ _ metadata => exact ⟨some metadata, rfl⟩
  | removes _ removed => exact absurd removed undisturbed.2

theorem issued_run {rest : List Event} (steady : UploadServer.Steady d.uploads) :
    d.content.issued ⊆ (run (step service sqlite plan) d rest).content.issued := by
  induction rest generalizing d with
  | nil => exact List.Subset.refl _
  | cons event rest ih =>
    exact List.Subset.trans (issued_step steady event) (ih (steady_step steady event))

theorem Row.holds {title : Title} {lookup : Lookup} {info : PersistedStreamInfo} {u : UserStream}
    (steady : UploadServer.Steady d.uploads) (row : Row d.content title lookup info u)
    (held : 0 < info.streamSize ∨ ∃ fileIds, lookup = .byIds fileIds) :
    ∃ body, body.length = info.streamSize
      ∧ Holds ⟨title.toU32, info.ownerId, info.slot⟩ info.id body d := by
  obtain ⟨present, titled, rfl, whole⟩ := row
  have slot : inSlotOf u = ⟨title.toU32, u.ownerId, u.slot⟩ := by rw [inSlotOf, titled]
  have there : cycleOf ⟨title.toU32, u.ownerId, u.slot⟩ d.content.userStream = some u.cycle := by
    rw [← slot]
    exact congrArg (Option.map UserStream.cycle) (steady.keyed.find_slot present rfl)
  cases data : u.data with
  | none =>
    rcases held with some | ⟨fileIds, byIds⟩
    · rw [data] at some
      cases some
    · exact absurd data (whole fileIds byIds)
  | some body =>
    refine ⟨body, rfl, steady, u.metadata, ?_⟩
    rw [UserStream.cycle, data] at there
    exact there

structure Shown (service : DwUserContentStreamingService) (sqlite : Sqlite) (plan : QueryPlan)
    (first between : List Event) (id : Nat) (session : BdSession) (lookup : Lookup)
    (user : SessionAuthentication) (info : PersistedStreamInfo) : Prop where
  signedIn : session.authentication = some user
  found : ∃ found, (exec (lookup.find plan user.title) (after service sqlite plan first).content).1
    = .ok found ∧ info ∈ found
  -- the query by owners tells of streams that are without data
  held : 0 < info.streamSize ∨ ∃ fileIds, lookup = .byIds fileIds
  links : ∃ left, (after service sqlite plan (first ++ .look id session lookup :: between)).lookups.get id
    = some ⟨user, info :: left⟩

/--
A link stays good for some minutes, whatever goes on: if its stream is neither
uploaded again nor removed, it gives what the stream held when it was shown.
-/
theorem links_hold (service : DwUserContentStreamingService) (sqlite : Sqlite) (plan : QueryPlan)
    (first between rest : List Event) (id : Nat) (session : BdSession) (lookup : Lookup)
    (user : SessionAuthentication) (info : PersistedStreamInfo)
    (shown : Shown service sqlite plan first between id session lookup user info)
    (kept : Meets (step service sqlite plan)
      (Undisturbed service sqlite ⟨user.title.toU32, info.ownerId, info.slot⟩ info.id)
      (after service sqlite plan first) (.look id session lookup :: between ++ .link id :: rest))
    (live : (after service sqlite plan
        (first ++ .look id session lookup :: between ++ .link id :: rest)).content.now
      ≤ (after service sqlite plan (first ++ .look id session lookup :: between)).content.now
        + claimLifetimeInSeconds + service.jwt.leeway) :
    ∃ body, body.length = info.streamSize
      ∧ (exec (getStreamData user.title info.id) (after service sqlite plan first).content).1
        = .ok (some body)
      ∧ (exec (service.retrieveUserFile (claimsFor user.userId user.title info.id .stream
            (after service sqlite plan (first ++ .look id session lookup :: between)).content.now)
          user.title.toU32 info.id)
        (after service sqlite plan
          (first ++ .look id session lookup :: between ++ .link id :: rest)).content).1
        = .ok (.content body) := by
  obtain ⟨_, ⟨found, ran, member⟩, held, left, links⟩ := shown
  obtain ⟨u, row⟩ := row_of_find ran member
  have titled : info.title = user.title := by rw [row.told]; rfl
  obtain ⟨body, size, holds⟩ := row.holds (steady_after service sqlite plan first) held
  have gives {d : Downloads} (holds : Holds ⟨user.title.toU32, info.ownerId, info.slot⟩ info.id body d) :
      (exec (getStreamData user.title info.id) d.content).1 = .ok (some body) := by
    obtain ⟨steady, metadata, there⟩ := holds
    exact congrArg Prod.fst (exec_getStreamData steady.keyed there rfl)
  have last := run_invariant (fun _ _ holds => holds_step holds) holds kept
  rw [after, ← run_append, ← List.append_assoc] at last
  refine ⟨body, size, gives holds, retrieve_content_iff.mpr ⟨?_, user.title, rfl, gives last⟩⟩
  refine ⟨?_, live, rfl, rfl, rfl⟩
  -- the token is issued with the link, and never withdrawn
  generalize shown : first ++ .look id session lookup :: between = events at links live ⊢
  have signed : claimsFor user.userId user.title info.id .stream
      (after service sqlite plan events).content.now
      ∈ (step service sqlite plan (after service sqlite plan events) (.link id)).content.issued := by
    rw [step, links, ← titled]
    exact List.mem_append_right _ (List.mem_singleton_self _)
  have later := @issued_run service sqlite plan _ rest
    (steady_step (steady_after service sqlite plan events) (.link id)) _ signed
  rw [after, run_append]
  exact later

-- one player has uploaded a stream, and another one asks for it
def uploadedClip : List Event := ((cycle 0 5).take 2).map fun call => .act (.serve call)

def shownClip : List Event := uploadedClip ++ [.look 1 second (.byIds [1]), .link 1]

def clipInfo : PersistedStreamInfo :=
  { id := 1, filename := "clip", title := .t6Pc, streamSize := 1, created := 0, modified := 0
    ownerId := 7, ownerName := "first", metadata := [], category := 0, slot := 1, tags := [] }

theorem downloads_genuine_clip :
    Genuine server ⟨false⟩ inserted shownClip (claimsFor 8 .t6Pc 1 .stream 0) Title.t6Pc.toU32 1 [1] :=
  downloads_genuine server ⟨false⟩ inserted shownClip (claimsFor 8 .t6Pc 1 .stream 0) Title.t6Pc.toU32 1 [1]
    (by decide +kernel)

theorem undisturbed_of_other (other : ∀ action, event ≠ .act action) :
    Undisturbed service sqlite slot streamId d event :=
  ⟨fun ⟨action, same, _⟩ => other action same, fun ⟨action, same, _⟩ => other action same⟩

theorem links_hold_clip :
    ∃ body, body.length = 1
      ∧ (exec (getStreamData .t6Pc 1) (after server ⟨false⟩ inserted uploadedClip).content).1 = .ok (some body)
      ∧ (exec (server.retrieveUserFile (claimsFor 8 .t6Pc 1 .stream
            (after server ⟨false⟩ inserted (uploadedClip ++ [.look 1 second (.byIds [1])])).content.now)
          Title.t6Pc.toU32 1) (after server ⟨false⟩ inserted (shownClip ++ [.wait 300])).content).1
        = .ok (.content body) := by
  refine links_hold server ⟨false⟩ inserted uploadedClip [] [.wait 300] 1 second (.byIds [1])
    ⟨8, "second", [], .t6Pc⟩ clipInfo ?_ ?_ (by decide +kernel)
  · exact ⟨rfl, ⟨[clipInfo], by decide +kernel, List.mem_singleton_self _⟩, .inr ⟨_, rfl⟩, [],
      by decide +kernel⟩
  · exact ⟨undisturbed_of_other nofun, undisturbed_of_other nofun, undisturbed_of_other nofun, trivial⟩

end Downloads

end DwUserContentStreamingService

end BitDemon
