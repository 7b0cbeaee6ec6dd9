import BitDemon.DwServer.UploadRace
import BitDemon.Library.Rows

set_option autoImplicit false

/-!
# What is reported of a stream

A slot is reused by an upsert that keeps the row and so its id, which the tags of
the stream stand under in a table of their own.
-/

namespace BitDemon

open Machine Runs

structure PersistedStreamInfo where
  id : Nat
  filename : String
  title : Title
  streamSize : Nat
  created : Int
  modified : Int
  ownerId : UInt64
  ownerName : String
  metadata : List UInt8
  category : UInt16
  slot : UInt16
  tags : List StreamTag
  deriving DecidableEq

/-- The order in which SQLite visits the rows that a statement without `ORDER BY` selects. -/
structure QueryPlan where
  visit : List UserStream → List UserStream
  perm : ∀ rows, (visit rows).Perm rows

namespace DwUserContentStreamingService

def tagsOf (s : ContentServer) (streamId : Nat) : List StreamTag :=
  (s.userStreamTag.filter fun t => t.streamId == streamId).map UserStreamTag.tag

def ownerName (s : ContentServer) (ownerId : UInt64) : String :=
  ((s.userInfo.find? fun info => info.userId == ownerId).map UserInfo.name).getD ""

def mapPersistedStreamInfo (title : Title) (s : ContentServer) (u : UserStream) (streamSize : Nat) :
    PersistedStreamInfo :=
  { id := u.id, filename := u.filename, title, streamSize, created := u.createdAt
    modified := u.modifiedAt, ownerId := u.ownerId, ownerName := ownerName s u.ownerId
    metadata := u.metadata.getD [], category := u.category, slot := u.slot, tags := tagsOf s u.id }

-- `length(data)` of no data is null, which is no `u64`
def getStreamById (title : Title) (fileId : UInt64) :
    Fallible ContentServer (Option PersistedStreamInfo) := do
  let server ← get
  let found := server.userStream.find? (named title.toU32 fileId.toNat)
  match found.filter fun _ => Sqlite.bindable fileId with
  | none => pure none
  | some u =>
    match u.data with
    | some data => pure (some (mapPersistedStreamInfo title server u data.length))
    | none => panicWith .unwrapOnError

def getStreamsByIds (title : Title) :
    List UInt64 → Fallible ContentServer (List PersistedStreamInfo)
  | [] => pure []
  | fileId :: rest => do
    let here ← getStreamById title fileId
    let others ← getStreamsByIds title rest
    pure (here.toList ++ others)

def byOwners (title : Title) (ownerIds : List UInt64) (minDateTime : Int) (category : UInt16)
    (u : UserStream) : Bool :=
  ownerIds.contains u.ownerId && u.title == title.toU32 && decide (minDateTime ≤ u.modifiedAt)
    && u.category == category

def getStreamsByOwners (plan : QueryPlan) (title : Title) (ownerIds : List UInt64)
    (minDateTime : Int) (category : UInt16) (itemOffset itemCount : Nat) :
    Fallible ContentServer (List PersistedStreamInfo × Nat) := do
  let server ← get
  let rows := server.userStream.filter (byOwners title ownerIds minDateTime category)
  if rows.length = 0 then
    pure ([], 0)
  else if itemOffset < 2 ^ 63 ∧ itemCount < 2 ^ 63 then
    let page := ((plan.visit rows).drop itemOffset).take itemCount
    let values := page.map fun u =>
      mapPersistedStreamInfo title server u ((u.data.map List.length).getD 0)
    pure (values, rows.length)
  else
    panicWith .unwrapOnError

-- the columns of the unique index
structure StreamSlot where
  title : UInt32
  ownerId : UInt64
  slot : UInt16
  deriving DecidableEq

def slotOf (user : SessionAuthentication) (slot : UInt16) : StreamSlot :=
  ⟨user.title.toU32, user.userId, slot⟩

def inSlotOf (u : UserStream) : StreamSlot := ⟨u.title, u.ownerId, u.slot⟩

variable (service : DwUserContentStreamingService) (sqlite : Sqlite)

def granted (s : ContentServer) : Request → Option (StreamSlot × StreamCreationRequest)
  | .upload session requestData =>
    match session.authentication, (exec (service.requestStreamUpload session requestData) s).1 with
    | some user, .ok (.ok _) => some (slotOf user requestData.slot, requestData)
    | _, _ => none
  | _ => none

def nextUpload (slot : StreamSlot) (s : ContentServer) (last : Option StreamCreationRequest)
    (request : Request) : Option StreamCreationRequest :=
  match granted service s request with
  | some (of, requestData) => if of = slot then some requestData else last
  | none => last

def lastUpload (slot : StreamSlot) :
    ContentServer → Option StreamCreationRequest → List Call → Option StreamCreationRequest
  | _, last, [] => last
  | s, last, call :: rest =>
    lastUpload slot (service.step sqlite s call)
      (nextUpload service slot (s.wait call.elapsed) last call.request) rest

inductive TableChange (s : ContentServer) (request : Request) (t : ContentServer) : Prop where
  | keeps (quiet : granted service s request = none) (rows : t.userStream = s.userStream)
    (tags : t.userStreamTag = s.userStreamTag)
  | opens (user : SessionAuthentication) (requestData : StreamCreationRequest)
    (asked : ∃ session, request = .upload session requestData ∧ session.authentication = some user)
    (grants : granted service s request = some (slotOf user requestData.slot, requestData))
    (rows : t.userStream = opened user requestData s) (tags : t.userStreamTag = s.userStreamTag)
  | describes (user : SessionAuthentication) (row : UserStream) (uploadedFile : UploadedStream)
    (quiet : granted service s request = none)
    (found : openRow user uploadedFile.slot s.userStream = some row)
    (rows : t.userStream = (described user row uploadedFile s).userStream)
    (tags : t.userStreamTag = (described user row uploadedFile s).userStreamTag)
  | stores (titleNum : UInt32) (streamId : Nat) (body : List UInt8)
    (quiet : granted service s request = none)
    (rows : t.userStream = withData titleNum streamId body s.userStream)
    (tags : t.userStreamTag = s.userStreamTag)
  | deletes (token : UserFileClaims) (titleNum : UInt32) (streamId : Nat)
    (asked : request = .delete token titleNum streamId)
    (rows : t.userStream = (deleted titleNum streamId s).userStream)
    (tags : t.userStreamTag = (deleted titleNum streamId s).userStreamTag)

variable {service sqlite} {s t : ContentServer}

theorem upload_change (session : BdSession) (requestData : StreamCreationRequest)
    (s : ContentServer) :
    TableChange service s (.upload session requestData)
      (service.serve sqlite s (.upload session requestData)) := by
  cases authenticated : session.authentication with
  | none =>
    have same := (@exec_upload_unauthenticated service _ authenticated requestData s).1
    refine .keeps ?_ (by rw [serve, same]) (by rw [serve, same])
    simp [granted, authenticated]
  | some user =>
    rcases @upload_cases service _ _ authenticated requestData s with ⟨_, _, _, _, _, did⟩
      | ⟨_, _, did⟩ | ⟨_, _, _, did⟩
    next =>
      refine .opens user requestData ⟨session, rfl, authenticated⟩ ?_ (by rw [serve, did])
        (by rw [serve, did])
      simp [granted, authenticated, did]
    next =>
      refine .keeps ?_ (by rw [serve, did]) (by rw [serve, did])
      simp [granted, authenticated, did]
    next =>
      refine .keeps ?_ (by rw [serve, did]) (by rw [serve, did])
      simp [granted, authenticated, did]

theorem finish_change (session : BdSession) (uploadedFile : UploadedStream) (s : ContentServer) :
    TableChange service s (.finish session uploadedFile)
      (service.serve sqlite s (.finish session uploadedFile)) := by
  cases authenticated : session.authentication with
  | none =>
    have same := (exec_finish_unauthenticated authenticated uploadedFile s).1
    exact .keeps rfl (by rw [serve, same]) (by rw [serve, same])
  | some user =>
    rcases finish_cases authenticated uploadedFile s with ⟨_, _, row, found, did⟩ | ⟨_, _, did⟩
    next => exact .describes user row uploadedFile rfl found (by rw [serve, did]) (by rw [serve, did])
    next => exact .keeps rfl (by rw [serve, did]) (by rw [serve, did])

theorem serve_change (s : ContentServer) (request : Request) :
    TableChange service s request (service.serve sqlite s request) := by
  cases request with
  | upload session requestData => exact upload_change session requestData s
  | finish session uploadedFile => exact finish_change session uploadedFile s
  | deletion session slotId =>
    obtain ⟨issued, did⟩ := @deletion_rows service sqlite session slotId s
    exact .keeps rfl (by rw [did]) (by rw [did])
  | put token titleNum streamId body =>
    rcases @put_rows service sqlite token titleNum streamId body s with ⟨_, did⟩ | ⟨_, did⟩
    next => exact .stores titleNum streamId body rfl (by rw [did]) (by rw [did])
    next => exact .keeps rfl (by rw [did]) (by rw [did])
  | delete token titleNum streamId =>
    rcases @delete_rows service sqlite token titleNum streamId s with ⟨_, did⟩ | ⟨_, same⟩
    next => exact .deletes token titleNum streamId rfl (by rw [did]) (by rw [did])
    next => exact .keeps rfl (by rw [same]) (by rw [same])

structure Keyed (s : ContentServer) : Prop where
  ids : Rows.Distinct UserStream.id s.userStream
  slots : Rows.Distinct inSlotOf s.userStream

theorem Keyed.of_rows {rows : List UserStream} (keyed : Keyed s)
    (ids : rows.map UserStream.id = s.userStream.map UserStream.id)
    (slots : rows.map inSlotOf = s.userStream.map inSlotOf) (same : t.userStream = rows) :
    Keyed t := by
  constructor
  · rw [Rows.Distinct, same, ids]
    exact keyed.ids
  · rw [Rows.Distinct, same, slots]
    exact keyed.slots

theorem Keyed.of_update {test : UserStream → Bool} {change : UserStream → UserStream}
    (keyed : Keyed s) (same : t.userStream = updateWhere test change s.userStream)
    (ids : ∀ u, (change u).id = u.id) (slots : ∀ u, inSlotOf (change u) = inSlotOf u) : Keyed t :=
  keyed.of_rows (map_updateWhere ids test s.userStream) (map_updateWhere slots test s.userStream) same

theorem inSlotOf_eq {user : SessionAuthentication} {slot : UInt16} {u : UserStream} :
    inSlotOf u = slotOf user slot ↔ inSlot user.title.toU32 user.userId slot u = true := by
  rw [inSlot_iff, inSlotOf, slotOf, StreamSlot.mk.injEq]

theorem Keyed.added {row : UserStream} (keyed : Keyed s) (same : t.userStream = s.userStream ++ [row])
    (fresh : row.id = Sqlite.nextRowId (s.userStream.map UserStream.id))
    (free : ∀ u ∈ s.userStream, inSlotOf u ≠ inSlotOf row) : Keyed t := by
  have unused : ∀ u ∈ s.userStream, u.id ≠ row.id := by
    intro u present clash
    have smaller := Sqlite.lt_nextRowId (List.mem_map_of_mem (f := UserStream.id) present)
    rw [clash, fresh] at smaller
    exact Nat.lt_irrefl _ smaller
  constructor
  · rw [same]
    exact Rows.distinct_append keyed.ids unused
  · rw [same]
    exact Rows.distinct_append keyed.slots free

theorem Keyed.opened {user : SessionAuthentication} {requestData : StreamCreationRequest}
    (keyed : Keyed s) (same : t.userStream = opened user requestData s) : Keyed t := by
  rw [DwUserContentStreamingService.opened] at same
  cases taken : slotRow user requestData.slot s.userStream with
  | some existing =>
    rw [taken] at same
    exact keyed.of_update same (fun _ => rfl) fun _ => rfl
  | none =>
    rw [taken] at same
    have free : ∀ u ∈ s.userStream, inSlotOf u ≠ slotOf user requestData.slot := by
      intro u present there
      exact List.find?_eq_none.mp taken u present (inSlotOf_eq.mp there)
    exact keyed.added same rfl free

theorem keyed_serve (keyed : Keyed s) (request : Request) :
    Keyed (service.serve sqlite s request) := by
  cases @serve_change service sqlite s request with
  | keeps quiet rows tags => exact keyed.of_rows rfl rfl rows
  | opens user requestData asked grants rows tags => exact keyed.opened rows
  | describes user row uploadedFile quiet found rows tags =>
    exact keyed.of_update rows (fun _ => rfl) fun _ => rfl
  | stores titleNum streamId body quiet rows tags =>
    exact keyed.of_update rows (fun _ => rfl) fun _ => rfl
  | deletes token titleNum streamId asked rows tags =>
    have left : List.Sublist (service.serve sqlite s request).userStream s.userStream := by
      rw [rows]
      exact List.filter_sublist
    exact ⟨keyed.ids.sublist (left.map _), keyed.slots.sublist (left.map _)⟩

def FromLast (last : StreamSlot → Option StreamCreationRequest) (s : ContentServer) : Prop :=
  ∀ u ∈ s.userStream, ∃ requestData, last (inSlotOf u) = some requestData
    ∧ u.filename = requestData.filename ∧ u.category = requestData.category

variable {last : StreamSlot → Option StreamCreationRequest}

theorem nextUpload_quiet {request : Request} (quiet : granted service s request = none)
    (slot : StreamSlot) (before : Option StreamCreationRequest) :
    nextUpload service slot s before request = before := by
  rw [nextUpload, quiet]

theorem fromLast_update {test : UserStream → Bool} {change : UserStream → UserStream}
    (from' : FromLast last s) (same : t.userStream = updateWhere test change s.userStream)
    (slots : ∀ u, inSlotOf (change u) = inSlotOf u) (names : ∀ u, (change u).filename = u.filename)
    (categories : ∀ u, (change u).category = u.category) : FromLast last t := by
  rw [FromLast, same]
  refine forall_updateWhere from' fun u present _ => ?_
  rw [slots, names, categories]
  exact from' u present

theorem mem_opened {user : SessionAuthentication} {requestData : StreamCreationRequest}
    (keyed : Keyed s) {u : UserStream} (member : u ∈ opened user requestData s) :
    (inSlotOf u = slotOf user requestData.slot ∧ u.filename = requestData.filename
        ∧ u.category = requestData.category)
      ∨ (u ∈ s.userStream ∧ inSlotOf u ≠ slotOf user requestData.slot) := by
  rw [opened] at member
  cases taken : slotRow user requestData.slot s.userStream with
  | some existing =>
    rw [taken] at member
    have stored := List.mem_of_find?_eq_some taken
    have there := inSlotOf_eq.mpr (List.find?_some taken)
    obtain ⟨old, present, rfl⟩ := List.mem_map.mp member
    split
    next hit =>
      obtain rfl : old = existing :=
        List.inj_on_of_nodup_map keyed.ids present stored (by simpa using hit)
      exact .inl ⟨there, rfl, rfl⟩
    next other =>
      refine .inr ⟨present, fun clash => ?_⟩
      obtain rfl : old = existing :=
        List.inj_on_of_nodup_map keyed.slots present stored (clash.trans there.symm)
      exact other (by simp)
  | none =>
    rw [taken] at member
    rcases List.mem_append.mp member with old | new
    next =>
      refine .inr ⟨old, fun clash => ?_⟩
      exact List.find?_eq_none.mp taken u old (inSlotOf_eq.mp clash)
    next =>
      rw [List.mem_singleton.mp new]
      exact .inl ⟨rfl, rfl, rfl⟩

theorem fromLast_opened {user : SessionAuthentication} {requestData : StreamCreationRequest}
    (keyed : Keyed s) (from' : FromLast last s)
    (same : t.userStream = opened user requestData s) :
    FromLast (fun slot => if slotOf user requestData.slot = slot then some requestData else last slot)
      t := by
  intro u member
  rw [same] at member
  rcases mem_opened keyed member with ⟨there, filename, category⟩ | ⟨old, elsewhere⟩
  next => exact ⟨requestData, if_pos there.symm, filename, category⟩
  next =>
    dsimp only
    rw [if_neg (Ne.symm elsewhere)]
    exact from' u old

theorem fromLast_serve (keyed : Keyed s) (from' : FromLast last s) (request : Request) :
    FromLast (fun slot => nextUpload service slot s (last slot) request)
      (service.serve sqlite s request) := by
  have silent (quiet : granted service s request = none) :
      (fun slot => nextUpload service slot s (last slot) request) = last :=
    funext fun slot => nextUpload_quiet quiet slot (last slot)
  cases @serve_change service sqlite s request with
  | keeps quiet rows tags =>
    rw [silent quiet, FromLast, rows]
    exact from'
  | opens user requestData asked grants rows tags =>
    have next : (fun slot => nextUpload service slot s (last slot) request)
        = fun slot => if slotOf user requestData.slot = slot then some requestData else last slot := by
      funext slot
      rw [nextUpload, grants]
    rw [next]
    exact fromLast_opened keyed from' rows
  | describes user row uploadedFile quiet found rows tags =>
    rw [silent quiet]
    exact fromLast_update from' rows (fun _ => rfl) (fun _ => rfl) fun _ => rfl
  | stores titleNum streamId body quiet rows tags =>
    rw [silent quiet]
    exact fromLast_update from' rows (fun _ => rfl) (fun _ => rfl) fun _ => rfl
  | deletes token titleNum streamId asked rows tags =>
    rw [silent (by rw [asked]; rfl), FromLast, rows]
    exact fun u member => from' u (List.mem_of_mem_filter member)

structure Traced (last : StreamSlot → Option StreamCreationRequest) (s : ContentServer) : Prop where
  keyed : Keyed s
  fromLast : FromLast last s

theorem traced_new : Traced (fun _ => none) .new :=
  ⟨⟨List.nodup_nil, List.nodup_nil⟩, nofun⟩

theorem Traced.wait (traced : Traced last s) (elapsed : Nat) : Traced last (s.wait elapsed) :=
  ⟨⟨traced.keyed.ids, traced.keyed.slots⟩, traced.fromLast⟩

theorem traced_step (traced : Traced last s) (call : Call) :
    Traced (fun slot => nextUpload service slot (s.wait call.elapsed) (last slot) call.request)
      (service.step sqlite s call) := by
  have waited := traced.wait call.elapsed
  exact ⟨keyed_serve waited.keyed call.request, fromLast_serve waited.keyed waited.fromLast call.request⟩

theorem traced_run (traced : Traced last s) (calls : List Call) :
    Traced (fun slot => lastUpload service sqlite slot s (last slot) calls)
      (run (service.step sqlite) s calls) := by
  induction calls generalizing s last with
  | nil => exact traced
  | cons call rest ih => exact ih (traced_step traced call)

structure Stands (s : ContentServer) (slot : StreamSlot) (streamId : Nat) (filename : String)
    (category : UInt16) (tags : List StreamTag) : Prop where
  row : ∃ u ∈ s.userStream, u.id = streamId ∧ inSlotOf u = slot ∧ u.filename = filename
    ∧ u.category = category ∧ u.metadata.isSome = true
  tags : tagsOf s streamId = tags

def Disturbs (slot : StreamSlot) (streamId : Nat) (call : Call) : Prop :=
  (∃ session requestData user, call.request = .upload session requestData
      ∧ session.authentication = some user ∧ slotOf user requestData.slot = slot)
    ∨ ∃ token, call.request = .delete token slot.title streamId

variable {slot : StreamSlot} {streamId : Nat} {filename : String} {category : UInt16}
  {tags : List StreamTag}

theorem filter_tagRows_of_ne {id other : Nat} (apart : other ≠ id) (tags : List StreamTag) :
    ((tagRows other tags).filter fun t => t.streamId == id) = [] := by
  rw [List.filter_eq_nil_iff]
  intro t member
  obtain ⟨tag, _, rfl⟩ := List.mem_map.mp member
  simpa using apart

theorem tagsOf_congr (same : t.userStreamTag = s.userStreamTag) (id : Nat) :
    tagsOf t id = tagsOf s id := by
  rw [tagsOf, tagsOf, same]

theorem Stands.update {test : UserStream → Bool} {change : UserStream → UserStream}
    (stands : Stands s slot streamId filename category tags)
    (rows : t.userStream = updateWhere test change s.userStream)
    (same : tagsOf t streamId = tagsOf s streamId)
    (stable : ∀ u ∈ s.userStream, u.id = streamId → inSlotOf u = slot → u.metadata.isSome = true →
      test u = true → (change u).id = u.id ∧ inSlotOf (change u) = inSlotOf u
        ∧ (change u).filename = u.filename ∧ (change u).category = u.category
        ∧ (change u).metadata = u.metadata) :
    Stands t slot streamId filename category tags := by
  obtain ⟨⟨u, present, id, there, name, of, finished⟩, stored⟩ := stands
  refine ⟨⟨if test u = true then change u else u, ?_, ?_⟩, same.trans stored⟩
  · rw [rows]
    exact List.mem_map_of_mem present
  · split
    next hit =>
      obtain ⟨id', there', name', of', finished'⟩ := stable u present id there finished hit
      exact ⟨id'.trans id, there'.trans there, name'.trans name, of'.trans of, by rwa [finished']⟩
    next => exact ⟨id, there, name, of, finished⟩

theorem Stands.grow {row : UserStream} (stands : Stands s slot streamId filename category tags)
    (rows : t.userStream = s.userStream ++ [row]) (same : tagsOf t streamId = tagsOf s streamId) :
    Stands t slot streamId filename category tags := by
  obtain ⟨⟨u, present, fields⟩, stored⟩ := stands
  refine ⟨⟨u, ?_, fields⟩, same.trans stored⟩
  rw [rows]
  exact List.mem_append_left _ present

theorem stands_opened {user : SessionAuthentication} {requestData : StreamCreationRequest}
    (keyed : Keyed s) (stands : Stands s slot streamId filename category tags)
    (rows : t.userStream = opened user requestData s) (same : t.userStreamTag = s.userStreamTag)
    (elsewhere : slotOf user requestData.slot ≠ slot) :
    Stands t slot streamId filename category tags := by
  rw [opened] at rows
  cases taken : slotRow user requestData.slot s.userStream with
  | some existing =>
    rw [taken] at rows
    refine stands.update rows (tagsOf_congr same streamId) fun u present _ there _ hit => ?_
    obtain rfl : u = existing :=
      List.inj_on_of_nodup_map keyed.ids present (List.mem_of_find?_eq_some taken) (by simpa using hit)
    exact absurd ((inSlotOf_eq.mpr (List.find?_some taken)).symm.trans there) elsewhere
  | none =>
    rw [taken] at rows
    exact stands.grow rows (tagsOf_congr same streamId)

theorem stands_described {user : SessionAuthentication} {row : UserStream}
    {uploadedFile : UploadedStream} (keyed : Keyed s)
    (stands : Stands s slot streamId filename category tags)
    (found : openRow user uploadedFile.slot s.userStream = some row)
    (rows : t.userStream = (described user row uploadedFile s).userStream)
    (stored : t.userStreamTag = (described user row uploadedFile s).userStreamTag) :
    Stands t slot streamId filename category tags := by
  -- the row that is described has no metadata yet, so it is another one
  have apart (u : UserStream) (present : u ∈ s.userStream) (finished : u.metadata.isSome = true) :
      u.id ≠ row.id := by
    intro clash
    obtain rfl : u = row :=
      List.inj_on_of_nodup_map keyed.ids present (List.mem_of_find?_eq_some found) clash
    have pending := List.find?_some found
    rw [Bool.and_eq_true, Option.isNone_iff_eq_none] at pending
    rw [pending.2] at finished
    cases finished
  have same : tagsOf t streamId = tagsOf s streamId := by
    obtain ⟨u, present, id, _, _, _, finished⟩ := stands.row
    have other : row.id ≠ streamId := fun clash => apart u present finished (id.trans clash.symm)
    rw [tagsOf_congr stored, described]
    rw [tagsOf, List.filter_append, filter_tagRows_of_ne other, List.append_nil, tagsOf]
  refine stands.update rows same fun u present _ _ finished hit => ?_
  have named : u.id = row.id := by
    rw [Bool.and_eq_true, DwUserContentStreamingService.named, Bool.and_eq_true] at hit
    simpa using hit.1.2
  exact absurd named (apart u present finished)

theorem stands_deleted {titleNum : UInt32} {id : Nat} (keyed : Keyed s)
    (stands : Stands s slot streamId filename category tags)
    (rows : t.userStream = (deleted titleNum id s).userStream)
    (stored : t.userStreamTag = (deleted titleNum id s).userStreamTag)
    (other : ¬(titleNum = slot.title ∧ id = streamId)) :
    Stands t slot streamId filename category tags := by
  obtain ⟨⟨u, present, sameId, there, fields⟩, said⟩ := stands
  have stays : named titleNum id u = false := by
    rw [← Bool.not_eq_true, named, Bool.and_eq_true]
    rintro ⟨title, named⟩
    apply other
    rw [← there, ← sameId]
    exact ⟨(beq_iff_eq.mp title).symm, (beq_iff_eq.mp named).symm⟩
  refine ⟨⟨u, ?_, sameId, there, fields⟩, ?_⟩
  · rw [rows]
    exact List.mem_filter.mpr ⟨present, by rw [stays]; rfl⟩
  · rw [← said, tagsOf_congr stored, deleted, tagsOf, tagsOf, List.filter_filter]
    refine congrArg _ (List.filter_congr fun tag _ => ?_)
    cases ours : tag.streamId == streamId with
    | false => rfl
    | true =>
      rw [Bool.true_and, Bool.not_eq_true', ← Bool.not_eq_true, List.any_eq_true]
      rintro ⟨gone, removed, same⟩
      obtain ⟨member, hit⟩ := List.mem_filter.mp removed
      obtain rfl : gone = u := by
        refine List.inj_on_of_nodup_map keyed.ids member present ?_
        rw [beq_iff_eq.mp same, beq_iff_eq.mp ours, sameId]
      rw [stays] at hit
      cases hit

theorem stands_serve {call : Call} (keyed : Keyed s)
    (stands : Stands s slot streamId filename category tags) (quiet : ¬Disturbs slot streamId call) :
    Stands (service.serve sqlite s call.request) slot streamId filename category tags := by
  cases @serve_change service sqlite s call.request with
  | keeps silent rows stored =>
    obtain ⟨row, said⟩ := stands
    exact ⟨by rwa [rows], by rwa [tagsOf_congr stored]⟩
  | opens user requestData asked grants rows stored =>
    refine stands_opened keyed stands rows stored fun same => quiet (.inl ?_)
    obtain ⟨session, request, authenticated⟩ := asked
    exact ⟨session, requestData, user, request, authenticated, same⟩
  | describes user row uploadedFile silent found rows stored =>
    exact stands_described keyed stands found rows stored
  | stores titleNum id body silent rows stored =>
    exact stands.update rows (tagsOf_congr stored streamId) fun u _ _ _ _ _ =>
      ⟨rfl, rfl, rfl, rfl, rfl⟩
  | deletes token titleNum id asked rows stored =>
    refine stands_deleted keyed stands rows stored fun same => quiet (.inr ⟨token, ?_⟩)
    rw [asked, same.1, same.2]

theorem stands_run (keyed : Keyed s) (stands : Stands s slot streamId filename category tags)
    {calls : List Call} (quiet : ∀ call ∈ calls, ¬Disturbs slot streamId call) :
    Stands (run (service.step sqlite) s calls) slot streamId filename category tags := by
  induction calls generalizing s with
  | nil => exact stands
  | cons call rest ih =>
    have waited : Keyed (s.wait call.elapsed) := ⟨keyed.ids, keyed.slots⟩
    have still : Stands (s.wait call.elapsed) slot streamId filename category tags :=
      ⟨stands.row, stands.tags⟩
    exact ih (keyed_serve waited call.request)
      (stands_serve waited still (quiet call (List.mem_cons_self ..)))
      fun later member => quiet later (List.mem_cons_of_mem _ member)

theorem tagsOf_described {user : SessionAuthentication} {row : UserStream}
    {uploadedFile : UploadedStream} (bound : uploadedFile.tags.all tagBinds = true) :
    tagsOf (described user row uploadedFile s) row.id = tagsOf s row.id ++ uploadedFile.tags := by
  have whole : uploadedFile.tags.takeWhile tagBinds = uploadedFile.tags :=
    List.takeWhile_eq_self_iff.mpr fun tag member => List.all_eq_true.mp bound tag member
  rw [described, tagsOf, tagsOf, tagRows, whole, List.filter_append, List.map_append]
  congr 1
  rw [List.filter_eq_self.mpr ?_, List.map_map]
  · exact List.map_id _
  · intro tag member
    obtain ⟨_, _, rfl⟩ := List.mem_map.mp member
    exact beq_self_eq_true row.id

theorem stands_finished {session : BdSession} {user : SessionAuthentication}
    {uploadedFile : UploadedStream} {id : UInt64} (fromLast : FromLast last s)
    (authenticated : session.authentication = some user)
    (finished : (exec (finishStreamUpload session uploadedFile) s).1 = .ok (.ok id)) :
    ∃ row requestData, openRow user uploadedFile.slot s.userStream = some row
      ∧ last (slotOf user uploadedFile.slot) = some requestData
      ∧ Stands (service.serve sqlite s (.finish session uploadedFile))
        (slotOf user uploadedFile.slot) row.id requestData.filename requestData.category
        (tagsOf s row.id ++ uploadedFile.tags) := by
  rcases finish_cases authenticated uploadedFile s with ⟨_, _, row, found, did⟩ | ⟨_, _, did⟩
  next =>
    have present : row ∈ s.userStream := List.mem_of_find?_eq_some found
    have hit := List.find?_some found
    rw [Bool.and_eq_true] at hit
    have there := inSlotOf_eq.mpr hit.1
    obtain ⟨requestData, latest, filename, category⟩ := fromLast row present
    rw [there] at latest
    refine ⟨row, requestData, found, latest, ?_⟩
    rw [did] at finished
    have bound : uploadedFile.tags.all tagBinds = true := by
      by_contra unbound
      rw [if_neg unbound] at finished
      cases finished
    obtain ⟨title, ownerId, _⟩ := inSlot_iff.mp hit.1
    rw [serve, did]
    refine ⟨⟨{ row with metadata := some uploadedFile.metadata }, ?_, rfl, there, filename, category, rfl⟩,
      tagsOf_described bound⟩
    refine List.mem_map.mpr ⟨row, present, ?_⟩
    rw [if_pos (by simp [named, title, ownerId])]
  next =>
    rw [did] at finished
    cases finished

structure Faithful (tags : List StreamTag) (requestData : StreamCreationRequest)
    (info : PersistedStreamInfo) : Prop where
  tags : info.tags = tags
  filename : info.filename = requestData.filename
  category : info.category = requestData.category

structure Reported (plan : QueryPlan) (s : ContentServer) (user : SessionAuthentication)
    (streamId : Nat) (tags : List StreamTag) (requestData : StreamCreationRequest) : Prop where
  byIds : ∀ fileIds infos, (exec (getStreamsByIds user.title fileIds) s).1 = .ok infos →
    ∀ info ∈ infos, info.id = streamId → Faithful tags requestData info
  byOwners : ∀ ownerIds minDateTime category itemOffset itemCount infos total,
    (exec (getStreamsByOwners plan user.title ownerIds minDateTime category itemOffset itemCount) s).1
      = .ok (infos, total) →
    ∀ info ∈ infos, info.id = streamId → Faithful tags requestData info
  listed : ∃ minDateTime infos total,
    (exec (getStreamsByOwners plan user.title [user.userId] minDateTime requestData.category 0
      maxSlotCount) s).1 = .ok (infos, total) ∧ ∃ info ∈ infos, info.id = streamId

variable {plan : QueryPlan} {title : Title}

-- what `getStreamById` finds, which changes nothing
def streamById (title : Title) (s : ContentServer) (fileId : UInt64) :
    Except Fault (Option PersistedStreamInfo) :=
  match (s.userStream.find? (named title.toU32 fileId.toNat)).filter fun _ =>
      Sqlite.bindable fileId with
  | none => .ok none
  | some u =>
    match u.data with
    | some data => .ok (some (mapPersistedStreamInfo title s u data.length))
    | none => .error (.panic .unwrapOnError)

theorem exec_getStreamById (title : Title) (fileId : UInt64) (s : ContentServer) :
    exec (getStreamById title fileId) s = (streamById title s fileId, s) := by
  rw [getStreamById, exec_bind_ok _ (exec_get s), streamById]
  dsimp only
  split
  next => rfl
  next u found => cases u.data <;> rfl

theorem mem_of_streamById {fileId : UInt64} {info : PersistedStreamInfo}
    (found : streamById title s fileId = .ok (some info)) :
    ∃ u ∈ s.userStream, ∃ size, info = mapPersistedStreamInfo title s u size := by
  rw [streamById] at found
  split at found
  next => cases found
  next u there =>
    split at found
    next data stored =>
      cases found
      exact ⟨u, List.mem_of_find?_eq_some (Option.filter_eq_some_iff.mp there).1, _, rfl⟩
    next => cases found

theorem mem_getStreamsByIds {fileIds : List UInt64} {infos : List PersistedStreamInfo}
    (ran : (exec (getStreamsByIds title fileIds) s).1 = .ok infos) {info : PersistedStreamInfo}
    (member : info ∈ infos) :
    ∃ u ∈ s.userStream, ∃ size, info = mapPersistedStreamInfo title s u size := by
  induction fileIds generalizing infos with
  | nil =>
    rw [getStreamsByIds] at ran
    cases ran
    cases member
  | cons fileId rest ih =>
    rw [getStreamsByIds, exec_bind, exec_getStreamById] at ran
    cases here : streamById title s fileId with
    | error fault =>
      rw [here] at ran
      cases ran
    | ok found =>
      rw [here] at ran
      dsimp only at ran
      rw [exec_bind] at ran
      rcases after : exec (getStreamsByIds title rest) s with ⟨outcome, left⟩
      rw [after] at ran
      cases outcome with
      | error fault => cases ran
      | ok others =>
        cases ran
        rcases List.mem_append.mp member with first | later
        next =>
          obtain rfl := Option.mem_toList.mp first
          exact mem_of_streamById here
        next => exact ih (by rw [after]) later

theorem getStreamsByIds_single (title : Title) (fileId : UInt64) (s : ContentServer) :
    (exec (getStreamsByIds title [fileId]) s).1 = (streamById title s fileId).map Option.toList := by
  rw [getStreamsByIds, exec_bind, exec_getStreamById]
  cases streamById title s fileId with
  | error fault => rfl
  | ok found => cases found <;> rfl

theorem mem_getStreamsByOwners {ownerIds : List UInt64} {minDateTime : Int} {category : UInt16}
    {itemOffset itemCount total : Nat} {infos : List PersistedStreamInfo}
    (ran : (exec (getStreamsByOwners plan title ownerIds minDateTime category itemOffset itemCount)
      s).1 = .ok (infos, total)) {info : PersistedStreamInfo} (member : info ∈ infos) :
    ∃ u ∈ s.userStream, ∃ size, info = mapPersistedStreamInfo title s u size := by
  rw [getStreamsByOwners, exec_bind_ok _ (exec_get s)] at ran
  dsimp only at ran
  split at ran
  next =>
    cases ran
    cases member
  next =>
    split at ran
    next =>
      cases ran
      obtain ⟨u, shown, rfl⟩ := List.mem_map.mp member
      have selected := (plan.perm _).mem_iff.mp (List.mem_of_mem_drop (List.mem_of_mem_take shown))
      exact ⟨u, List.mem_of_mem_filter selected, _, rfl⟩
    next => cases ran

theorem Stands.faithful_iff {requestData : StreamCreationRequest}
    (stands : Stands s slot streamId requestData.filename requestData.category tags)
    (keyed : Keyed s) {u : UserStream} (present : u ∈ s.userStream) (id : u.id = streamId)
    (given : List StreamTag) (size : Nat) :
    Faithful given requestData (mapPersistedStreamInfo title s u size) ↔ tags = given := by
  obtain ⟨⟨v, member, same, _, filename, category, _⟩, said⟩ := stands
  obtain rfl : u = v := List.inj_on_of_nodup_map keyed.ids present member (id.trans same.symm)
  constructor
  · intro faithful
    have shown : tagsOf s u.id = given := faithful.tags
    rw [← said, ← id, shown]
  · rintro rfl
    exact ⟨by rw [mapPersistedStreamInfo, id, said], filename, category⟩

theorem byOwners_iff {ownerId : UInt64} {minDateTime : Int} {category : UInt16} {u : UserStream} :
    byOwners title [ownerId] minDateTime category u = true
      ↔ u.ownerId = ownerId ∧ u.title = title.toU32 ∧ minDateTime ≤ u.modifiedAt
        ∧ u.category = category := by
  simp [byOwners, and_assoc]

theorem exec_getStreamsByOwners_all {ownerIds : List UInt64} {minDateTime : Int}
    {category : UInt16} {itemCount : Nat} {rows : List UserStream}
    (selected : s.userStream.filter (byOwners title ownerIds minDateTime category) = rows)
    (any : rows.length ≠ 0) (few : rows.length ≤ itemCount) (bound : itemCount < 2 ^ 63) :
    (exec (getStreamsByOwners plan title ownerIds minDateTime category 0 itemCount) s).1
      = .ok ((plan.visit rows).map fun u =>
          mapPersistedStreamInfo title s u ((u.data.map List.length).getD 0), rows.length) := by
  have whole := (plan.perm rows).length_eq
  rw [getStreamsByOwners, exec_bind_ok _ (exec_get s)]
  dsimp only
  rw [selected, if_neg any, if_pos ⟨by decide, bound⟩, List.drop_zero,
    List.take_of_length_le (by omega)]
  rfl

theorem Stands.listed {user : SessionAuthentication} {slotId : UInt16}
    (stands : Stands s (slotOf user slotId) streamId filename category tags)
    (within : (streamsOf user.userId user.title.toU32 s.userStream).length ≤ maxSlotCount) :
    ∃ minDateTime infos total,
      (exec (getStreamsByOwners plan user.title [user.userId] minDateTime category 0 maxSlotCount)
        s).1 = .ok (infos, total) ∧ ∃ info ∈ infos, info.id = streamId := by
  obtain ⟨⟨u, present, id, there, _, of, _⟩, _⟩ := stands
  obtain ⟨title, owner, _⟩ := inSlot_iff.mp (inSlotOf_eq.mp there)
  have selected : u ∈ s.userStream.filter (byOwners user.title [user.userId] u.modifiedAt category) :=
    List.mem_filter.mpr ⟨present, byOwners_iff.mpr ⟨owner, title, Int.le_refl _, of⟩⟩
  have few : (s.userStream.filter
      (byOwners user.title [user.userId] u.modifiedAt category)).length ≤ maxSlotCount := by
    refine Nat.le_trans ?_ within
    rw [streamsOf, ← List.countP_eq_length_filter, ← List.countP_eq_length_filter]
    refine List.countP_mono_left fun v _ hit => ?_
    obtain ⟨owner, title, _⟩ := byOwners_iff.mp hit
    simp [owner, title]
  have ran := @exec_getStreamsByOwners_all s plan user.title _ _ _ _ _ rfl
    (List.length_pos_of_mem selected).ne' few (by decide)
  have shown := (plan.perm _).mem_iff.mpr selected
  exact ⟨u.modifiedAt, _, _, ran, _, List.mem_map_of_mem shown, id⟩

theorem Stands.reported_iff {user : SessionAuthentication} {slotId : UInt16}
    {requestData : StreamCreationRequest} (keyed : Keyed s)
    (stands : Stands s (slotOf user slotId) streamId requestData.filename requestData.category tags)
    (within : (streamsOf user.userId user.title.toU32 s.userStream).length ≤ maxSlotCount)
    (given : List StreamTag) :
    Reported plan s user streamId given requestData ↔ tags = given := by
  have shows (u : UserStream) (present : u ∈ s.userStream) (size : Nat)
      (id : (mapPersistedStreamInfo user.title s u size).id = streamId) :=
    @Stands.faithful_iff s _ _ _ user.title requestData stands keyed u present id given size
  constructor
  · intro reported
    obtain ⟨minDateTime, infos, total, ran, info, member, id⟩ := reported.listed
    have faithful := reported.byOwners _ _ _ _ _ infos total ran info member id
    obtain ⟨u, present, size, rfl⟩ := mem_getStreamsByOwners ran member
    exact (shows u present size id).mp faithful
  · intro same
    refine ⟨?_, ?_, stands.listed within⟩
    · intro fileIds infos ran info member id
      obtain ⟨u, present, size, rfl⟩ := mem_getStreamsByIds ran member
      exact (shows u present size id).mpr same
    · intro ownerIds minDateTime category itemOffset itemCount infos total ran info member id
      obtain ⟨u, present, size, rfl⟩ := mem_getStreamsByOwners ran member
      exact (shows u present size id).mpr same

theorem Keyed.find_named (keyed : Keyed s) {u : UserStream} (present : u ∈ s.userStream) :
    s.userStream.find? (named u.title u.id) = some u := by
  have hit : named u.title u.id u = true := by simp [named]
  cases looked : s.userStream.find? (named u.title u.id) with
  | none => exact absurd hit (List.find?_eq_none.mp looked u present)
  | some v =>
    have names := (named_iff.mp (List.find?_some looked)).2
    rw [List.inj_on_of_nodup_map keyed.ids (List.mem_of_find?_eq_some looked) present names]

theorem Keyed.streamById (keyed : Keyed s) {u : UserStream} {fileId : UInt64}
    (present : u ∈ s.userStream) (titled : u.title = title.toU32) (id : fileId.toNat = u.id)
    (bound : Sqlite.bindable fileId = true) :
    streamById title s fileId
      = u.data.elim (.error (.panic .unwrapOnError)) fun data =>
          .ok (some (mapPersistedStreamInfo title s u data.length)) := by
  have found := keyed.find_named present
  rw [titled, ← id] at found
  have passes : (some u).filter (fun _ => Sqlite.bindable fileId) = some u :=
    Option.filter_some_pos bound
  simp only [DwUserContentStreamingService.streamById, found, passes]
  cases u.data with
  | some data => rfl
  | none => rfl

theorem Stands.answers_iff {user : SessionAuthentication} {slotId : UInt16} {fileId : UInt64}
    (keyed : Keyed s) (stands : Stands s (slotOf user slotId) streamId filename category tags)
    (id : fileId.toNat = streamId) (bound : Sqlite.bindable fileId = true) :
    (∃ infos, (exec (getStreamsByIds user.title [fileId]) s).1 = .ok infos)
      ↔ ∃ u ∈ s.userStream, u.id = streamId ∧ u.data.isSome = true := by
  obtain ⟨⟨u, present, sameId, there, _⟩, _⟩ := stands
  obtain ⟨title, _, _⟩ := inSlot_iff.mp (inSlotOf_eq.mp there)
  rw [getStreamsByIds_single, keyed.streamById present title (id.trans sameId.symm) bound]
  constructor
  · intro answers
    obtain ⟨infos, ran⟩ := answers
    refine ⟨u, present, sameId, ?_⟩
    cases stored : u.data with
    | some data => rfl
    | none =>
      rw [stored] at ran
      cases ran
  · intro answers
    obtain ⟨v, member, names, stored⟩ := answers
    rw [List.inj_on_of_nodup_map keyed.ids member present (names.trans sameId.symm)] at stored
    obtain ⟨data, there⟩ := Option.isSome_iff_exists.mp stored
    exact ⟨_, by rw [there]; rfl⟩

theorem within_run
    (within : ∀ userId titleNum, (streamsOf userId titleNum s.userStream).length ≤ maxSlotCount)
    (calls : List Call) (userId : UInt64) (titleNum : UInt32) :
    (streamsOf userId titleNum (run (service.step sqlite) s calls).userStream).length
      ≤ maxSlotCount := by
  refine @run_keeps _ _ (service.step sqlite) (fun s => ∀ userId titleNum,
    (streamsOf userId titleNum s.userStream).length ≤ maxSlotCount) ?_ s calls within userId titleNum
  intro s call within
  exact @within_serve service sqlite (s.wait call.elapsed) within call.request

/--
When a finished upload is accepted, its stream is reported with the tags it gave
and under the names of the last upload to the slot, until the slot is asked for
again or the stream removed, exactly if the row had no tags before. The query by
ids answers once the data is there.
-/
theorem finished_reported_iff (plan : QueryPlan) (service : DwUserContentStreamingService)
    (sqlite : Sqlite) (calls : List Call) (elapsed : Nat) (session : BdSession)
    (user : SessionAuthentication) (uploadedFile : UploadedStream) (id : UInt64)
    (authenticated : session.authentication = some user)
    (finished : (exec (finishStreamUpload session uploadedFile)
      ((run (service.step sqlite) .new calls).wait elapsed)).1 = .ok (.ok id)) :
    ∃ row requestData,
      openRow user uploadedFile.slot (run (service.step sqlite) .new calls).userStream = some row
      ∧ lastUpload service sqlite (slotOf user uploadedFile.slot) .new none calls = some requestData
      ∧ ∀ later : List Call,
        (∀ call ∈ later, ¬Disturbs (slotOf user uploadedFile.slot) row.id call) →
        let after := run (service.step sqlite) .new
          (calls ++ ⟨elapsed, .finish session uploadedFile⟩ :: later)
        (Reported plan after user row.id uploadedFile.tags requestData
            ↔ tagsOf (run (service.step sqlite) .new calls) row.id = [])
          ∧ ∀ fileId, fileId.toNat = row.id → Sqlite.bindable fileId = true →
            ((∃ infos, (exec (getStreamsByIds user.title [fileId]) after).1 = .ok infos)
              ↔ ∃ u ∈ after.userStream, u.id = row.id ∧ u.data.isSome = true) := by
  have traced := @traced_run service sqlite _ _ traced_new calls
  obtain ⟨row, requestData, found, latest, stands⟩ :=
    @stands_finished service sqlite _ _ _ _ _ _ (traced.wait elapsed).fromLast authenticated finished
  refine ⟨row, requestData, found, latest, fun later quiet => ?_⟩
  have whole : run (service.step sqlite) .new (calls ++ ⟨elapsed, .finish session uploadedFile⟩ :: later)
      = run (service.step sqlite) (service.serve sqlite
          ((run (service.step sqlite) .new calls).wait elapsed) (.finish session uploadedFile)) later := by
    rw [run_append]
    rfl
  have keyed := (@traced_run service sqlite _ _ traced_new
    (calls ++ ⟨elapsed, .finish session uploadedFile⟩ :: later)).keyed
  have within := @within_run service sqlite .new (fun _ _ => Nat.zero_le _)
    (calls ++ ⟨elapsed, .finish session uploadedFile⟩ :: later) user.userId user.title.toU32
  have kept := @stands_run service sqlite _ _ _ _ _ _
    (keyed_serve (traced.wait elapsed).keyed _) stands _ quiet
  rw [← whole] at kept
  constructor
  · rw [kept.reported_iff keyed within]
    exact List.append_left_eq_self
  · exact fun fileId same bound => kept.answers_iff keyed same bound

def inserted : QueryPlan := ⟨id, fun _ => .refl _⟩

def finishedWith (tag : UInt64) : UploadedStream :=
  { filename := "clip", slot := 1, serverType := 1, serverIndex := "", fileSize := 1, category := 0
    metadata := [], tags := [⟨tag, 0⟩], clientLocale := "" }

def cycle (now : Int) (tag : UInt64) : List Call :=
  [⟨0, .upload first clip⟩, ⟨0, .put (claimsFor 7 .t6Pc 1 .create now) Title.t6Pc.toU32 1 [1]⟩,
    ⟨0, .finish first (finishedWith tag)⟩]

theorem replaced_keeps_tags :
    (exec (finishStreamUpload first (finishedWith 6))
        ((run (server.step ⟨true⟩) .new (cycle 0 5 ++ (cycle 0 6).take 2)).wait 0)).1 = .ok (.ok 1)
      ∧ (exec (getStreamsByIds .t6Pc [1])
        (run (server.step ⟨true⟩) .new (cycle 0 5 ++ cycle 0 6))).1
        = .ok [⟨1, "clip", .t6Pc, 1, 0, 0, 7, "first", [], 0, 1, [⟨5, 0⟩, ⟨6, 0⟩]⟩]
      ∧ ¬Reported inserted (run (server.step ⟨true⟩) .new (cycle 0 5 ++ cycle 0 6))
        ⟨7, "first", [], .t6Pc⟩ 1 (finishedWith 6).tags clip := by
  have ran : (exec (getStreamsByIds .t6Pc [1])
      (run (server.step ⟨true⟩) .new (cycle 0 5 ++ cycle 0 6))).1
      = .ok [⟨1, "clip", .t6Pc, 1, 0, 0, 7, "first", [], 0, 1, [⟨5, 0⟩, ⟨6, 0⟩]⟩] := by decide +kernel
  refine ⟨by decide +kernel, ran, fun reported => ?_⟩
  have tags := (reported.byIds [1] _ ran _ (List.mem_singleton_self _) rfl).tags
  exact absurd tags (by decide)

theorem finished_reported_first :
    Reported inserted (run (server.step ⟨true⟩) .new (cycle 0 5)) ⟨7, "first", [], .t6Pc⟩ 1
      [⟨5, 0⟩] clip := by
  obtain ⟨row, requestData, found, latest, all⟩ := finished_reported_iff inserted server ⟨true⟩
    ((cycle 0 5).take 2) 0 first ⟨7, "first", [], .t6Pc⟩ (finishedWith 5) 1 rfl (by decide +kernel)
  have opened : openRow ⟨7, "first", [], .t6Pc⟩ 1
      (run (server.step ⟨true⟩) .new ((cycle 0 5).take 2)).userStream
      = some ⟨1, "clip", Title.t6Pc.toU32, 0, 0, 7, none, 0, 1, some [1]⟩ := by decide +kernel
  have asked : lastUpload server ⟨true⟩ (slotOf ⟨7, "first", [], .t6Pc⟩ 1) .new none
      ((cycle 0 5).take 2) = some clip := by decide +kernel
  obtain rfl := Option.some.inj (opened.symm.trans found)
  obtain rfl := Option.some.inj (asked.symm.trans latest)
  exact (all [] (List.forall_mem_nil _)).1.mpr (by decide +kernel)

end DwUserContentStreamingService

end BitDemon
