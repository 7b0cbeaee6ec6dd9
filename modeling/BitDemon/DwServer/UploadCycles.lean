import BitDemon.DwServer.StreamLookups

set_option autoImplicit false

/-!
# The cycle of an upload

A request for an upload opens its slot, with neither data nor metadata. Each of
the two is accepted once, until the slot is opened again or its stream removed.
-/

namespace BitDemon

open Machine Runs

structure Cycle where
  streamId : Nat
  data : Option (List UInt8)
  metadata : Option (List UInt8)
  deriving DecidableEq

namespace Cycle

structure Happened where
  opened : Prop
  stored : Nat → List UInt8 → Prop
  finished : Prop
  removed : Nat → Prop

inductive Move (happened : Happened) : Option Cycle → Option Cycle → Prop where
  | keeps (cycle : Option Cycle) (unopened : ¬happened.opened)
    (unstored : ∀ id body, ¬happened.stored id body) (unfinished : ¬happened.finished) :
    Move happened cycle cycle
  | opens (cycle : Option Cycle) (id : Nat) (opened : happened.opened)
    (unstored : ∀ id body, ¬happened.stored id body) (unfinished : ¬happened.finished) :
    Move happened cycle (some ⟨id, none, none⟩)
  | stores (id : Nat) (body : List UInt8) (metadata : Option (List UInt8))
    (unopened : ¬happened.opened)
    (stored : ∀ other given, happened.stored other given ↔ other = id ∧ given = body)
    (unfinished : ¬happened.finished) :
    Move happened (some ⟨id, none, metadata⟩) (some ⟨id, some body, metadata⟩)
  -- a panic over the tags describes the stream too
  | describes (id : Nat) (data : Option (List UInt8)) (metadata : List UInt8)
    (unopened : ¬happened.opened) (unstored : ∀ id body, ¬happened.stored id body) :
    Move happened (some ⟨id, data, none⟩) (some ⟨id, data, some metadata⟩)
  | removes (cycle : Cycle) (removed : happened.removed cycle.streamId)
    (unopened : ¬happened.opened) (unstored : ∀ id body, ¬happened.stored id body)
    (unfinished : ¬happened.finished) : Move happened (some cycle) none

theorem Move.congr {this that : Happened} {before after : Option Cycle}
    (move : Move this before after) (opened : that.opened ↔ this.opened)
    (stored : ∀ id body, that.stored id body ↔ this.stored id body)
    (finished : that.finished ↔ this.finished) (removed : ∀ id, that.removed id ↔ this.removed id) :
    Move that before after := by
  have quiet (unstored : ∀ id body, ¬this.stored id body) (id : Nat) (body : List UInt8) :
      ¬that.stored id body := fun did => unstored id body ((stored id body).mp did)
  cases move with
  | keeps _ unopened unstored unfinished =>
    exact .keeps _ (mt opened.mp unopened) (quiet unstored) (mt finished.mp unfinished)
  | opens _ id did unstored unfinished =>
    exact .opens _ id (opened.mpr did) (quiet unstored) (mt finished.mp unfinished)
  | stores id body metadata unopened did unfinished =>
    exact .stores id body metadata (mt opened.mp unopened)
      (fun other given => (stored other given).trans (did other given)) (mt finished.mp unfinished)
  | describes id data metadata unopened unstored =>
    exact .describes id data metadata (mt opened.mp unopened) (quiet unstored)
  | removes cycle did unopened unstored unfinished =>
    exact .removes cycle ((removed _).mpr did) (mt opened.mp unopened) (quiet unstored)
      (mt finished.mp unfinished)

end Cycle

def UserStream.cycle (u : UserStream) : Cycle := ⟨u.id, u.data, u.metadata⟩

namespace DwUserContentStreamingService

-- a null is no data
def getStreamData (title : Title) (streamId : Nat) : Fallible ContentServer (Option (List UInt8)) := do
  let server ← get
  match server.userStream.find? (named title.toU32 streamId) with
  | some u => pure u.data
  | none => pure none

def cycleOf (slot : StreamSlot) (rows : List UserStream) : Option Cycle :=
  (Rows.find inSlotOf slot rows).map UserStream.cycle

variable (service : DwUserContentStreamingService) (sqlite : Sqlite)

structure PutSucceeds (s : ContentServer) (request : Request) (slot : StreamSlot) (streamId : Nat)
    (body : List UInt8) : Prop where
  put : ∃ token titleNum, request = .put token titleNum streamId body
    ∧ (exec (service.uploadUserFile token titleNum streamId body) s).1 = .ok (.ok ())
    ∧ ∃ u ∈ s.userStream, named titleNum streamId u = true ∧ inSlotOf u = slot

structure FinishSucceeds (s : ContentServer) (request : Request) (slot : StreamSlot) : Prop where
  finish : ∃ session user uploadedFile id, request = .finish session uploadedFile
    ∧ session.authentication = some user ∧ slotOf user uploadedFile.slot = slot
    ∧ (exec (finishStreamUpload session uploadedFile) s).1 = .ok (.ok id)

structure UploadGranted (s : ContentServer) (request : Request) (slot : StreamSlot) : Prop where
  upload : ∃ session user requestData url, request = .upload session requestData
    ∧ session.authentication = some user ∧ slotOf user requestData.slot = slot
    ∧ (exec (service.requestStreamUpload session requestData) s).1 = .ok (.ok url)

structure DeleteSucceeds (s : ContentServer) (request : Request) (slot : StreamSlot)
    (streamId : Nat) : Prop where
  delete : ∃ token titleNum, request = .delete token titleNum streamId
    ∧ (exec (service.deleteUserFile sqlite token titleNum streamId) s).1 = .ok (.ok ())
    ∧ ∃ u ∈ s.userStream, named titleNum streamId u = true ∧ inSlotOf u = slot

def asSeen (s : ContentServer) (request : Request) (slot : StreamSlot) : Cycle.Happened where
  opened := UploadGranted service s request slot
  stored := PutSucceeds service s request slot
  finished := FinishSucceeds s request slot
  removed := DeleteSucceeds service sqlite s request slot

variable {service sqlite} {s t : ContentServer} {slot : StreamSlot} {u : UserStream}

theorem find_updateWhere {change : UserStream → UserStream}
    (slots : ∀ u, inSlotOf (change u) = inSlotOf u) (test : UserStream → Bool)
    (rows : List UserStream) :
    Rows.find inSlotOf slot (updateWhere test change rows)
      = (Rows.find inSlotOf slot rows).map fun u => if test u then change u else u := by
  rw [updateWhere, Rows.find, List.find?_map, Rows.find]
  congr 2
  funext u
  dsimp only [Function.comp]
  split
  next => rw [slots]
  next => rfl

theorem Keyed.find_slot (keyed : Keyed s) (present : u ∈ s.userStream) (there : inSlotOf u = slot) :
    Rows.find inSlotOf slot s.userStream = some u :=
  keyed.slots.find_iff.mpr ⟨present, there⟩

theorem cycleOf_update (keyed : Keyed s) {row : UserStream} (present : row ∈ s.userStream)
    {test : UserStream → Bool} {change : UserStream → UserStream}
    (only : ∀ u ∈ s.userStream, test u = true ↔ u = row)
    (slots : ∀ u, inSlotOf (change u) = inSlotOf u) :
    cycleOf slot (updateWhere test change s.userStream)
      = if inSlotOf row = slot then some (change row).cycle else cycleOf slot s.userStream := by
  rw [cycleOf, find_updateWhere slots]
  split
  next there =>
    rw [keyed.find_slot present there, Option.map_some, Option.map_some,
      if_pos ((only row present).mpr rfl)]
  next elsewhere =>
    rw [cycleOf]
    cases found : Rows.find inSlotOf slot s.userStream with
    | none => rfl
    | some u =>
      obtain ⟨member, same⟩ := keyed.slots.find_iff.mp found
      have other : ¬test u = true := by
        rw [only u member]
        rintro rfl
        exact elsewhere same
      rw [Option.map_some, Option.map_some, if_neg other, Option.map_some]

theorem cycleOf_append (row : UserStream) (rows : List UserStream)
    (free : ∀ u ∈ rows, inSlotOf u ≠ inSlotOf row) :
    cycleOf slot (rows ++ [row])
      = if inSlotOf row = slot then some row.cycle else cycleOf slot rows := by
  rw [cycleOf, Rows.find, List.find?_append]
  split
  next there =>
    have vacant : rows.find? (fun u => decide (inSlotOf u = slot)) = none :=
      List.find?_eq_none.mpr fun u member => by
        rw [← there, decide_eq_true_eq]
        exact free u member
    rw [vacant, Option.none_or, List.find?_cons, decide_eq_true there]
    rfl
  next elsewhere =>
    rw [List.find?_cons, decide_eq_false elsewhere, List.find?_nil, Option.or_none]
    rfl

theorem named_only (keyed : Keyed s) (present : u ∈ s.userStream) {titleNum : UInt32} {streamId : Nat}
    (hit : named titleNum streamId u = true) :
    ∀ v ∈ s.userStream, named titleNum streamId v = true ↔ v = u := by
  intro v member
  constructor
  · intro also
    have same := (named_iff.mp also).2.trans (named_iff.mp hit).2.symm
    exact List.inj_on_of_nodup_map keyed.ids member present same
  · rintro rfl
    exact hit

theorem cycleOf_opened (keyed : Keyed s) (user : SessionAuthentication)
    (requestData : StreamCreationRequest) :
    cycleOf slot (opened user requestData s)
      = if slotOf user requestData.slot = slot then some ⟨openedId user requestData s, none, none⟩
        else cycleOf slot s.userStream := by
  rw [opened, openedId]
  cases taken : slotRow user requestData.slot s.userStream with
  | some existing =>
    have present := List.mem_of_find?_eq_some taken
    have there := inSlotOf_eq.mpr (List.find?_some taken)
    have only : ∀ u ∈ s.userStream, (u.id == existing.id) = true ↔ u = existing := by
      intro u member
      rw [beq_iff_eq]
      constructor
      · exact List.inj_on_of_nodup_map keyed.ids member present
      · exact fun same => congrArg UserStream.id same
    have after : cycleOf slot (updateWhere (fun u => u.id == existing.id)
          (reopen requestData.filename requestData.category s.now) s.userStream)
        = if inSlotOf existing = slot then some ⟨existing.id, none, none⟩
          else cycleOf slot s.userStream := cycleOf_update keyed present only fun u => rfl
    rw [there] at after
    exact after
  | none =>
    have free : ∀ u ∈ s.userStream, inSlotOf u ≠ slotOf user requestData.slot := by
      intro u member there
      exact List.find?_eq_none.mp taken u member (inSlotOf_eq.mp there)
    exact cycleOf_append _ _ free

theorem move_upload (keyed : Keyed s) (session : BdSession) (requestData : StreamCreationRequest)
    (slot : StreamSlot) :
    Cycle.Move (asSeen service sqlite s (.upload session requestData) slot)
      (cycleOf slot s.userStream)
      (cycleOf slot (service.serve sqlite s (.upload session requestData)).userStream) := by
  have unstored : ∀ id body, ¬(asSeen service sqlite s (.upload session requestData) slot).stored
      id body := by
    rintro id body ⟨_, _, ⟨⟩, _⟩
  have unfinished : ¬(asSeen service sqlite s (.upload session requestData) slot).finished := by
    rintro ⟨_, _, _, _, ⟨⟩, _⟩
  have refused (fails : ∀ user url, session.authentication = some user →
      slotOf user requestData.slot = slot →
      (exec (service.requestStreamUpload session requestData) s).1 ≠ .ok (.ok url)) :
      ¬(asSeen service sqlite s (.upload session requestData) slot).opened := by
    rintro ⟨_, user, _, url, ⟨⟩, authenticated, ours, granted⟩
    exact fails user url authenticated ours granted
  cases authenticated : session.authentication with
  | none =>
    obtain ⟨same, fails⟩ := @exec_upload_unauthenticated service _ authenticated requestData s
    rw [serve, same]
    exact .keeps _ (refused fun _ url _ _ => fails url) unstored unfinished
  | some user =>
    rcases @upload_cases service _ _ authenticated requestData s with ⟨_, _, _, url, _, did⟩
      | ⟨_, _, did⟩ | ⟨_, _, error, did⟩
    next =>
      rw [serve, did]
      dsimp only
      rw [cycleOf_opened keyed]
      split
      next ours =>
        have granted : UploadGranted service s (.upload session requestData) slot :=
          ⟨session, user, requestData, url, rfl, authenticated, ours, by rw [did]⟩
        exact .opens _ _ granted unstored unfinished
      next elsewhere =>
        refine .keeps _ (refused fun other _ signed ours => absurd ?_ elsewhere) unstored unfinished
        rw [authenticated] at signed
        obtain rfl := Option.some.inj signed
        exact ours
    next =>
      rw [serve, did]
      refine .keeps _ (refused fun _ url _ _ granted => ?_) unstored unfinished
      rw [did] at granted
      cases granted
    next =>
      rw [serve, did]
      refine .keeps _ (refused fun _ url _ _ granted => ?_) unstored unfinished
      rw [did] at granted
      cases granted

theorem move_finish (keyed : Keyed s) (session : BdSession) (uploadedFile : UploadedStream)
    (slot : StreamSlot) :
    Cycle.Move (asSeen service sqlite s (.finish session uploadedFile) slot)
      (cycleOf slot s.userStream)
      (cycleOf slot (service.serve sqlite s (.finish session uploadedFile)).userStream) := by
  have unstored : ∀ id body,
      ¬(asSeen service sqlite s (.finish session uploadedFile) slot).stored id body := by
    rintro id body ⟨_, _, ⟨⟩, _⟩
  have unopened : ¬(asSeen service sqlite s (.finish session uploadedFile) slot).opened := by
    rintro ⟨_, _, _, _, ⟨⟩, _⟩
  have refused (fails : ∀ user id, session.authentication = some user →
      slotOf user uploadedFile.slot = slot →
      (exec (finishStreamUpload session uploadedFile) s).1 ≠ .ok (.ok id)) :
      ¬(asSeen service sqlite s (.finish session uploadedFile) slot).finished := by
    rintro ⟨_, user, _, id, ⟨⟩, authenticated, ours, finished⟩
    exact fails user id authenticated ours finished
  cases authenticated : session.authentication with
  | none =>
    rw [serve, (exec_finish_unauthenticated authenticated uploadedFile s).1]
    refine .keeps _ unopened unstored (refused fun user id signed => ?_)
    rw [authenticated] at signed
    cases signed
  | some user =>
    rcases finish_cases authenticated uploadedFile s with ⟨_, _, row, found, did⟩ | ⟨_, error, did⟩
    next =>
      have present := List.mem_of_find?_eq_some found
      have hit := List.find?_some found
      rw [Bool.and_eq_true, Option.isNone_iff_eq_none] at hit
      have there := inSlotOf_eq.mpr hit.1
      obtain ⟨titled, owner, _⟩ := inSlot_iff.mp hit.1
      have names : named user.title.toU32 row.id row = true := by simp [named, titled]
      have only : ∀ u ∈ s.userStream,
          (named user.title.toU32 row.id u && u.ownerId == user.userId) = true ↔ u = row := by
        intro u member
        rw [Bool.and_eq_true, named_only keyed present names u member, and_iff_left_iff_imp]
        rintro rfl
        exact beq_iff_eq.mpr owner
      have after : cycleOf slot (described user row uploadedFile s).userStream
          = if inSlotOf row = slot then some ⟨row.id, row.data, some uploadedFile.metadata⟩
            else cycleOf slot s.userStream := cycleOf_update keyed present only fun u => rfl
      rw [serve, did]
      dsimp only
      rw [after]
      split
      next ours =>
        rw [cycleOf, keyed.find_slot present ours, Option.map_some, UserStream.cycle, hit.2]
        exact .describes row.id row.data uploadedFile.metadata unopened unstored
      next elsewhere =>
        refine .keeps _ unopened unstored (refused fun other id signed ours => absurd ?_ elsewhere)
        rw [authenticated] at signed
        obtain rfl := Option.some.inj signed
        exact there.trans ours
    next =>
      rw [serve, did]
      refine .keeps _ unopened unstored (refused fun other id signed ours finished => ?_)
      rw [did] at finished
      cases finished

theorem move_put (keyed : Keyed s) (token : UserFileClaims) (titleNum : UInt32) (streamId : Nat)
    (body : List UInt8) (slot : StreamSlot) :
    Cycle.Move (asSeen service sqlite s (.put token titleNum streamId body) slot)
      (cycleOf slot s.userStream)
      (cycleOf slot (service.serve sqlite s (.put token titleNum streamId body)).userStream) := by
  have unopened : ¬(asSeen service sqlite s (.put token titleNum streamId body) slot).opened := by
    rintro ⟨_, _, _, _, ⟨⟩, _⟩
  have unfinished : ¬(asSeen service sqlite s (.put token titleNum streamId body) slot).finished := by
    rintro ⟨_, _, _, _, ⟨⟩, _⟩
  rcases @put_cases service token titleNum streamId body s with ⟨stores, did⟩ | ⟨_, status, did⟩
  next =>
    obtain ⟨row, present, hit⟩ := List.any_eq_true.mp stores.pending
    rw [Bool.and_eq_true, Option.isNone_iff_eq_none] at hit
    have only := named_only keyed present hit.1
    have after : cycleOf slot (withData titleNum streamId body s.userStream)
        = if inSlotOf row = slot then some ⟨row.id, some body, row.metadata⟩
          else cycleOf slot s.userStream := cycleOf_update keyed present only fun u => rfl
    rw [serve, did]
    dsimp only
    rw [after]
    split
    next ours =>
      have id : row.id = streamId := (named_iff.mp hit.1).2
      rw [cycleOf, keyed.find_slot present ours, Option.map_some, UserStream.cycle, hit.2, id]
      refine .stores streamId body row.metadata unopened (fun other given => ?_) unfinished
      constructor
      · rintro ⟨_, _, same, _⟩
        cases same
        exact ⟨rfl, rfl⟩
      · rintro ⟨rfl, rfl⟩
        exact ⟨token, titleNum, rfl, by rw [did], row, present, hit.1, ours⟩
    next elsewhere =>
      refine .keeps _ unopened ?_ unfinished
      rintro id given ⟨_, _, same, _, u, member, names, ours⟩
      cases same
      rw [(only u member).mp names] at ours
      exact elsewhere ours
  next =>
    rw [serve, did]
    refine .keeps _ unopened ?_ unfinished
    rintro id given ⟨_, _, same, answered, _⟩
    cases same
    rw [did] at answered
    cases answered

theorem move_delete (keyed : Keyed s) (token : UserFileClaims) (titleNum : UInt32) (streamId : Nat)
    (slot : StreamSlot) :
    Cycle.Move (asSeen service sqlite s (.delete token titleNum streamId) slot)
      (cycleOf slot s.userStream)
      (cycleOf slot (service.serve sqlite s (.delete token titleNum streamId)).userStream) := by
  have unstored : ∀ id body, ¬(asSeen service sqlite s (.delete token titleNum streamId) slot).stored
      id body := by
    rintro id body ⟨_, _, ⟨⟩, _⟩
  have unopened : ¬(asSeen service sqlite s (.delete token titleNum streamId) slot).opened := by
    rintro ⟨_, _, _, _, ⟨⟩, _⟩
  have unfinished : ¬(asSeen service sqlite s (.delete token titleNum streamId) slot).finished := by
    rintro ⟨_, _, _, _, ⟨⟩, _⟩
  rcases @delete_cases service sqlite token titleNum streamId s with ⟨deletes, did⟩ | ⟨_, status, did⟩
  next =>
    rw [serve, did]
    dsimp only [deleted, without]
    rw [cycleOf, cycleOf, keyed.slots.find_filter]
    cases found : Rows.find inSlotOf slot s.userStream with
    | none => exact .keeps _ unopened unstored unfinished
    | some u =>
      obtain ⟨present, ours⟩ := keyed.slots.find_iff.mp found
      cases hit : named titleNum streamId u with
      | true =>
        rw [Option.filter_some, hit, if_neg (by simp)]
        refine .removes u.cycle ?_ unopened unstored unfinished
        have same : u.cycle.streamId = streamId := (named_iff.mp hit).2
        rw [same]
        exact ⟨token, titleNum, rfl, by rw [did], u, present, hit, ours⟩
      | false =>
        rw [Option.filter_some, hit, if_pos (by simp)]
        exact .keeps _ unopened unstored unfinished
  next =>
    rw [serve, did]
    exact .keeps _ unopened unstored unfinished

theorem move_serve (keyed : Keyed s) (request : Request) (slot : StreamSlot) :
    Cycle.Move (asSeen service sqlite s request slot) (cycleOf slot s.userStream)
      (cycleOf slot (service.serve sqlite s request).userStream) := by
  cases request with
  | upload session requestData => exact move_upload keyed session requestData slot
  | finish session uploadedFile => exact move_finish keyed session uploadedFile slot
  | deletion session slotId =>
    obtain ⟨issued, did⟩ := @deletion_rows service sqlite session slotId s
    rw [did]
    refine .keeps _ ?_ ?_ ?_
    · rintro ⟨_, _, _, _, ⟨⟩, _⟩
    · rintro id body ⟨_, _, ⟨⟩, _⟩
    · rintro ⟨_, _, _, _, ⟨⟩, _⟩
  | put token titleNum streamId body => exact move_put keyed token titleNum streamId body slot
  | delete token titleNum streamId => exact move_delete keyed token titleNum streamId slot

namespace UploadServer

variable (service sqlite)

-- a request, or the step of one under way that creates the stream
def Reopens (t : UploadServer) (action : UploadAction) (slot : StreamSlot) : Prop :=
  (∃ call, action = .serve call
      ∧ UploadGranted service (t.content.wait call.elapsed) call.request slot)
    ∨ ∃ id call, action = .advance id ∧ t.calls.get id = some call ∧ call.phase = .creating
      ∧ slotOf call.user call.requestData.slot = slot

def Puts (t : UploadServer) (action : UploadAction) (slot : StreamSlot) (streamId : Nat)
    (body : List UInt8) : Prop :=
  ∃ call, action = .serve call
    ∧ PutSucceeds service (t.content.wait call.elapsed) call.request slot streamId body

def Finishes (t : UploadServer) (action : UploadAction) (slot : StreamSlot) : Prop :=
  ∃ call, action = .serve call ∧ FinishSucceeds (t.content.wait call.elapsed) call.request slot

def Removes (t : UploadServer) (action : UploadAction) (slot : StreamSlot) (streamId : Nat) : Prop :=
  ∃ call, action = .serve call
    ∧ DeleteSucceeds service sqlite (t.content.wait call.elapsed) call.request slot streamId

def happened (t : UploadServer) (action : UploadAction) (slot : StreamSlot) : Cycle.Happened where
  opened := Reopens service t action slot
  stored := Puts service t action slot
  finished := Finishes t action slot
  removed := Removes service sqlite t action slot

variable {service sqlite} {t : UploadServer} {action : UploadAction}

theorem happened_serve (t : UploadServer) (call : Call) {before after : Option Cycle}
    (move : Cycle.Move (asSeen service sqlite (t.content.wait call.elapsed) call.request slot) before
      after) : Cycle.Move (happened service sqlite t (.serve call) slot) before after := by
  refine move.congr ⟨?_, fun granted => .inl ⟨call, rfl, granted⟩⟩
    (fun id body => ⟨?_, fun put => ⟨call, rfl, put⟩⟩) ⟨?_, fun finish => ⟨call, rfl, finish⟩⟩
    fun id => ⟨?_, fun delete => ⟨call, rfl, delete⟩⟩
  · rintro (⟨_, ⟨⟩, granted⟩ | ⟨_, _, ⟨⟩, _⟩)
    exact granted
  · rintro ⟨_, ⟨⟩, put⟩
    exact put
  · rintro ⟨_, ⟨⟩, finish⟩
    exact finish
  · rintro ⟨_, ⟨⟩, delete⟩
    exact delete

theorem move_advance (steady : Steady t) (id : Nat) (slot : StreamSlot) :
    Cycle.Move (happened service sqlite t (.advance id) slot) (cycleOf slot t.content.userStream)
      (cycleOf slot (step service sqlite t (.advance id)).content.userStream) := by
  have unstored : ∀ other body,
      ¬(happened service sqlite t (.advance id) slot).stored other body := by
    rintro other body ⟨_, ⟨⟩, _⟩
  have unfinished : ¬(happened service sqlite t (.advance id) slot).finished := by
    rintro ⟨_, ⟨⟩, _⟩
  have apart (other : ∀ call, t.calls.get id = some call → call.phase = .creating →
      slotOf call.user call.requestData.slot ≠ slot) :
      ¬(happened service sqlite t (.advance id) slot).opened := by
    rintro (⟨_, ⟨⟩, _⟩ | ⟨_, call, ⟨⟩, under, creating, ours⟩)
    exact other call under creating ours
  cases under : t.calls.get id with
  | none =>
    rw [step_advance_none under]
    refine .keeps _ (apart fun call there => ?_) unstored unfinished
    rw [under] at there
    cases there
  | some call =>
    have phased (phase : call.phase ≠ .creating) :
        ¬(happened service sqlite t (.advance id) slot).opened := by
      refine apart fun other there creating => absurd ?_ phase
      rw [under] at there
      obtain rfl := Option.some.inj there
      exact creating
    rw [step_advance under]
    cases phase : call.phase with
    | counting =>
      rw [advance_counting phase]
      exact .keeps _ (phased (by rw [phase]; simp)) unstored unfinished
    | creating =>
      obtain ⟨_, _, did⟩ :=
        @advance_creating service _ phase (steady.sound id call under phase) t.content
      rw [did]
      dsimp only
      rw [cycleOf_opened steady.keyed]
      split
      next ours => exact .opens _ _ (.inr ⟨id, call, rfl, under, phase, ours⟩) unstored unfinished
      next elsewhere =>
        refine .keeps _ (apart fun other there _ => ?_) unstored unfinished
        rw [under] at there
        obtain rfl := Option.some.inj there
        exact elsewhere
    | granting streamId =>
      obtain ⟨_, _, did⟩ := @advance_granting service _ _ phase t.content
      rw [did]
      exact .keeps _ (phased (by rw [phase]; simp)) unstored unfinished

theorem move_step (steady : Steady t) (action : UploadAction) (slot : StreamSlot) :
    Cycle.Move (happened service sqlite t action slot) (cycleOf slot t.content.userStream)
      (cycleOf slot (step service sqlite t action).content.userStream) := by
  cases action with
  | serve call =>
    have waited : Keyed (t.content.wait call.elapsed) := ⟨steady.keyed.ids, steady.keyed.slots⟩
    exact happened_serve t call (move_serve waited call.request slot)
  | start id session requestData =>
    have same : (step service sqlite t (.start id session requestData)).content = t.content := by
      rw [step]
      split <;> rfl
    rw [same]
    refine .keeps _ ?_ ?_ ?_
    · rintro (⟨_, ⟨⟩, _⟩ | ⟨_, _, ⟨⟩, _⟩)
    · rintro id body ⟨_, ⟨⟩, _⟩
    · rintro ⟨_, ⟨⟩, _⟩
  | advance id => exact move_advance steady id slot

variable (service sqlite) in
def stateAt (actions : List UploadAction) (n : Nat) : UploadServer :=
  run (step service sqlite) started (actions.take n)

variable (service sqlite) in
def slotAt (actions : List UploadAction) (slot : StreamSlot) (n : Nat) : Option Cycle :=
  cycleOf slot (stateAt service sqlite actions n).content.userStream

-- what the action at a place does, in the state it is given
variable (service sqlite) in
def At (actions : List UploadAction) (i : Nat) (does : UploadServer → UploadAction → Prop) : Prop :=
  ∃ action, actions[i]? = some action ∧ does (stateAt service sqlite actions i) action

variable {actions : List UploadAction} {i j n : Nat}

theorem stateAt_succ (here : actions[i]? = some action) :
    stateAt service sqlite actions (i + 1)
      = step service sqlite (stateAt service sqlite actions i) action := by
  rw [stateAt, List.take_add_one, here, run_append]
  rfl

theorem stateAt_beyond (done : actions[i]? = none) :
    stateAt service sqlite actions (i + 1) = stateAt service sqlite actions i := by
  rw [stateAt, List.take_add_one, done, Option.toList_none, List.append_nil, stateAt]

theorem move_at (here : actions[i]? = some action) (slot : StreamSlot) :
    Cycle.Move (happened service sqlite (stateAt service sqlite actions i) action slot)
      (slotAt service sqlite actions slot i) (slotAt service sqlite actions slot (i + 1)) := by
  rw [slotAt, slotAt, stateAt_succ here]
  exact move_step (steady_run (actions.take i)) action slot

theorem carried {property : Option Cycle → Prop} (earlier : i ≤ n)
    (start : property (slotAt service sqlite actions slot i))
    (keeps : ∀ k action, i ≤ k → k < n → actions[k]? = some action → ∀ before after,
      Cycle.Move (happened service sqlite (stateAt service sqlite actions k) action slot) before after →
      property before → property after) :
    property (slotAt service sqlite actions slot n) := by
  induction n, earlier using Nat.le_induction with
  | base => exact start
  | succ n later ih =>
    have here := ih fun k action from_i below => keeps k action from_i (Nat.lt_succ_of_lt below)
    cases at_n : actions[n]? with
    | none =>
      rw [slotAt, stateAt_beyond at_n]
      exact here
    | some action =>
      exact keeps n action later (Nat.lt_succ_self n) at_n _ _ (move_at at_n slot) here

theorem slots_of {does : UploadServer → UploadAction → Prop}
    (did : At service sqlite actions i does) (slot : StreamSlot) :
    ∃ action, does (stateAt service sqlite actions i) action
      ∧ Cycle.Move (happened service sqlite (stateAt service sqlite actions i) action slot)
        (slotAt service sqlite actions slot i) (slotAt service sqlite actions slot (i + 1)) := by
  obtain ⟨action, here, does⟩ := did
  exact ⟨action, does, move_at here slot⟩

theorem slot_of_put {streamId : Nat} {body : List UInt8}
    (put : At service sqlite actions i fun t action => Puts service t action slot streamId body) :
    ∃ metadata, slotAt service sqlite actions slot i = some ⟨streamId, none, metadata⟩
      ∧ slotAt service sqlite actions slot (i + 1) = some ⟨streamId, some body, metadata⟩ := by
  obtain ⟨action, stored, move⟩ := slots_of put slot
  generalize slotAt service sqlite actions slot i = before at move
  generalize slotAt service sqlite actions slot (i + 1) = after at move
  cases move with
  | keeps _ _ unstored _ => exact absurd stored (unstored _ _)
  | opens _ _ _ unstored _ => exact absurd stored (unstored _ _)
  | stores id given metadata _ only _ =>
    obtain ⟨rfl, rfl⟩ := (only streamId body).mp stored
    exact ⟨metadata, rfl, rfl⟩
  | describes _ _ _ _ unstored => exact absurd stored (unstored _ _)
  | removes _ _ _ unstored _ => exact absurd stored (unstored _ _)

theorem slot_of_finish (finish : At service sqlite actions i fun t action => Finishes t action slot) :
    ∃ streamId data metadata, slotAt service sqlite actions slot i = some ⟨streamId, data, none⟩
      ∧ slotAt service sqlite actions slot (i + 1) = some ⟨streamId, data, some metadata⟩ := by
  obtain ⟨action, finished, move⟩ := slots_of finish slot
  generalize slotAt service sqlite actions slot i = before at move
  generalize slotAt service sqlite actions slot (i + 1) = after at move
  cases move with
  | keeps _ _ _ unfinished => exact absurd finished unfinished
  | opens _ _ _ _ unfinished => exact absurd finished unfinished
  | stores _ _ _ _ _ unfinished => exact absurd finished unfinished
  | describes id data metadata _ _ => exact ⟨id, data, metadata, rfl, rfl⟩
  | removes _ _ _ _ unfinished => exact absurd finished unfinished

theorem slot_of_reopen
    (reopen : At service sqlite actions i fun t action => Reopens service t action slot) :
    ∃ streamId, slotAt service sqlite actions slot (i + 1) = some ⟨streamId, none, none⟩ := by
  obtain ⟨action, opened, move⟩ := slots_of reopen slot
  generalize slotAt service sqlite actions slot i = before at move
  generalize slotAt service sqlite actions slot (i + 1) = after at move
  cases move with
  | keeps _ unopened _ _ => exact absurd opened unopened
  | opens _ id _ _ _ => exact ⟨id, rfl⟩
  | stores _ _ _ unopened _ _ => exact absurd opened unopened
  | describes _ _ _ unopened _ => exact absurd opened unopened
  | removes _ _ unopened _ _ => exact absurd opened unopened

theorem carried_unopened {property : Cycle → Prop} (earlier : i ≤ n)
    (start : ∀ cycle, slotAt service sqlite actions slot i = some cycle → property cycle)
    (unopened : ∀ k, i ≤ k → k < n →
      ¬At service sqlite actions k fun t action => Reopens service t action slot)
    (stores : ∀ id body metadata, property ⟨id, none, metadata⟩ → property ⟨id, some body, metadata⟩)
    (describes : ∀ id data metadata, property ⟨id, data, none⟩ → property ⟨id, data, some metadata⟩) :
    ∀ cycle, slotAt service sqlite actions slot n = some cycle → property cycle := by
  refine @carried service sqlite slot actions i n
    (fun slot => ∀ cycle, slot = some cycle → property cycle) earlier start ?_
  intro k action from_i below at_k before after move held
  cases move with
  | keeps => exact held
  | opens _ _ opened => exact absurd ⟨action, at_k, opened⟩ (unopened k from_i below)
  | stores id body metadata =>
    rintro cycle ⟨⟩
    exact stores id body metadata (held _ rfl)
  | describes id data metadata =>
    rintro cycle ⟨⟩
    exact describes id data metadata (held _ rfl)
  | removes => exact fun cycle gone => by cases gone

end UploadServer

theorem exec_getStreamData (keyed : Keyed s) {cycle : Cycle}
    (there : cycleOf slot s.userStream = some cycle) {title : Title}
    (titled : title.toU32 = slot.title) :
    exec (getStreamData title cycle.streamId) s = (.ok cycle.data, s) := by
  obtain ⟨u, found, rfl⟩ := Option.map_eq_some_iff.mp there
  obtain ⟨present, rfl⟩ := keyed.slots.find_iff.mp found
  have looked := keyed.find_named present
  have same : u.title = title.toU32 := titled.symm
  rw [same] at looked
  rw [getStreamData, exec_bind_ok _ (exec_get s), UserStream.cycle]
  dsimp only
  rw [looked]
  rfl

namespace UploadServer

variable (service sqlite) in
structure AcceptsOnce (actions : List UploadAction) : Prop where
  puts : ∀ i j slot id body other given, i < j →
    (At service sqlite actions i fun t action => Puts service t action slot id body) →
    (At service sqlite actions j fun t action => Puts service t action slot other given) →
    ∃ k, i < k ∧ k < j ∧ At service sqlite actions k fun t action => Reopens service t action slot
  finishes : ∀ i j slot, i < j →
    (At service sqlite actions i fun t action => Finishes t action slot) →
    (At service sqlite actions j fun t action => Finishes t action slot) →
    ∃ k, i < k ∧ k < j ∧ At service sqlite actions k fun t action => Reopens service t action slot
  serves : ∀ i n slot id body, i < n →
    (At service sqlite actions i fun t action => Puts service t action slot id body) →
    (∀ k, i < k → k < n → ¬(At service sqlite actions k fun t action => Reopens service t action slot)
      ∧ ¬At service sqlite actions k fun t action => Removes service sqlite t action slot id) →
    ∀ title : Title, title.toU32 = slot.title →
      exec (getStreamData title id) (stateAt service sqlite actions n).content
        = (.ok (some body), (stateAt service sqlite actions n).content)
  silent : ∀ i n slot, i < n →
    (At service sqlite actions i fun t action => Reopens service t action slot) →
    (∀ k id body, i < k → k < n →
      ¬At service sqlite actions k fun t action => Puts service t action slot id body) →
    ∀ u ∈ (stateAt service sqlite actions n).content.userStream, inSlotOf u = slot →
      ∀ title : Title, title.toU32 = slot.title →
        exec (getStreamData title u.id) (stateAt service sqlite actions n).content
          = (.ok none, (stateAt service sqlite actions n).content)

theorem uploads_accept_once (service : DwUserContentStreamingService) (sqlite : Sqlite)
    (actions : List UploadAction) : AcceptsOnce service sqlite actions where
  puts i j slot id body other given before first second := by
    by_contra unopened
    push Not at unopened
    obtain ⟨_, _, after⟩ := slot_of_put first
    obtain ⟨_, empty, _⟩ := slot_of_put second
    have full := @carried_unopened service sqlite slot actions (i + 1) j
      (fun cycle => cycle.data.isSome = true) before
      (fun cycle there => by rw [after] at there; cases there; rfl)
      (fun k from_i => unopened k from_i) (fun _ _ _ _ => rfl) (fun _ _ _ held => held) _ empty
    cases full
  finishes i j slot before first second := by
    by_contra unopened
    push Not at unopened
    obtain ⟨_, _, _, _, after⟩ := slot_of_finish first
    obtain ⟨_, _, _, open_, _⟩ := slot_of_finish second
    have described := @carried_unopened service sqlite slot actions (i + 1) j
      (fun cycle => cycle.metadata.isSome = true) before
      (fun cycle there => by rw [after] at there; cases there; rfl)
      (fun k from_i => unopened k from_i) (fun _ _ _ held => held) (fun _ _ _ _ => rfl) _ open_
    cases described
  serves i n slot id body before put quiet title titled := by
    obtain ⟨metadata, _, after⟩ := slot_of_put put
    have held := @carried service sqlite slot actions (i + 1) n
      (fun slot => ∃ metadata, slot = some ⟨id, some body, metadata⟩) before ⟨metadata, after⟩
      (fun k action from_i below at_k => by
        rintro _ after move ⟨metadata, rfl⟩
        cases move with
        | keeps => exact ⟨metadata, rfl⟩
        | opens _ _ opened => exact absurd ⟨action, at_k, opened⟩ (quiet k from_i below).1
        | describes _ _ metadata => exact ⟨some metadata, rfl⟩
        | removes _ removed => exact absurd ⟨action, at_k, removed⟩ (quiet k from_i below).2)
    obtain ⟨metadata, there⟩ := held
    exact exec_getStreamData (steady_run _).keyed there titled
  silent i n slot before reopens quiet u present ours title titled := by
    have keyed := (@steady_run service sqlite (actions.take n)).keyed
    have there : slotAt service sqlite actions slot n = some u.cycle := by
      rw [slotAt, cycleOf]
      exact congrArg (Option.map UserStream.cycle) (keyed.find_slot present ours)
    obtain ⟨_, after⟩ := slot_of_reopen reopens
    have empty := @carried service sqlite slot actions (i + 1) n
      (fun slot => ∀ cycle, slot = some cycle → cycle.data = none) before
      (fun cycle opened => by rw [after] at opened; cases opened; rfl)
      (fun k action from_i below at_k => by
        intro before after move held
        cases move with
        | keeps => exact held
        | opens =>
          rintro cycle ⟨⟩
          rfl
        | stores id body _ _ only =>
          exact absurd ⟨action, at_k, (only id body).mpr ⟨rfl, rfl⟩⟩ (quiet k id body from_i below)
        | describes id data _ =>
          rintro cycle ⟨⟩
          have was : data = none := held ⟨id, data, none⟩ rfl
          exact was
        | removes => exact fun cycle gone => by cases gone)
      _ there
    rw [← empty]
    exact exec_getStreamData keyed there titled

end UploadServer

end DwUserContentStreamingService

end BitDemon
