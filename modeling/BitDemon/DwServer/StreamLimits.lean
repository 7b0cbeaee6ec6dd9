import BitDemon.DwServer.StreamTokens

set_option autoImplicit false

/-!
# How much the streams hold

The size of a stream is declared when its upload is requested. The bytes come
later and over HTTP.
-/

namespace BitDemon

open Machine Runs

namespace DwUserContentStreamingService

variable {service : DwUserContentStreamingService} {sqlite : Sqlite} {s : ContentServer}

structure FitsLimits (u : UserStream) : Prop where
  data : ∀ data, u.data = some data → data.length ≤ maxUserFileSize
  metadata : ∀ metadata, u.metadata = some metadata → metadata.length ≤ maxMetadataSize

def WithinLimits (s : ContentServer) : Prop := ∀ u ∈ s.userStream, FitsLimits u

def PutsWithin (service : DwUserContentStreamingService) (s : ContentServer) (call : Call) : Prop :=
  ∀ token titleNum streamId body, call.request = .put token titleNum streamId body →
    Stores service (s.wait call.elapsed) token titleNum streamId → body.length ≤ maxUserFileSize

theorem fitsLimits_of_null {u : UserStream} (data : u.data = none) (metadata : u.metadata = none) :
    FitsLimits u := by
  constructor
  · intro stored present
    cases data.symm.trans present
  · intro stored present
    cases metadata.symm.trans present

theorem within_opened (within : WithinLimits s) (user : SessionAuthentication)
    (requestData : StreamCreationRequest) : ∀ u ∈ opened user requestData s, FitsLimits u := by
  rw [opened]
  split
  next existing taken => exact forall_updateWhere within fun u _ _ => fitsLimits_of_null rfl rfl
  next free =>
    intro u member
    rcases List.mem_append.mp member with old | new
    next => exact within u old
    next =>
      rw [List.mem_singleton.mp new]
      exact fitsLimits_of_null rfl rfl

theorem within_upload (within : WithinLimits s) (session : BdSession)
    (requestData : StreamCreationRequest) :
    WithinLimits (service.serve sqlite s (.upload session requestData)) := by
  rw [serve]
  cases authenticated : session.authentication with
  | none => rwa [(exec_upload_unauthenticated authenticated requestData s).1]
  | some user =>
    rcases @upload_cases service _ _ authenticated requestData s with ⟨_, _, _, _, _, did⟩
      | ⟨_, _, did⟩ | ⟨_, _, _, did⟩
    next => rw [did]; exact within_opened within user requestData
    next => rwa [did]
    next => rwa [did]

theorem within_finish (within : WithinLimits s) (session : BdSession)
    (uploadedFile : UploadedStream) :
    WithinLimits (service.serve sqlite s (.finish session uploadedFile)) := by
  rw [serve]
  cases authenticated : session.authentication with
  | none => rwa [(exec_finish_unauthenticated authenticated uploadedFile s).1]
  | some user =>
    rcases finish_cases authenticated uploadedFile s with ⟨small, _, row, _, did⟩ | ⟨_, _, did⟩
    next =>
      rw [did]
      refine forall_updateWhere within fun u present _ => ⟨(within u present).data, ?_⟩
      rintro metadata ⟨⟩
      exact small
    next => rwa [did]

theorem within_put_iff (within : WithinLimits s) (token : UserFileClaims) (titleNum : UInt32)
    (streamId : Nat) (body : List UInt8) :
    WithinLimits (service.serve sqlite s (.put token titleNum streamId body))
      ↔ (Stores service s token titleNum streamId → body.length ≤ maxUserFileSize) := by
  rcases @put_rows service sqlite token titleNum streamId body s with ⟨stores, did⟩ | ⟨idle, did⟩
  next =>
    rw [did]
    constructor
    · intro after _
      obtain ⟨u, present, hit⟩ := List.any_eq_true.mp stores.pending
      have member : { u with data := some body } ∈ withData titleNum streamId body s.userStream := by
        refine List.mem_map.mpr ⟨u, present, ?_⟩
        rw [if_pos (Bool.and_eq_true_iff.mp hit).1]
      exact (after _ member).data body rfl
    · intro small
      refine forall_updateWhere within fun u present _ => ⟨?_, (within u present).metadata⟩
      rintro data ⟨⟩
      exact small stores
  next =>
    rw [did]
    exact ⟨fun _ stores => absurd stores idle, fun _ => within⟩

theorem within_delete (within : WithinLimits s) (token : UserFileClaims) (titleNum : UInt32)
    (streamId : Nat) :
    WithinLimits (service.serve sqlite s (.delete token titleNum streamId)) := by
  rcases @delete_rows service sqlite token titleNum streamId s with ⟨_, did⟩ | ⟨_, same⟩
  next =>
    rw [did]
    exact fun u member => within u (List.mem_of_mem_filter member)
  next => rwa [same]

theorem within_step_iff (within : WithinLimits s) (call : Call) :
    WithinLimits (service.step sqlite s call) ↔ PutsWithin service s call := by
  have waited : WithinLimits (s.wait call.elapsed) := within
  rw [step]
  cases asked : call.request with
  | upload session requestData =>
    exact iff_of_true (within_upload waited session requestData) fun _ _ _ _ clash => by
      rw [asked] at clash; cases clash
  | finish session uploadedFile =>
    exact iff_of_true (within_finish waited session uploadedFile) fun _ _ _ _ clash => by
      rw [asked] at clash; cases clash
  | deletion session slotId =>
    obtain ⟨issued, did⟩ := @deletion_rows service sqlite session slotId (s.wait call.elapsed)
    rw [did]
    exact iff_of_true waited fun _ _ _ _ clash => by rw [asked] at clash; cases clash
  | put token titleNum streamId body =>
    rw [within_put_iff waited, PutsWithin]
    constructor
    · rintro small _ _ _ _ same stores
      obtain ⟨⟩ := asked.symm.trans same
      exact small stores
    · intro small stores
      exact small token titleNum streamId body asked stores
  | delete token titleNum streamId =>
    exact iff_of_true (within_delete waited token titleNum streamId) fun _ _ _ _ clash => by
      rw [asked] at clash; cases clash

/-- Every stream stays within its limits exactly if every body that is stored does. -/
theorem within_always_iff (service : DwUserContentStreamingService) (sqlite : Sqlite)
    (calls : List Call) :
    Always (service.step sqlite) WithinLimits .new calls
      ↔ Meets (service.step sqlite) (PutsWithin service) .new calls := by
  refine @always_iff_meets _ _ (service.step sqlite) (fun _ => True) WithinLimits
    (PutsWithin service) (fun _ _ _ _ _ => trivial) ?_ _ _ trivial fun u member => by cases member
  intro s call _ within
  exact within_step_iff within call

-- one byte is declared, and more than the limit follows
def declared : Call := ⟨0, .upload first clip⟩

def oversized : Call :=
  ⟨0, .put (claimsFor 7 .t6Pc 1 .create 0) Title.t6Pc.toU32 1 (List.replicate 50001 0)⟩

theorem oversized_stored :
    ¬Always (server.step ⟨true⟩) WithinLimits .new [declared, oversized] := by
  intro always
  have before := always.2.first
  have last := always.2.2.first
  have stores : Stores server ((server.step ⟨true⟩ .new declared).wait 0)
      (claimsFor 7 .t6Pc 1 .create 0) Title.t6Pc.toU32 1 :=
    ⟨⟨by decide, by decide, rfl, rfl, rfl⟩, ⟨.t6Pc, rfl⟩, by decide⟩
  have small := (within_step_iff before oversized).mp last _ _ _ _ rfl stores
  rw [List.length_replicate] at small
  exact absurd small (by decide)

end DwUserContentStreamingService

end BitDemon
