import BitDemon.DwServer.StreamReports

set_option autoImplicit false

/-!
# Two lookups of one stream

The query by ids and the query by owners feed the same mapping. They differ in
what they make of a stream whose data has not come yet.
-/

namespace BitDemon

open Machine Runs

namespace DwUserContentStreamingService

variable {service : DwUserContentStreamingService} {sqlite : Sqlite} {s : ContentServer}
  {plan : QueryPlan} {title : Title} {u : UserStream} {fileId : UInt64}

namespace UploadServer

theorem keyed_step {t : UploadServer} (sound : Sound t) (keyed : Keyed t.content)
    (action : UploadAction) : Keyed (step service sqlite t action).content := by
  cases action with
  | start id session requestData =>
    rw [step]
    split
    next => exact keyed
    next => exact keyed
  | advance id =>
    cases under : t.calls.get id with
    | none => rwa [step_advance_none under]
    | some call =>
      rw [step_advance under]
      cases phase : call.phase with
      | counting =>
        rw [advance_counting phase]
        exact keyed
      | creating =>
        obtain ⟨_, _, did⟩ :=
          @advance_creating service _ phase (sound id call under phase) t.content
        rw [did]
        exact keyed.opened rfl
      | granting streamId =>
        obtain ⟨_, _, did⟩ := @advance_granting service _ _ phase t.content
        rw [did]
        exact ⟨keyed.ids, keyed.slots⟩
  | serve call =>
    have waited : Keyed (t.content.wait call.elapsed) := ⟨keyed.ids, keyed.slots⟩
    exact keyed_serve waited call.request

structure Steady (t : UploadServer) : Prop where
  sound : Sound t
  keyed : Keyed t.content

theorem steady_run (actions : List UploadAction) :
    Steady (run (step service sqlite) started actions) := by
  refine @run_keeps _ _ (step service sqlite) Steady ?_ _ actions ⟨?_, List.nodup_nil, List.nodup_nil⟩
  · intro t action steady
    exact ⟨sound_step steady.sound action, keyed_step steady.sound steady.keyed action⟩
  · intro id call under
    cases under

end UploadServer

def LookupsAgree (plan : QueryPlan) (title : Title) (u : UserStream) (fileId : UInt64)
    (s : ContentServer) : Prop :=
  ∃ info, (exec (getStreamsByIds title [fileId]) s).1 = .ok [info]
    ∧ ∀ (minDateTime : Int) (itemCount : Nat), (∀ v ∈ s.userStream, minDateTime ≤ v.modifiedAt) →
      s.userStream.length ≤ itemCount → itemCount < 2 ^ 63 →
      ∃ infos total, (exec (getStreamsByOwners plan title [u.ownerId] minDateTime u.category 0
          itemCount) s).1 = .ok (infos, total)
        ∧ infos.filter (fun other => decide (other.id = u.id)) = [info]

theorem filter_visited (keyed : Keyed s) (present : u ∈ s.userStream) {test : UserStream → Bool}
    (selected : test u = true) :
    (plan.visit (s.userStream.filter test)).filter (fun v => decide (v.id = u.id)) = [u] := by
  have perm := plan.perm (s.userStream.filter test)
  have distinct : Rows.Distinct UserStream.id (plan.visit (s.userStream.filter test)) := by
    rw [Rows.Distinct, (perm.map UserStream.id).nodup_iff]
    exact keyed.ids.sublist (List.filter_sublist.map _)
  exact Rows.Distinct.filter_key distinct (perm.mem_iff.mpr (List.mem_filter.mpr ⟨present, selected⟩))

theorem listed_once (keyed : Keyed s) (present : u ∈ s.userStream)
    (titled : u.title = title.toU32) {minDateTime : Int} {itemCount : Nat}
    (since : ∀ v ∈ s.userStream, minDateTime ≤ v.modifiedAt)
    (covers : s.userStream.length ≤ itemCount) (bound : itemCount < 2 ^ 63) :
    ∃ infos total, (exec (getStreamsByOwners plan title [u.ownerId] minDateTime u.category 0
        itemCount) s).1 = .ok (infos, total)
      ∧ infos.filter (fun other => decide (other.id = u.id))
        = [mapPersistedStreamInfo title s u ((u.data.map List.length).getD 0)] := by
  have selected : byOwners title [u.ownerId] minDateTime u.category u = true :=
    byOwners_iff.mpr ⟨rfl, titled, since u present, rfl⟩
  have member := List.mem_filter.mpr ⟨present, selected⟩
  have ran := @exec_getStreamsByOwners_all s plan title _ _ _ _ _ rfl
    (List.length_pos_of_mem member).ne' ((List.length_filter_le _ _).trans covers) bound
  refine ⟨_, _, ran, ?_⟩
  rw [List.filter_map]
  have once := @filter_visited s plan u keyed present _ selected
  rw [show (fun other : PersistedStreamInfo => decide (other.id = u.id))
      ∘ (fun v => mapPersistedStreamInfo title s v ((v.data.map List.length).getD 0))
    = fun v => decide (v.id = u.id) from rfl, once, List.map_singleton]

theorem Keyed.agree_iff (keyed : Keyed s) (present : u ∈ s.userStream)
    (titled : u.title = title.toU32) (id : fileId.toNat = u.id)
    (bound : Sqlite.bindable fileId = true) :
    LookupsAgree plan title u fileId s ↔ u.data.isSome = true := by
  rw [LookupsAgree, getStreamsByIds_single, keyed.streamById present titled id bound]
  cases stored : u.data with
  | none =>
    simp only [Option.isSome_none, Bool.false_eq_true, iff_false]
    rintro ⟨info, returned, _⟩
    cases returned
  | some data =>
    simp only [Option.isSome_some, iff_true]
    refine ⟨_, rfl, fun minDateTime itemCount since covers small => ?_⟩
    have listed := @listed_once s plan title u keyed present titled _ _ since covers small
    rw [stored] at listed
    exact listed

/--
For every stream that is stored, at any time of any uploads, both lookups return
the same record of it exactly if its data has come: the query by ids panics at
the length of no data.
-/
theorem lookups_agree_iff (plan : QueryPlan) (service : DwUserContentStreamingService)
    (sqlite : Sqlite) (actions : List UploadAction) (title : Title) (u : UserStream)
    (fileId : UInt64)
    (present : u ∈ (run (UploadServer.step service sqlite) .started actions).content.userStream)
    (titled : u.title = title.toU32) (id : fileId.toNat = u.id)
    (bound : Sqlite.bindable fileId = true) :
    LookupsAgree plan title u fileId
        (run (UploadServer.step service sqlite) .started actions).content
      ↔ u.data.isSome = true :=
  (@UploadServer.steady_run service sqlite actions).keyed.agree_iff present titled id bound

def asked : List UploadAction := [.serve ⟨0, .upload first clip⟩]

-- the row of a stream that was asked for, before and after its data came
def pendingClip : UserStream := ⟨1, "clip", Title.t6Pc.toU32, 0, 0, 7, none, 0, 1, none⟩

def storedClip : UserStream := { pendingClip with data := some [1] }

theorem pending_stream_panics :
    pendingClip ∈ (run (UploadServer.step server ⟨true⟩) .started asked).content.userStream
      ∧ (exec (getStreamsByIds .t6Pc [1])
          (run (UploadServer.step server ⟨true⟩) .started asked).content).1
        = .error (.panic .unwrapOnError)
      ∧ (exec (getStreamsByOwners inserted .t6Pc [7] 0 0 0 1)
          (run (UploadServer.step server ⟨true⟩) .started asked).content).1
        = .ok ([⟨1, "clip", .t6Pc, 0, 0, 0, 7, "first", [], 0, 1, []⟩], 1)
      ∧ ¬LookupsAgree inserted .t6Pc pendingClip 1
        (run (UploadServer.step server ⟨true⟩) .started asked).content := by
  have panics : (exec (getStreamsByIds .t6Pc [1])
      (run (UploadServer.step server ⟨true⟩) .started asked).content).1
      = .error (.panic .unwrapOnError) := by decide +kernel
  refine ⟨by decide +kernel, panics, by decide +kernel, ?_⟩
  rintro ⟨info, returned, _⟩
  rw [panics] at returned
  cases returned

theorem stored_stream_agrees :
    LookupsAgree inserted .t6Pc storedClip 1
      (run (UploadServer.step server ⟨true⟩) .started (((cycle 0 5).take 2).map .serve)).content :=
  (lookups_agree_iff inserted server ⟨true⟩ (((cycle 0 5).take 2).map .serve) .t6Pc storedClip 1
    (by decide +kernel) rfl rfl (by decide)).mpr rfl

end DwUserContentStreamingService

end BitDemon
