import BitDemon.DwServer.StreamLookups

set_option autoImplicit false

/-!
# Finishing an upload

The transaction that describes a stream commits when it is dropped, and a panic
over a tag drops it after the metadata and the tags before it are written.
-/

namespace BitDemon

open Machine Runs

namespace DwUserContentStreamingService

variable (title : Title) (ownerId : UInt64) (slot : UInt16) (metadata : List UInt8)
  (tags : List StreamTag)

-- the row that `GET_ID_FOR_SLOT_AND_NULL_METADATA_QUERY` finds
def pendingRow (s : ContentServer) : Option UserStream :=
  (s.userStream.find? fun u => inSlot title.toU32 ownerId slot u && u.metadata.isNone).filter fun _ =>
    Sqlite.bindable ownerId

def Finishes (s : ContentServer) : Prop :=
  ∃ row, pendingRow title ownerId slot s = some row
    ∧ exec (setStreamMetadata title ownerId slot metadata tags) s
      = (.ok (some row.id),
        { s with
          userStream := updateWhere (fun u => named title.toU32 row.id u && u.ownerId == ownerId)
            (fun u => { u with metadata := some metadata }) s.userStream
          userStreamTag := s.userStreamTag ++ tags.map fun tag => ⟨row.id, tag⟩ })

-- whatever the call returns, or if it panics
def LeavesTables (s : ContentServer) : Prop :=
  (exec (setStreamMetadata title ownerId slot metadata tags) s).2.userStream = s.userStream
    ∧ (exec (setStreamMetadata title ownerId slot metadata tags) s).2.userStreamTag = s.userStreamTag

variable {title ownerId slot metadata tags} {s : ContentServer} {row : UserStream}

theorem exec_setStreamMetadata_pending (found : pendingRow title ownerId slot s = some row)
    (metadata : List UInt8) (tags : List StreamTag) :
    exec (setStreamMetadata title ownerId slot metadata tags) s
      = (if tags.all tagBinds then .ok (some row.id) else .error (.panic .unwrapOnError),
        { s with
          userStream := updateWhere (fun u => named title.toU32 row.id u && u.ownerId == ownerId)
            (fun u => { u with metadata := some metadata }) s.userStream
          userStreamTag := s.userStreamTag ++ tagRows row.id tags }) := by
  rw [pendingRow] at found
  rw [setStreamMetadata, exec_bind_ok _ (exec_get s)]
  dsimp only
  rw [found]
  dsimp only
  rw [exec_bind_ok _ (exec_set _ s), exec_bind, exec_addTags]
  cases tags.all tagBinds <;> rfl

theorem exec_setStreamMetadata_missing (missing : pendingRow title ownerId slot s = none)
    (metadata : List UInt8) (tags : List StreamTag) :
    exec (setStreamMetadata title ownerId slot metadata tags) s = (.ok none, s) := by
  rw [pendingRow] at missing
  rw [setStreamMetadata, exec_bind_ok _ (exec_get s)]
  dsimp only
  rw [missing]
  rfl

theorem tagRows_of_binding (binding : tags.all tagBinds = true) (streamId : Nat) :
    tagRows streamId tags = tags.map fun tag => ⟨streamId, tag⟩ := by
  rw [tagRows, List.takeWhile_eq_self_iff.mpr fun tag member =>
    List.all_eq_true.mp binding tag member]

theorem updateWhere_changes (found : pendingRow title ownerId slot s = some row)
    (metadata : List UInt8) :
    updateWhere (fun u => named title.toU32 row.id u && u.ownerId == ownerId)
      (fun u => { u with metadata := some metadata }) s.userStream ≠ s.userStream := by
  intro same
  obtain ⟨looked, _⟩ := Option.filter_eq_some_iff.mp found
  have hit := List.find?_some looked
  rw [Bool.and_eq_true, Option.isNone_iff_eq_none] at hit
  obtain ⟨titled, owner, _⟩ := inSlot_iff.mp hit.1
  have member := List.mem_of_find?_eq_some looked
  rw [← same] at member
  obtain ⟨old, _, became⟩ := List.mem_map.mp member
  split at became
  next =>
    rw [← became] at hit
    cases hit.2
  next untouched =>
    subst became
    simp [named, titled, owner] at untouched

/--
Every write is done and the id returned, or the tables are as they were, exactly
if no row is found or each tag can be bound.
-/
theorem finishes_atomically_iff (title : Title) (ownerId : UInt64) (slot : UInt16)
    (metadata : List UInt8) (tags : List StreamTag) (s : ContentServer) :
    (Finishes title ownerId slot metadata tags s ∨ LeavesTables title ownerId slot metadata tags s)
      ↔ pendingRow title ownerId slot s = none ∨ tags.all tagBinds = true := by
  cases found : pendingRow title ownerId slot s with
  | none =>
    have did := exec_setStreamMetadata_missing found metadata tags
    refine ⟨fun _ => .inl rfl, fun _ => .inr ?_⟩
    rw [LeavesTables, did]
    exact ⟨rfl, rfl⟩
  | some row =>
    have did := exec_setStreamMetadata_pending found metadata tags
    constructor
    · rintro (⟨other, found', finished⟩ | ⟨rows, _⟩)
      · refine .inr ?_
        by_contra unbound
        rw [did, if_neg unbound] at finished
        cases congrArg Prod.fst finished
      · rw [did] at rows
        exact absurd rows (updateWhere_changes found metadata)
    · rintro (⟨⟨⟩⟩ | binding)
      refine .inl ⟨row, found, ?_⟩
      rw [did, if_pos binding, tagRows_of_binding binding]

theorem unbound_tag_commits :
    (exec (setStreamMetadata .t6Pc 7 1 [9] [⟨5, 0⟩, ⟨9223372036854775808, 0⟩])
        (run (UploadServer.step server ⟨true⟩) .started asked).content).1
        = .error (.panic .unwrapOnError)
      ∧ (exec (setStreamMetadata .t6Pc 7 1 [9] [⟨5, 0⟩, ⟨9223372036854775808, 0⟩])
        (run (UploadServer.step server ⟨true⟩) .started asked).content).2.userStreamTag
        = [⟨1, ⟨5, 0⟩⟩]
      ∧ ¬(Finishes .t6Pc 7 1 [9] [⟨5, 0⟩, ⟨9223372036854775808, 0⟩]
          (run (UploadServer.step server ⟨true⟩) .started asked).content
        ∨ LeavesTables .t6Pc 7 1 [9] [⟨5, 0⟩, ⟨9223372036854775808, 0⟩]
          (run (UploadServer.step server ⟨true⟩) .started asked).content) := by
  have panics : (exec (setStreamMetadata .t6Pc 7 1 [9] [⟨5, 0⟩, ⟨9223372036854775808, 0⟩])
      (run (UploadServer.step server ⟨true⟩) .started asked).content).1
      = .error (.panic .unwrapOnError) := by decide +kernel
  have left : (exec (setStreamMetadata .t6Pc 7 1 [9] [⟨5, 0⟩, ⟨9223372036854775808, 0⟩])
      (run (UploadServer.step server ⟨true⟩) .started asked).content).2.userStreamTag
      = [⟨1, ⟨5, 0⟩⟩] := by decide +kernel
  refine ⟨panics, left, ?_⟩
  rintro (⟨row, _, finished⟩ | ⟨_, tags⟩)
  · rw [finished] at panics
    cases panics
  · rw [left] at tags
    exact absurd tags (by decide +kernel)

end DwUserContentStreamingService

end BitDemon
