import BitDemon.Domain
import BitDemon.Library.Runs
import BitDemon.Library.Table
import Mathlib.Data.List.Induction
import Mathlib.Data.Finset.Card

set_option autoImplicit false

/-!
# Group counts

The service keeps for each session the list it last set and, apart from it, a
count for each group, which it moves by the difference of the two lists.
-/

namespace BitDemon

abbrev GroupId := UInt32

structure DwGroupService where
  aggregatedGroupCounts : Table GroupId Nat
  sessionGroups : Table SessionId (List GroupId)

namespace DwGroupService

def new : DwGroupService := { aggregatedGroupCounts := ∅, sessionGroups := ∅ }

def getGroupCounts (service : DwGroupService) (groups : List GroupId) : List Nat :=
  groups.map fun groupId => (service.aggregatedGroupCounts.get groupId).getD 0

def increment (counts : Table GroupId Nat) (groupId : GroupId) : Table GroupId Nat :=
  match counts.get groupId with
  | some previousValue => counts.put groupId (previousValue + 1)
  | none => counts.put groupId 1

/-- One session less: a count of zero stays and a missing entry is only logged. -/
def decrement (counts : Table GroupId Nat) (groupId : GroupId) : Table GroupId Nat :=
  match counts.get groupId with
  | some previousValue =>
    if 0 < previousValue then counts.put groupId (previousValue - 1) else counts
  | none => counts

def setGroups (service : DwGroupService) (session : SessionId) (groups : List GroupId) :
    DwGroupService :=
  let previousGroups := ((service.sessionGroups.get session).getD []).dedup
  let newGroups := (groups.filter fun groupId => groupId ∉ previousGroups).dedup
  let leftGroups := previousGroups.filter fun groupId => groupId ∉ newGroups
  let counts := newGroups.foldl increment service.aggregatedGroupCounts
  { aggregatedGroupCounts := leftGroups.foldl decrement counts
    sessionGroups := (service.sessionGroups.remove session).put session groups }

def removeAllGroupsForSession (service : DwGroupService) (session : SessionId) : DwGroupService :=
  match service.sessionGroups.get session with
  | some groups =>
    { aggregatedGroupCounts := groups.foldl decrement service.aggregatedGroupCounts
      sessionGroups := service.sessionGroups.remove session }
  | none => { service with sessionGroups := service.sessionGroups.remove session }

inductive Op where
  | setGroups (session : SessionId) (groups : List GroupId)
  | disconnect (session : SessionId)
  deriving DecidableEq

def Op.session : Op → SessionId
  | .setGroups session _ => session
  | .disconnect session => session

def step (service : DwGroupService) : Op → DwGroupService
  | .setGroups session groups => service.setGroups session groups
  | .disconnect session => service.removeAllGroupsForSession session

abbrev after (history : List Op) : DwGroupService := Runs.run step new history

def latest (history : List Op) (session : SessionId) : Option (List GroupId) :=
  history.foldl (fun last op =>
    if op.session = session then
      match op with
      | .setGroups _ groups => some groups
      | .disconnect _ => none
    else last) none

def members (history : List Op) (groupId : GroupId) : Finset SessionId :=
  (history.map Op.session).toFinset.filter fun session =>
    groupId ∈ (latest history session).getD []

def stored (service : DwGroupService) (session : SessionId) : List GroupId :=
  (service.sessionGroups.get session).getD []

def holders (service : DwGroupService) (groupId : GroupId) : Nat :=
  service.sessionGroups.count fun groups => decide (groupId ∈ groups)

def reported (service : DwGroupService) (groupId : GroupId) : Nat :=
  (service.aggregatedGroupCounts.get groupId).getD 0

def Exact (service : DwGroupService) : Prop :=
  ∀ groupId, service.reported groupId = service.holders groupId

/--
The calls the counts survive: a session sets none of the groups it has, and
when it leaves, a group it listed twice is a group no other session holds.
-/
def Harmless (service : DwGroupService) : Op → Prop
  | .setGroups session groups => ∀ groupId ∈ groups, groupId ∉ service.stored session
  | .disconnect session => ∀ groupId, 2 ≤ (service.stored session).count groupId →
      ∀ other, other ≠ session → groupId ∉ service.stored other

def value (counts : Table GroupId Nat) (groupId : GroupId) : Nat := (counts.get groupId).getD 0

theorem value_increment (counts : Table GroupId Nat) (added groupId : GroupId) :
    value (increment counts added) groupId
      = value counts groupId + if added = groupId then 1 else 0 := by
  by_cases same : added = groupId
  · subst same
    cases entry : counts.get added <;> simp [value, increment, entry]
  · have apart : groupId ≠ added := fun here => same here.symm
    cases entry : counts.get added <;>
      simp [value, increment, entry, same, Table.get_put_of_ne _ _ apart]

theorem value_decrement (counts : Table GroupId Nat) (dropped groupId : GroupId) :
    value (decrement counts dropped) groupId
      = value counts groupId - if dropped = groupId then 1 else 0 := by
  by_cases same : dropped = groupId
  · subst same
    cases entry : counts.get dropped with
    | none => simp [value, decrement, entry]
    | some previousValue =>
      by_cases positive : 0 < previousValue
      · simp [value, decrement, entry, positive]
      · simp [value, decrement, entry, positive]
        omega
  · have apart : groupId ≠ dropped := fun here => same here.symm
    cases entry : counts.get dropped with
    | none => simp [decrement, entry, same]
    | some previousValue =>
      by_cases positive : 0 < previousValue <;>
        simp [value, decrement, entry, positive, same, Table.get_put_of_ne _ _ apart]

theorem value_increments (groups : List GroupId) (counts : Table GroupId Nat) (groupId : GroupId) :
    value (groups.foldl increment counts) groupId
      = value counts groupId + groups.count groupId := by
  induction groups generalizing counts with
  | nil => simp
  | cons added rest ih =>
    rw [List.foldl_cons, ih, value_increment, List.count_cons]
    simp only [beq_iff_eq]
    omega

theorem value_decrements (groups : List GroupId) (counts : Table GroupId Nat) (groupId : GroupId) :
    value (groups.foldl decrement counts) groupId
      = value counts groupId - groups.count groupId := by
  induction groups generalizing counts with
  | nil => simp
  | cons dropped rest ih =>
    rw [List.foldl_cons, ih, value_decrement, List.count_cons]
    simp only [beq_iff_eq]
    omega

theorem count_of_nodup {groups : List GroupId} (unique : groups.Nodup) (groupId : GroupId) :
    groups.count groupId = if groupId ∈ groups then 1 else 0 := by
  split
  next present => exact List.count_eq_one_of_mem unique present
  next absent => exact List.count_eq_zero_of_not_mem absent

/-- Groups the session already had are never new, so all of them count as left. -/
theorem reported_setGroups (service : DwGroupService) (session : SessionId)
    (groups : List GroupId) (groupId : GroupId) :
    (service.setGroups session groups).reported groupId
      = service.reported groupId
        + (if groupId ∈ groups ∧ groupId ∉ service.stored session then 1 else 0)
        - (if groupId ∈ service.stored session then 1 else 0) := by
  have new : ((groups.filter fun g => g ∉ (service.stored session).dedup).dedup).count groupId
      = if groupId ∈ groups ∧ groupId ∉ service.stored session then 1 else 0 := by
    rw [count_of_nodup (List.nodup_dedup _)]
    simp
  have left : ((service.stored session).dedup.filter fun g =>
      g ∉ (groups.filter fun g => g ∉ (service.stored session).dedup).dedup).count groupId
      = if groupId ∈ service.stored session then 1 else 0 := by
    rw [count_of_nodup ((List.nodup_dedup _).filter _)]
    simp only [List.mem_filter, List.mem_dedup, decide_eq_true_eq]
    by_cases present : groupId ∈ service.stored session <;> simp [present]
  change value _ groupId = value _ groupId + _ - _
  rw [← new, ← left]
  simp only [setGroups]
  rw [value_decrements, value_increments]
  rfl

theorem reported_removeAll (service : DwGroupService) (session : SessionId) (groupId : GroupId) :
    (service.removeAllGroupsForSession session).reported groupId
      = service.reported groupId - (service.stored session).count groupId := by
  unfold removeAllGroupsForSession stored
  cases service.sessionGroups.get session with
  | none => simp [reported]
  | some groups => exact value_decrements groups _ groupId

theorem holders_split (service : DwGroupService) (session : SessionId) (groupId : GroupId) :
    service.holders groupId
      = (service.sessionGroups.remove session).count (fun groups => decide (groupId ∈ groups))
        + if groupId ∈ service.stored session then 1 else 0 := by
  unfold holders stored
  cases found : service.sessionGroups.get session with
  | none => simp [Table.count_remove_of_none _ _ found]
  | some groups =>
    have removed := Table.count_remove_of_some service.sessionGroups
      (fun groups => decide (groupId ∈ groups)) found
    simpa using removed

theorem holders_setGroups (service : DwGroupService) (session : SessionId)
    (groups : List GroupId) (groupId : GroupId) :
    (service.setGroups session groups).holders groupId
      = (service.sessionGroups.remove session).count (fun groups => decide (groupId ∈ groups))
        + if groupId ∈ groups then 1 else 0 := by
  have gone : (service.sessionGroups.remove session).get session = none := by simp
  change Table.count _ _ = _
  simp only [setGroups]
  rw [Table.count_put, Table.remove_of_get_none gone]
  simp

theorem holders_removeAll (service : DwGroupService) (session : SessionId) (groupId : GroupId) :
    (service.removeAllGroupsForSession session).holders groupId
      = (service.sessionGroups.remove session).count (fun groups => decide (groupId ∈ groups)) := by
  unfold removeAllGroupsForSession holders
  cases service.sessionGroups.get session <;> rfl

theorem count_remove_pos_iff (service : DwGroupService) (session : SessionId) (groupId : GroupId) :
    0 < (service.sessionGroups.remove session).count (fun groups => decide (groupId ∈ groups))
      ↔ ∃ other, other ≠ session ∧ groupId ∈ service.stored other := by
  constructor
  · intro positive
    obtain ⟨other, groups, found, present⟩ := Table.exists_of_count_pos positive
    rw [Table.get_remove] at found
    split at found
    next same => cases found
    next apart => exact ⟨other, apart, by simpa [stored, found] using present⟩
  · rintro ⟨other, apart, present⟩
    cases found : service.sessionGroups.get other with
    | none => simp [stored, found] at present
    | some groups =>
      have kept := Table.get_remove_of_ne service.sessionGroups apart
      rw [found] at kept
      exact Table.count_pos kept (by simpa [stored, found] using present)

theorem exact_step_iff (service : DwGroupService) (op : Op) (exact : service.Exact) :
    (step service op).Exact ↔ service.Harmless op := by
  cases op with
  | setGroups session groups =>
    have change (groupId : GroupId) :
        (service.setGroups session groups).reported groupId
            = (service.setGroups session groups).holders groupId
          ↔ (groupId ∈ groups → groupId ∉ service.stored session) := by
      have before := exact groupId
      rw [holders_split service session groupId] at before
      rw [reported_setGroups, holders_setGroups, before]
      by_cases held : groupId ∈ service.stored session <;>
        by_cases wanted : groupId ∈ groups <;> simp [held, wanted]
    exact forall_congr' change
  | disconnect session =>
    have change (groupId : GroupId) :
        (service.removeAllGroupsForSession session).reported groupId
            = (service.removeAllGroupsForSession session).holders groupId
          ↔ (2 ≤ (service.stored session).count groupId →
              ∀ other, other ≠ session → groupId ∉ service.stored other) := by
      have before := exact groupId
      rw [holders_split service session groupId] at before
      have others := count_remove_pos_iff service session groupId
      have present : groupId ∈ service.stored session
          ↔ 0 < (service.stored session).count groupId := List.count_pos_iff.symm
      have noOther : (∀ other, other ≠ session → groupId ∉ service.stored other)
          ↔ (service.sessionGroups.remove session).count (fun groups => decide (groupId ∈ groups))
            = 0 := by
        rw [← Nat.le_zero, ← Nat.not_lt, others]
        exact ⟨fun none ⟨other, apart, held⟩ => none other apart held,
          fun none other apart held => none ⟨other, apart, held⟩⟩
      rw [reported_removeAll, holders_removeAll, before, noOther]
      split
      next held =>
        have listed := present.mp held
        omega
      next free =>
        have unlisted : (service.stored session).count groupId = 0 := List.count_eq_zero_of_not_mem free
        omega
    exact forall_congr' change

theorem exact_new : new.Exact := by
  intro groupId
  rfl

theorem get_sessionGroups (history : List Op) (session : SessionId) :
    (after history).sessionGroups.get session = latest history session := by
  induction history using List.reverseRecOn with
  | nil => rfl
  | append_singleton history op ih =>
    have last : latest (history ++ [op]) session
        = if op.session = session then
            match op with
            | .setGroups _ groups => some groups
            | .disconnect _ => none
          else latest history session := by
      simp [latest]
    rw [after, Runs.run_append, Runs.run_cons, Runs.run_nil, last]
    cases op with
    | setGroups by_ groups =>
      by_cases same : by_ = session
      · simp [step, setGroups, Op.session, same]
      · have apart : session ≠ by_ := fun here => same here.symm
        simp [step, setGroups, Op.session, same, Table.get_put_of_ne _ _ apart,
          Table.get_remove_of_ne _ apart, ih]
    | disconnect by_ =>
      have removed : (step (after history) (.disconnect by_)).sessionGroups
          = (after history).sessionGroups.remove by_ := by
        simp only [step, removeAllGroupsForSession]
        split <;> rfl
      rw [removed]
      by_cases same : by_ = session
      · simp [Op.session, same]
      · have apart : session ≠ by_ := fun here => same here.symm
        simp [Op.session, same, Table.get_remove_of_ne _ apart, ih]

theorem latest_of_absent {history : List Op} {session : SessionId}
    (absent : session ∉ history.map Op.session) : latest history session = none := by
  induction history using List.reverseRecOn with
  | nil => rfl
  | append_singleton history op ih =>
    simp only [List.map_append, List.map_cons, List.map_nil, List.mem_append, List.mem_singleton,
      not_or] at absent
    have other : op.session ≠ session := fun same => absent.2 same.symm
    have before := ih absent.1
    simp only [latest] at before
    simp [latest, other, before]

theorem card_members (history : List Op) (groupId : GroupId) :
    (members history groupId).card = (after history).holders groupId := by
  have covers : ∀ session groups, (after history).sessionGroups.get session = some groups →
      session ∈ (history.map Op.session).toFinset := by
    intro session groups found
    rw [get_sessionGroups] at found
    refine List.mem_toFinset.mpr (Classical.byContradiction fun absent => ?_)
    rw [latest_of_absent absent] at found
    cases found
  rw [holders, Table.count_eq_card _ _ covers, members]
  congr 1
  apply Finset.filter_congr
  intro session _
  rw [get_sessionGroups]
  cases latest history session <;> simp

/-- The counts are exact throughout a run if and only if every call of it is harmless. -/
theorem groupCounts_exact_iff (history : List Op) :
    (∀ first rest, history = first ++ rest →
        ∀ groupId, (after first).getGroupCounts [groupId] = [(members first groupId).card])
      ↔ Runs.Meets step Harmless new history := by
  have decided : Runs.Always step Exact new history ↔ Runs.Meets step Harmless new history :=
    @Runs.always_iff_meets _ _ step (fun _ => True) Exact Harmless (fun _ _ _ _ _ => trivial)
      (fun service op _ exact => exact_step_iff service op exact) _ _ trivial exact_new
  rw [← decided, Runs.always_iff_prefixes]
  refine forall_congr' fun first => forall_congr' fun rest => forall_congr' fun _ =>
    forall_congr' fun groupId => ?_
  rw [card_members]
  simp [getGroupCounts, reported]

theorem groupCounts_drift :
    ¬∀ (history : List Op) (groupId : GroupId),
      (after history).getGroupCounts [groupId] = [(members history groupId).card] := by
  intro exact
  have wrong := exact [.setGroups 1 [7], .setGroups 1 [7]] 7
  exact absurd wrong (by decide)

end DwGroupService

end BitDemon
