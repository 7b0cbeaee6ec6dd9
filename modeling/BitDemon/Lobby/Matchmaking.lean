import BitDemon.Library.Runs
import BitDemon.Library.Table
import BitDemon.Domain

set_option autoImplicit false

/-!
# The registry of advertised sessions

A connection advertises one session. The server mints its id and its secret, so
whatever host and key bytes the client sends are replaced.
-/

namespace BitDemon

abbrev HostId := Vector UInt8 8

abbrev SessionSecret := Vector UInt8 16

/-- `<[u8; N]>::try_from(slice)`. -/
def tryFromSlice (n : Nat) (bytes : List UInt8) : Option (Vector UInt8 n) :=
  if size : bytes.length = n then some ⟨bytes.toArray, by simpa using size⟩ else none

theorem tryFromSlice_eq_some_iff {n : Nat} {bytes : List UInt8} {v : Vector UInt8 n} :
    tryFromSlice n bytes = some v ↔ v.toList = bytes := by
  unfold tryFromSlice
  constructor
  · intro converted
    split at converted
    next size =>
      obtain rfl := Option.some.inj converted
      simp
    next wrong => cases converted
  · intro same
    subst same
    rw [dif_pos v.length_toList]
    rcases v with ⟨elements, size⟩
    simp [Vector.toList]

@[simp] theorem tryFromSlice_toList {n : Nat} (v : Vector UInt8 n) :
    tryFromSlice n v.toList = some v :=
  tryFromSlice_eq_some_iff.mpr rfl

structure MatchMakingInfo where
  address : List UInt8
  host : List UInt8
  key : List UInt8
  freePublicSlots : Int32
  usedPublicSlots : Int32
  freePrivateSlots : Int32
  usedPrivateSlots : Int32
  titleData : Vector Int32 9
  deriving DecidableEq

structure RegistryState where
  sessions : Table SessionId MatchMakingInfo
  byHost : Table HostId SessionId

/-- What `mint` returns: it draws ids until one is not in `byHost`. -/
structure Minted where
  id : HostId
  secret : SessionSecret
  deriving DecidableEq

namespace RegistryState

def new : RegistryState := { sessions := ∅, byHost := ∅ }

def forget (state : RegistryState) (connection : SessionId) :
    Option MatchMakingInfo × RegistryState :=
  match state.sessions.get connection with
  | none => (none, state)
  | some info =>
    let byHost :=
      match tryFromSlice 8 info.host with
      | some host =>
        if state.byHost.get host = some connection then state.byHost.remove host else state.byHost
      | none => state.byHost
    (some info, { sessions := state.sessions.remove connection, byHost := byHost })

def remember (state : RegistryState) (connection : SessionId) (info : MatchMakingInfo) :
    RegistryState :=
  let byHost :=
    match tryFromSlice 8 info.host with
    | some host => state.byHost.put host connection
    | none => state.byHost
  { sessions := state.sessions.put connection info, byHost := byHost }

def withMinted (info : MatchMakingInfo) (minted : Minted) : MatchMakingInfo :=
  { info with host := minted.id.toList, key := minted.secret.toList }

def create (state : RegistryState) (connection : SessionId) (info : MatchMakingInfo)
    (minted : Minted) : Minted × RegistryState :=
  let state := (state.forget connection).2
  (minted, state.remember connection (withMinted info minted))

def update (state : RegistryState) (connection : SessionId) (info : MatchMakingInfo)
    (minted : Minted) : Bool × RegistryState :=
  match state.forget connection with
  | (some old, state) =>
    (true, state.remember connection { info with host := old.host, key := old.key })
  | (none, state) => (false, state.remember connection (withMinted info minted))

def delete (state : RegistryState) (connection : SessionId) (id : List UInt8) :
    Bool × RegistryState :=
  match tryFromSlice 8 id with
  | none => (false, state)
  | some host =>
    if state.byHost.get host ≠ some connection then
      (false, state)
    else
      let (forgotten, state) := state.forget connection
      (forgotten.isSome, state)

def removeConnection (state : RegistryState) (connection : SessionId) : Bool × RegistryState :=
  let (forgotten, state) := state.forget connection
  (forgotten.isSome, state)

inductive Op where
  | create (connection : SessionId) (info : MatchMakingInfo) (minted : Minted)
  | update (connection : SessionId) (info : MatchMakingInfo) (minted : Minted)
  | delete (connection : SessionId) (id : List UInt8)
  | removeConnection (connection : SessionId)
  deriving DecidableEq

def Op.connection : Op → SessionId
  | .create connection _ _ => connection
  | .update connection _ _ => connection
  | .delete connection _ => connection
  | .removeConnection connection => connection

def step (state : RegistryState) : Op → RegistryState
  | .create connection info minted => (state.create connection info minted).2
  | .update connection info minted => (state.update connection info minted).2
  | .delete connection id => (state.delete connection id).2
  | .removeConnection connection => (state.removeConnection connection).2

/-- `mint` is asked after the old entry is forgotten and only returns unused ids. -/
def Fresh (state : RegistryState) : Op → Prop
  | .create connection _ minted => (state.forget connection).2.byHost.get minted.id = none
  | .update connection _ minted =>
    state.sessions.get connection = none → state.byHost.get minted.id = none
  | .delete _ _ => True
  | .removeConnection _ => True

/-- Connections and hosts point at each other, and at nothing else. -/
structure Inverse (state : RegistryState) : Prop where
  forward : ∀ connection info, state.sessions.get connection = some info →
    ∃ host, tryFromSlice 8 info.host = some host ∧ state.byHost.get host = some connection
  backward : ∀ host connection, state.byHost.get host = some connection →
    ∃ info, state.sessions.get connection = some info ∧ tryFromSlice 8 info.host = some host

theorem inverse_new : Inverse new := by
  constructor
  · intro connection info found
    simp [new] at found
  · intro host connection found
    simp [new] at found

theorem forget_fst (state : RegistryState) (connection : SessionId) :
    (state.forget connection).1 = state.sessions.get connection := by
  unfold forget
  cases state.sessions.get connection <;> rfl

theorem forget_sessions (state : RegistryState) (connection : SessionId) :
    (state.forget connection).2.sessions = state.sessions.remove connection := by
  unfold forget
  cases found : state.sessions.get connection with
  | none => exact (Table.remove_of_get_none found).symm
  | some info => rfl

theorem forget_byHost {state : RegistryState} (inverse : Inverse state) (connection : SessionId)
    (host : HostId) :
    (state.forget connection).2.byHost.get host
      = if state.byHost.get host = some connection then none else state.byHost.get host := by
  unfold forget
  cases found : state.sessions.get connection with
  | none =>
    have unused : state.byHost.get host ≠ some connection := by
      intro used
      obtain ⟨info, present, _⟩ := inverse.backward host connection used
      rw [found] at present
      cases present
    simp [unused]
  | some info =>
    obtain ⟨own, converted, mapped⟩ := inverse.forward connection info found
    simp only [converted, if_pos mapped]
    rw [Table.get_remove]
    by_cases same : host = own
    · rw [if_pos same, same, if_pos mapped]
    · have other : state.byHost.get host ≠ some connection := by
        intro used
        obtain ⟨again, present, at_⟩ := inverse.backward host connection used
        obtain rfl : info = again := Option.some.inj (found.symm.trans present)
        exact same (Option.some.inj (at_.symm.trans converted))
      rw [if_neg same, if_neg other]

theorem inverse_forget {state : RegistryState} (inverse : Inverse state) (connection : SessionId) :
    Inverse (state.forget connection).2 := by
  constructor
  · intro other info found
    rw [forget_sessions, Table.get_remove] at found
    split at found
    next => cases found
    next apart =>
      obtain ⟨host, converted, mapped⟩ := inverse.forward other info found
      refine ⟨host, converted, ?_⟩
      rw [forget_byHost inverse, mapped, if_neg (by simpa using apart)]
  · intro host other mapped
    rw [forget_byHost inverse] at mapped
    split at mapped
    next => cases mapped
    next notOwn =>
      obtain ⟨info, present, converted⟩ := inverse.backward host other mapped
      refine ⟨info, ?_, converted⟩
      have apart : other ≠ connection := by
        intro same
        exact notOwn (same ▸ mapped)
      rw [forget_sessions, Table.get_remove_of_ne _ apart, present]

theorem inverse_remember {state : RegistryState} (inverse : Inverse state)
    {connection : SessionId} {info : MatchMakingInfo} {host : HostId}
    (absent : state.sessions.get connection = none)
    (converted : tryFromSlice 8 info.host = some host) (unused : state.byHost.get host = none) :
    Inverse (state.remember connection info) := by
  have byHost : (state.remember connection info).byHost = state.byHost.put host connection := by
    simp [remember, converted]
  constructor
  · intro other present found
    rw [byHost]
    by_cases same : other = connection
    · subst same
      obtain rfl : info = present := by simpa [remember] using found
      exact ⟨host, converted, Table.get_put_self _ _ _⟩
    · have kept : state.sessions.get other = some present := by
        simpa [remember, Table.get_put_of_ne _ _ same] using found
      obtain ⟨at_, here, mapped⟩ := inverse.forward other present kept
      have apart : at_ ≠ host := by
        intro clash
        rw [clash, unused] at mapped
        cases mapped
      exact ⟨at_, here, (Table.get_put_of_ne _ _ apart).trans mapped⟩
  · intro at_ other mapped
    rw [byHost, Table.get_put] at mapped
    split at mapped
    next same =>
      obtain rfl := Option.some.inj mapped
      exact ⟨info, by simp [remember], same ▸ converted⟩
    next apart =>
      obtain ⟨present, found, here⟩ := inverse.backward at_ other mapped
      have different : other ≠ connection := by
        intro same
        rw [same, absent] at found
        cases found
      exact ⟨present, by simp [remember, Table.get_put_of_ne _ _ different, found], here⟩

theorem forget_absent (state : RegistryState) (connection : SessionId) :
    (state.forget connection).2.sessions.get connection = none := by
  rw [forget_sessions]
  exact Table.get_remove_self _ _

theorem converted_withMinted (info : MatchMakingInfo) (minted : Minted) :
    tryFromSlice 8 (withMinted info minted).host = some minted.id :=
  tryFromSlice_toList minted.id

/-- All an operation can do: nothing, forget its connection, or forget and remember it anew. -/
theorem step_cases {state : RegistryState} (inverse : Inverse state) {op : Op}
    (fresh : Fresh state op) :
    step state op = state
      ∨ step state op = (state.forget op.connection).2
      ∨ ∃ info host, step state op = (state.forget op.connection).2.remember op.connection info
          ∧ tryFromSlice 8 info.host = some host
          ∧ (state.forget op.connection).2.byHost.get host = none := by
  cases op with
  | create connection info minted =>
    exact .inr (.inr ⟨_, _, rfl, converted_withMinted info minted, fresh⟩)
  | update connection info minted =>
    right; right
    have outcome := forget_fst state connection
    have unused := forget_byHost inverse connection
    rcases forgotten : state.forget connection with ⟨before, rest⟩
    rw [forgotten] at outcome unused
    cases before with
    | some old =>
      obtain ⟨host, converted, mapped⟩ := inverse.forward connection old outcome.symm
      refine ⟨{ info with host := old.host, key := old.key }, host, ?_, converted, ?_⟩
      · simp [step, update, Op.connection, forgotten]
      · simp only [Op.connection, forgotten]
        rw [unused, if_pos mapped]
    | none =>
      refine ⟨withMinted info minted, minted.id, ?_, converted_withMinted info minted, ?_⟩
      · simp [step, update, Op.connection, forgotten]
      · simp only [Op.connection, forgotten]
        rw [unused, fresh outcome.symm]
        simp
  | delete connection id =>
    simp only [step, delete]
    split
    next => exact .inl rfl
    next host converted =>
      split
      next => exact .inl rfl
      next mapped => exact .inr (.inl rfl)
  | removeConnection connection => exact .inr (.inl rfl)

theorem inverse_step {state : RegistryState} (inverse : Inverse state) {op : Op}
    (fresh : Fresh state op) : Inverse (step state op) := by
  rcases step_cases inverse fresh with same | forgot | ⟨info, host, remembered, converted, unused⟩
  · rw [same]
    exact inverse
  · rw [forgot]
    exact inverse_forget inverse _
  · rw [remembered]
    exact inverse_remember (inverse_forget inverse _) (forget_absent state _) converted unused

theorem sessions_step_other {state : RegistryState} (inverse : Inverse state) {op : Op}
    (fresh : Fresh state op) {other : SessionId} (apart : other ≠ op.connection) :
    (step state op).sessions.get other = state.sessions.get other := by
  have forgotten : (state.forget op.connection).2.sessions.get other = state.sessions.get other := by
    rw [forget_sessions, Table.get_remove_of_ne _ apart]
  rcases step_cases inverse fresh with same | forgot | ⟨info, host, remembered, _, _⟩
  · rw [same]
  · rw [forgot, forgotten]
  · rw [remembered]
    exact (Table.get_put_of_ne _ _ apart).trans forgotten

theorem byHost_step_other {state : RegistryState} (inverse : Inverse state) {op : Op}
    (fresh : Fresh state op) {other : SessionId} (apart : other ≠ op.connection) (host : HostId) :
    (step state op).byHost.get host = some other ↔ state.byHost.get host = some other := by
  have after := inverse_step inverse fresh
  have kept := sessions_step_other inverse fresh apart
  constructor
  · intro mapped
    obtain ⟨info, found, converted⟩ := after.backward host other mapped
    rw [kept] at found
    obtain ⟨own, here, before⟩ := inverse.forward other info found
    obtain rfl : own = host := Option.some.inj (here.symm.trans converted)
    exact before
  · intro mapped
    obtain ⟨info, found, converted⟩ := inverse.backward host other mapped
    rw [← kept] at found
    obtain ⟨own, here, now⟩ := after.forward other info found
    obtain rfl : own = host := Option.some.inj (here.symm.trans converted)
    exact now

theorem delete_fst_iff {state : RegistryState} (inverse : Inverse state) (connection : SessionId)
    (id : List UInt8) :
    (state.delete connection id).1 = true
      ↔ ∃ info, state.sessions.get connection = some info ∧ info.host = id := by
  unfold delete
  cases converted : tryFromSlice 8 id with
  | none =>
    refine ⟨fun refused => by simp at refused, ?_⟩
    rintro ⟨info, found, rfl⟩
    obtain ⟨host, here, _⟩ := inverse.forward connection info found
    rw [converted] at here
    cases here
  | some host =>
    by_cases mapped : state.byHost.get host = some connection
    · obtain ⟨info, found, here⟩ := inverse.backward host connection mapped
      have same : info.host = id := by
        rw [← tryFromSlice_eq_some_iff.mp here, tryFromSlice_eq_some_iff.mp converted]
      simp [mapped, forget_fst, found, same]
    · refine ⟨fun refused => by simp [mapped] at refused, ?_⟩
      rintro ⟨info, found, rfl⟩
      obtain ⟨own, here, used⟩ := inverse.forward connection info found
      obtain rfl : own = host := Option.some.inj (here.symm.trans converted)
      exact absurd used mapped

theorem delete_snd {state : RegistryState} (inverse : Inverse state) (connection : SessionId)
    (id : List UInt8) :
    (state.delete connection id).2
      = if (state.delete connection id).1 then (state.forget connection).2 else state := by
  unfold delete
  cases tryFromSlice 8 id with
  | none => rfl
  | some host =>
    by_cases mapped : state.byHost.get host = some connection
    · obtain ⟨info, found, _⟩ := inverse.backward host connection mapped
      simp [mapped, forget_fst, found]
    · simp [mapped]

theorem update_existing (state : RegistryState) (connection : SessionId) (info : MatchMakingInfo)
    (minted : Minted) {old : MatchMakingInfo} (found : state.sessions.get connection = some old) :
    (state.update connection info minted).1 = true
      ∧ (state.update connection info minted).2.sessions.get connection
        = some { info with host := old.host, key := old.key } := by
  have outcome := forget_fst state connection
  rcases forgotten : state.forget connection with ⟨before, rest⟩
  rw [forgotten, found] at outcome
  obtain rfl : before = some old := outcome
  simp [update, forgotten, remember]

/-- Whatever connections do in whatever order, the registry stays whole and entries apart. -/
theorem registry_integrity (history : List Op) (fresh : Runs.Meets step Fresh new history) :
    Inverse (Runs.run step new history)
    ∧ (∀ op, Fresh (Runs.run step new history) op → ∀ other, other ≠ op.connection →
        (step (Runs.run step new history) op).sessions.get other
            = (Runs.run step new history).sessions.get other
          ∧ ∀ host, (step (Runs.run step new history) op).byHost.get host = some other
            ↔ (Runs.run step new history).byHost.get host = some other)
    ∧ (∀ connection id,
        (((Runs.run step new history).delete connection id).1 = true
          ↔ ∃ info, (Runs.run step new history).sessions.get connection = some info
            ∧ info.host = id)
        ∧ (((Runs.run step new history).delete connection id).1 = true →
          ((Runs.run step new history).delete connection id).2.sessions
            = (Runs.run step new history).sessions.remove connection)
        ∧ (((Runs.run step new history).delete connection id).1 = false →
          ((Runs.run step new history).delete connection id).2 = Runs.run step new history))
    ∧ (∀ connection info minted old,
        (Runs.run step new history).sessions.get connection = some old →
        ((Runs.run step new history).update connection info minted).1 = true
        ∧ ((Runs.run step new history).update connection info minted).2.sessions.get connection
          = some { info with host := old.host, key := old.key }) := by
  have inverse : Inverse (Runs.run step new history) :=
    @Runs.run_invariant _ _ step Inverse Fresh (fun _ _ holds allowed => inverse_step holds allowed)
      _ _ inverse_new fresh
  refine ⟨inverse, ?_, ?_, ?_⟩
  · intro op allowed other apart
    exact ⟨sessions_step_other inverse allowed apart, byHost_step_other inverse allowed apart⟩
  · intro connection id
    refine ⟨delete_fst_iff inverse connection id, ?_, ?_⟩
    · intro deleted
      rw [delete_snd inverse, if_pos deleted, forget_sessions]
    · intro refused
      rw [delete_snd inverse, if_neg (by simp [refused])]
  · intro connection info minted old found
    exact update_existing _ connection info minted found

section Example

def exampleInfo : MatchMakingInfo :=
  { address := [10, 0, 0, 1]
    host := [1, 2, 3]
    key := []
    freePublicSlots := 3
    usedPublicSlots := 1
    freePrivateSlots := 0
    usedPrivateSlots := 0
    titleData := Vector.replicate 9 0 }

def exampleMinted : Minted := { id := Vector.replicate 8 7, secret := Vector.replicate 16 9 }

theorem registry_integrity_two_connections :
    ((Runs.run step new [.create 1 exampleInfo exampleMinted]).delete 2
        exampleMinted.id.toList).2
      = Runs.run step new [.create 1 exampleInfo exampleMinted] := by
  have fresh : Runs.Meets step Fresh new [.create 1 exampleInfo exampleMinted] :=
    ⟨rfl, trivial⟩
  exact ((registry_integrity _ fresh).2.2.1 2 _).2.2 (by decide)

end Example

end RegistryState

end BitDemon
