import BitDemon.Lobby.Population

set_option autoImplicit false

/-!
# The registry and its index, call by call

Whatever ids are drawn, an entry of the index leads to a session, and a call made for
one connection leaves the sessions of the others. A lock is poisoned by overflows only.
-/

namespace BitDemon

open Machine

namespace RegistryState

/-- An id leads to a session that is advertised under it. -/
def Indexed (state : RegistryState) : Prop :=
  ∀ host connection, state.byHost.get host = some connection →
    ∃ info, state.sessions.get connection = some info ∧ tryFromSlice 8 info.host = some host

variable {state : RegistryState} {connection other : SessionId} {info : MatchMakingInfo}

theorem indexed_new : Indexed new := by
  intro host connection mapped
  cases mapped

theorem byHost_forget {host : HostId}
    (mapped : (state.forget connection).2.byHost.get host = some other) :
    state.byHost.get host = some other
      ∧ ∀ info, state.sessions.get connection = some info → other = connection →
        tryFromSlice 8 info.host ≠ some host := by
  unfold forget at mapped
  split at mapped
  next absent =>
    refine ⟨mapped, fun info found => ?_⟩
    cases absent.symm.trans found
  next info found =>
    dsimp only at mapped
    have entry (kept : state.byHost.get host = some other)
        (apart : other = connection → tryFromSlice 8 info.host ≠ some host) :
        state.byHost.get host = some other
          ∧ ∀ info, state.sessions.get connection = some info → other = connection →
            tryFromSlice 8 info.host ≠ some host := by
      refine ⟨kept, fun present stored => ?_⟩
      obtain rfl := Option.some.inj (found.symm.trans stored)
      exact apart
    split at mapped
    next own converted =>
      split at mapped
      next held =>
        rw [Table.get_remove] at mapped
        split at mapped
        next => cases mapped
        next different =>
          refine entry mapped fun _ same => different ?_
          exact (Option.some.inj (converted.symm.trans same)).symm
      next free =>
        refine entry mapped fun same here => free ?_
        obtain rfl := Option.some.inj (converted.symm.trans here)
        exact same ▸ mapped
    next unconverted => exact entry mapped fun _ here => by cases unconverted.symm.trans here

theorem indexed_forget (indexed : Indexed state) (connection : SessionId) :
    Indexed (state.forget connection).2 := by
  intro host other mapped
  obtain ⟨before, apart⟩ := byHost_forget mapped
  obtain ⟨info, found, converted⟩ := indexed host other before
  have different : other ≠ connection := by
    rintro rfl
    exact apart info found rfl converted
  refine ⟨info, ?_, converted⟩
  rw [forget_sessions, Table.get_remove_of_ne _ different, found]

theorem indexed_remember (indexed : Indexed state)
    (absent : state.sessions.get connection = none) : Indexed (state.remember connection info) := by
  have elsewhere {host : HostId} {other : SessionId} (mapped : state.byHost.get host = some other) :
      ∃ present, (state.remember connection info).sessions.get other = some present
        ∧ tryFromSlice 8 present.host = some host := by
    obtain ⟨present, found, converted⟩ := indexed host other mapped
    have different : other ≠ connection := by
      rintro rfl
      cases absent.symm.trans found
    exact ⟨present, (Table.get_put_of_ne _ _ different).trans found, converted⟩
  intro host other mapped
  rw [remember] at mapped
  dsimp only at mapped
  split at mapped
  next own converted =>
    rw [Table.get_put] at mapped
    split at mapped
    next same =>
      obtain rfl := Option.some.inj mapped
      exact ⟨info, Table.get_put_self _ _ _, same ▸ converted⟩
    next => exact elsewhere mapped
  next => exact elsewhere mapped

theorem step_shapes (state : RegistryState) (op : Op) :
    step state op = state
      ∨ step state op = (state.forget op.connection).2
      ∨ ∃ info, step state op = (state.forget op.connection).2.remember op.connection info := by
  cases op with
  | create connection info minted => exact .inr (.inr ⟨_, rfl⟩)
  | update connection info minted =>
    right; right
    rcases forgotten : state.forget connection with ⟨before, rest⟩
    cases before with
    | some old => exact ⟨{ info with host := old.host, key := old.key }, by
        simp [step, update, Op.connection, forgotten]⟩
    | none => exact ⟨withMinted info minted, by simp [step, update, Op.connection, forgotten]⟩
  | delete connection id =>
    rw [step, delete]
    split
    next => exact .inl rfl
    next =>
      split
      next => exact .inl rfl
      next => exact .inr (.inl rfl)
  | removeConnection connection => exact .inr (.inl rfl)

theorem indexed_step (indexed : Indexed state) (op : Op) : Indexed (step state op) := by
  have forgotten := indexed_forget indexed op.connection
  rcases step_shapes state op with same | forgot | ⟨info, remembered⟩
  · rw [same]
    exact indexed
  · rw [forgot]
    exact forgotten
  · rw [remembered]
    exact indexed_remember forgotten (forget_absent state _)

theorem sessions_step_of_ne (state : RegistryState) {op : Op} (apart : other ≠ op.connection) :
    (step state op).sessions.get other = state.sessions.get other := by
  have forgotten : (state.forget op.connection).2.sessions.get other = state.sessions.get other := by
    rw [forget_sessions, Table.get_remove_of_ne _ apart]
  rcases step_shapes state op with same | forgot | ⟨info, remembered⟩
  · rw [same]
  · rw [forgot, forgotten]
  · rw [remembered]
    exact (Table.get_put_of_ne _ _ apart).trans forgotten

end RegistryState

/-- The fault of a sum, in a build that checks for it. -/
def Overflows (checks : Bool) (fault : Fault) : Prop :=
  checks = true ∧ fault = .panic .addWithOverflow

section Overflow

variable {σ : Type} {checks : Bool} {kept : σ → Prop}

theorem keeps_i32Add (a b : Int32) : Keeps kept (Overflows checks) (i32Add checks a b) := by
  refine keeps_ite (fun fails => keeps_throw ?_) fun _ => keeps_pure _
  exact ⟨((Bool.and_eq_true _ _).mp fails).1, rfl⟩

theorem keeps_usizeAdd (a b : UInt64) :
    Keeps kept (Overflows checks) (usizeAdd checks a b) := by
  refine keeps_ite (fun fails => keeps_throw ?_) fun _ => keeps_pure _
  exact ⟨((Bool.and_eq_true _ _).mp fails).1, rfl⟩

theorem keeps_matchesQuery (info : MatchMakingInfo) (query : SessionQuery) :
    Keeps kept (Overflows checks) (info.matchesQuery checks query) := by
  refine keeps_ite (fun _ => keeps_ite (fun _ => keeps_pure _) fun _ => ?_) fun _ => keeps_pure _
  exact keeps_bind (keeps_i32Add _ _) fun _ => keeps_pure _

namespace RegistryState

theorem keeps_listForLoop (connection : SessionId) (query : SessionQuery)
    (entries : List (SessionId × MatchMakingInfo)) (addresses : List (List UInt8)) (left : Nat) :
    Keeps kept (Overflows checks)
      (listForLoop checks connection query entries addresses left) := by
  induction entries generalizing addresses left with
  | nil => cases left <;> exact keeps_pure _
  | cons entry entries ih =>
    cases left with
    | zero => exact keeps_pure _
    | succ left =>
      refine keeps_ite (fun _ => ih _ _) fun _ => ?_
      refine keeps_bind (keeps_matchesQuery _ _) fun found => ?_
      refine keeps_ite (fun _ => keeps_ite (fun _ => ih _ _) fun _ => ?_) fun _ => ih _ _
      exact keeps_bind (ih _ _) fun others => keeps_pure _

theorem keeps_populationLoop (infos : List MatchMakingInfo) (population : Population) :
    Keeps kept (Overflows checks) (populationLoop checks infos population) := by
  induction infos generalizing population with
  | nil => exact keeps_pure _
  | cons info infos ih =>
    refine keeps_bind (keeps_bind (keeps_i32Add _ _) fun _ => keeps_pure _) fun players => ?_
    refine keeps_ite (fun _ => ?_) fun _ => ih _
    exact keeps_bind (keeps_usizeAdd _ _) fun _ => keeps_bind (keeps_usizeAdd _ _) fun _ => ih _

end RegistryState

end Overflow

namespace LockedRegistry

/-- Nothing is changed, or what one operation of the connection changes. -/
structure Answers (checks : Bool) (connection : SessionId) (before after : LockedRegistry) :
    Prop where
  state : after.state = before.state ∨ ∃ op : RegistryState.Op, op.connection = connection
    ∧ after.state = RegistryState.step before.state op
  free : checks = false → before.poisoned = false → after.poisoned = false

variable {α : Type} {checks : Bool} {connection : SessionId}

theorem answers_onState {f : RegistryState → α × RegistryState} (op : RegistryState.Op)
    (own : op.connection = connection) (r : LockedRegistry)
    (stepped : ∀ state, (f state).2 = RegistryState.step state op) :
    Answers checks connection r (exec (locked (onState f)) r).2 := by
  cases held : r.poisoned with
  | true =>
    rw [exec_locked_poisoned _ held]
    exact ⟨.inl rfl, fun _ free => free⟩
  | false =>
    rw [exec_locked_onState _ held]
    exact ⟨.inr ⟨op, own, stepped r.state⟩, fun _ free => free⟩

theorem exec_reading {body : Fallible LockedRegistry α} (r : LockedRegistry)
    (reads : Keeps (· = r) (Overflows checks) body) :
    (exec (locked body) r).2.state = r.state
      ∧ (checks = false → r.poisoned = false → (exec (locked body) r).2.poisoned = false) := by
  cases held : r.poisoned with
  | true =>
    rw [exec_locked_poisoned _ held]
    exact ⟨rfl, nofun⟩
  | false =>
    obtain ⟨same, fails⟩ := reads r rfl
    rcases ran : exec body r with ⟨outcome, after⟩
    rw [ran] at same fails
    obtain rfl : after = r := same
    cases outcome with
    | ok a =>
      have done : exec (locked body) after = (.ok a, after) := Mutex.exec_guarded_ok held ran
      rw [done]
      exact ⟨rfl, fun _ _ => held⟩
    | error fault =>
      obtain ⟨checked, rfl⟩ := fails fault rfl
      have done : exec (locked body) after = _ := Mutex.exec_guarded_unwind held ran rfl
      rw [done]
      refine ⟨rfl, fun unchecked => ?_⟩
      cases unchecked.symm.trans checked

theorem answers_reading {body : Fallible LockedRegistry α} (r : LockedRegistry)
    (reads : Keeps (· = r) (Overflows checks) body) :
    Answers checks connection r (exec (locked body) r).2 :=
  ⟨.inl (exec_reading r reads).1, (exec_reading r reads).2⟩

theorem exec_population (checks : Bool) (iteration : Iteration) (r : LockedRegistry) :
    (exec (serve checks (.population iteration)) r).2.state = r.state
      ∧ (checks = false → r.poisoned = false →
        (exec (serve checks (.population iteration)) r).2.poisoned = false) := by
  refine exec_reading r (keeps_get_bind fun state _ => ?_)
  exact keeps_bind (RegistryState.keeps_populationLoop _ _) fun _ => keeps_pure _

end LockedRegistry

end BitDemon
