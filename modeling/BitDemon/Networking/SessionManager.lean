import BitDemon.Library.Mutex
import BitDemon.Library.Runs
import BitDemon.Messaging.Buffer
import Mathlib.Data.List.Nodup
import Mathlib.Data.List.Range

set_option autoImplicit false

/-!
# Registering sessions

Ids are counted under a lock, and the peer address is asked for while that lock
is held.
-/

namespace BitDemon

open Machine

/-- What `peer_addr` returns: a peer that has reset its connection has none. -/
inductive PeerAddr where
  | known | unavailable
  deriving DecidableEq, Repr

structure SessionLogData where
  sessionId : SessionId
  sessionTypeName : String
  deriving DecidableEq

structure SessionManager where
  sessionIdCounter : SessionId
  counterPoisoned : Bool
  /-- The callbacks of `log_session_id`, which all write log data and cannot fail. -/
  registerCb : List String
  registerCbPoisoned : Bool
  sessionLogData : List SessionLogData
  deriving DecidableEq

namespace SessionManager

def new : SessionManager :=
  { sessionIdCounter := 0
    counterPoisoned := false
    registerCb := []
    registerCbPoisoned := false
    sessionLogData := [] }

def unwinds : Fault → Bool
  | .error _ => false
  | .panic _ => true

def lockCounter {α : Type} (body : Fallible SessionManager α) : Fallible SessionManager α :=
  Mutex.guarded counterPoisoned (fun m => { m with counterPoisoned := true }) unwinds
    (.panic .unwrapOnError) body

def lockRegisterCb {α : Type} (body : Fallible SessionManager α) : Fallible SessionManager α :=
  Mutex.guarded registerCbPoisoned (fun m => { m with registerCbPoisoned := true }) unwinds
    (.panic .unwrapOnError) body

def peerAddrUnwrap (peerAddr : PeerAddr) : Fallible SessionManager Unit :=
  match peerAddr with
  | .known => pure ()
  | .unavailable => panicWith .unwrapOnError

def registerSession (peerAddr : PeerAddr) : Fallible SessionManager SessionId :=
  lockCounter do
    let m ← get
    let sessionId := m.sessionIdCounter
    modify fun m => { m with sessionIdCounter := m.sessionIdCounter + 1 }
    -- the guard of the counter lives on to the end of the function
    peerAddrUnwrap peerAddr
    lockRegisterCb (modify fun m =>
      { m with
        sessionLogData := m.sessionLogData
          ++ m.registerCb.map fun sessionTypeName => ⟨sessionId, sessionTypeName⟩ })
    pure sessionId

structure Accepted where
  manager : SessionManager
  ids : List SessionId

/-- One connection on its own thread: a panic ends the thread and nothing else. -/
def step (state : Accepted) (peerAddr : PeerAddr) : Accepted :=
  match exec (registerSession peerAddr) state.manager with
  | (.ok id, manager) => { manager := manager, ids := state.ids ++ [id] }
  | (.error _, manager) => { manager := manager, ids := state.ids }

def after (manager : SessionManager) (calls : List PeerAddr) : Accepted :=
  Runs.run step { manager := manager, ids := [] } calls

def Able (manager : SessionManager) : Prop :=
  ∃ id, (exec (registerSession .known) manager).1 = .ok id

def Clean (manager : SessionManager) : Prop :=
  manager.counterPoisoned = false ∧ manager.registerCbPoisoned = false

def registered (manager : SessionManager) : SessionManager :=
  { manager with
    sessionIdCounter := manager.sessionIdCounter + 1
    sessionLogData := manager.sessionLogData
      ++ manager.registerCb.map fun sessionTypeName =>
        ⟨manager.sessionIdCounter, sessionTypeName⟩ }

theorem exec_lockRegisterCb_modify {manager : SessionManager}
    (free : manager.registerCbPoisoned = false) (f : SessionManager → SessionManager) :
    exec (lockRegisterCb (modify f)) manager = (.ok (), f manager) :=
  Mutex.exec_guarded_ok free (exec_modify f manager)

theorem exec_registerSession_known {manager : SessionManager} (clean : Clean manager) :
    exec (registerSession .known) manager
      = (.ok manager.sessionIdCounter, registered manager) := by
  apply Mutex.exec_guarded_ok clean.1
  rw [exec_bind_ok _ (exec_get manager), exec_bind_ok _ (exec_modify _ manager)]
  have address (m : SessionManager) : exec (peerAddrUnwrap .known) m = (.ok (), m) := rfl
  rw [exec_bind_ok _ (address _), exec_bind_ok _ (exec_lockRegisterCb_modify (by exact clean.2) _)]
  rfl

/-- The failed unwrap drops the guard of the counter while it unwinds. -/
theorem exec_registerSession_unavailable {manager : SessionManager} (clean : Clean manager) :
    exec (registerSession .unavailable) manager
      = (.error (.panic .unwrapOnError),
          { manager with
            sessionIdCounter := manager.sessionIdCounter + 1
            counterPoisoned := true }) := by
  have body : exec (do
        let m ← get
        modify fun m => { m with sessionIdCounter := m.sessionIdCounter + 1 }
        peerAddrUnwrap .unavailable
        lockRegisterCb (modify fun later =>
          { later with
            sessionLogData := later.sessionLogData
              ++ later.registerCb.map fun sessionTypeName =>
                ⟨m.sessionIdCounter, sessionTypeName⟩ })
        pure m.sessionIdCounter) manager
      = (.error (.panic .unwrapOnError),
          { manager with sessionIdCounter := manager.sessionIdCounter + 1 }) := rfl
  exact Mutex.exec_guarded_unwind clean.1 body rfl

theorem not_able_of_poisoned {manager : SessionManager} (poisoned : manager.counterPoisoned = true) :
    ¬Able manager := by
  rintro ⟨id, ran⟩
  have refused : exec (registerSession .known) manager = (.error (.panic .unwrapOnError), manager) :=
    Mutex.exec_guarded_poisoned poisoned
  rw [refused] at ran
  cases ran

theorem able_of_clean {manager : SessionManager} (clean : Clean manager) : Able manager := by
  refine ⟨manager.sessionIdCounter, ?_⟩
  rw [exec_registerSession_known clean]

theorem step_known {state : Accepted} (clean : Clean state.manager) :
    step state .known
      = { manager := registered state.manager
          ids := state.ids ++ [state.manager.sessionIdCounter] } := by
  rw [step, exec_registerSession_known clean]

theorem step_unavailable {state : Accepted} (clean : Clean state.manager) :
    (step state .unavailable).manager.counterPoisoned = true := by
  rw [step, exec_registerSession_unavailable clean]

theorem run_known (state : Accepted) (clean : Clean state.manager) (start : Nat)
    (counter : state.manager.sessionIdCounter = UInt64.ofNat start) (n : Nat) :
    Clean (Runs.run step state (List.replicate n .known)).manager
      ∧ (Runs.run step state (List.replicate n .known)).ids
        = state.ids ++ (List.range' start n).map UInt64.ofNat := by
  induction n generalizing state start with
  | zero => exact ⟨clean, by simp⟩
  | succ n ih =>
    have stepped := step_known clean
    have next : Clean (step state .known).manager := by
      rw [stepped]
      exact clean
    have counted : (step state .known).manager.sessionIdCounter = UInt64.ofNat (start + 1) := by
      rw [stepped, UInt64.ofNat_add, ← counter]
      rfl
    obtain ⟨stays, ids⟩ := ih _ next _ counted
    rw [List.replicate_succ, Runs.run_cons]
    refine ⟨stays, ?_⟩
    rw [ids, stepped, counter, List.range'_succ, List.map_cons, List.append_assoc]
    rfl

theorem nodup_ids_iff (n : Nat) :
    ((List.range' 0 n).map UInt64.ofNat).Nodup ↔ n ≤ 2 ^ 64 := by
  constructor
  · intro distinct
    by_contra many
    have zero : 0 < ((List.range' 0 n).map UInt64.ofNat).length := by simp; omega
    have wrapped : 2 ^ 64 < ((List.range' 0 n).map UInt64.ofNat).length := by simp; omega
    have same : ((List.range' 0 n).map UInt64.ofNat)[0]
        = ((List.range' 0 n).map UInt64.ofNat)[2 ^ 64] := by simp
    exact absurd ((distinct.getElem_inj_iff).mp same) (by decide)
  · intro few
    refine List.Nodup.map_on ?_ List.nodup_range'
    intro a inside b inside' same
    have small : a < 2 ^ 64 := by
      have := (List.mem_range'_1.mp inside).2
      omega
    have small' : b < 2 ^ 64 := by
      have := (List.mem_range'_1.mp inside').2
      omega
    have values := congrArg UInt64.toNat same
    rwa [UInt64.toNat_ofNat_of_lt' small, UInt64.toNat_ofNat_of_lt' small'] at values

theorem not_able_of_unavailable {calls : List PeerAddr} (gone : .unavailable ∈ calls) :
    ∀ state : Accepted, Clean state.manager →
      ∃ first rest, calls = first ++ rest ∧ ¬Able (Runs.run step state first).manager := by
  induction calls with
  | nil => cases gone
  | cons call calls ih =>
    intro state clean
    cases call with
    | unavailable =>
      exact ⟨[.unavailable], calls, rfl, not_able_of_poisoned (step_unavailable clean)⟩
    | known =>
      have later : .unavailable ∈ calls := by simpa using gone
      have next : Clean (step state .known).manager := by
        rw [step_known clean]
        exact clean
      obtain ⟨first, rest, whole, stuck⟩ := ih later _ next
      exact ⟨.known :: first, rest, by rw [whole]; rfl, stuck⟩

def started (callbacks : List String) : SessionManager := { new with registerCb := callbacks }

/--
Every connection can still be registered after every call, with ids that are
all different, if and only if every peer has an address and the ids suffice.
-/
theorem registration_survives_iff (callbacks : List String) (calls : List PeerAddr) :
    ((∀ first rest, calls = first ++ rest → Able (after (started callbacks) first).manager)
        ∧ (after (started callbacks) calls).ids.Nodup)
      ↔ (∀ call ∈ calls, call = .known) ∧ calls.length ≤ 2 ^ 64 := by
  have clean : Clean (started callbacks) := ⟨rfl, rfl⟩
  constructor
  · rintro ⟨able, distinct⟩
    have known : ∀ call ∈ calls, call = .known := by
      intro call member
      cases call with
      | known => rfl
      | unavailable =>
        obtain ⟨first, rest, whole, stuck⟩ :=
          not_able_of_unavailable member { manager := started callbacks, ids := [] } clean
        exact absurd (able first rest whole) stuck
    refine ⟨known, (nodup_ids_iff _).mp ?_⟩
    have all := List.eq_replicate_of_mem known
    obtain ⟨_, ids⟩ := run_known { manager := started callbacks, ids := [] } clean 0 rfl
      calls.length
    rw [after, all, ids] at distinct
    exact distinct
  · rintro ⟨known, few⟩
    have all := List.eq_replicate_of_mem known
    refine ⟨?_, ?_⟩
    · intro first rest whole
      have part : first = List.replicate first.length .known :=
        List.eq_replicate_of_mem fun call member => known call (by simp [whole, member])
      rw [after, part]
      exact able_of_clean (run_known _ clean 0 rfl first.length).1
    · obtain ⟨_, ids⟩ := run_known { manager := started callbacks, ids := [] } clean 0 rfl
        calls.length
      rw [after, all, ids]
      exact (nodup_ids_iff _).mpr few

theorem registration_stops :
    ¬∀ (calls : List PeerAddr), Able (after new calls).manager := by
  intro able
  exact not_able_of_poisoned (by decide) (able [.unavailable])

end SessionManager

end BitDemon
