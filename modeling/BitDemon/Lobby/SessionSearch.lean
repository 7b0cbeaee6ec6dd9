import BitDemon.Library.Mutex
import BitDemon.Lobby.Handlers.Matchmaking
import BitDemon.Networking.SessionManager

set_option autoImplicit false

/-!
# Searching for a session

A search walks over the registry in whatever order the hash map has. It takes the
first session of every address, and no more than the query asks for.
-/

namespace BitDemon

open Machine

namespace SessionQuery

def any : Int32 := Int32.maxValue

-- `usize::MAX` where the limit is not positive
def maxResults (query : SessionQuery) : Nat :=
  if 0 < query.limit then query.limit.toInt.toNat else 2 ^ 64 - 1

end SessionQuery

namespace MatchMakingInfo

def wants (filter value : Int32) : Bool := filter == SessionQuery.any || filter == value

theorem wants_iff {filter value : Int32} :
    wants filter value = true ↔ filter = SessionQuery.any ∨ filter = value := by
  simp [wants]

def freeSlots {σ : Type} (checks : Bool) (info : MatchMakingInfo) : Fallible σ Int32 :=
  i32Add checks (max info.freePublicSlots 0) (max info.freePrivateSlots 0)

-- the slots are added up only where the other filters do not decide
def matchesQuery {σ : Type} (checks : Bool) (info : MatchMakingInfo) (query : SessionQuery) :
    Fallible σ Bool :=
  if wants query.filters[1] info.titleData[1] && wants query.filters[2] info.titleData[4]
      && wants query.filters[4] info.titleData[2] then
    if query.filters[5] == SessionQuery.any then
      pure true
    else do
      let free ← info.freeSlots checks
      pure (decide (query.filters[5] ≤ free))
  else
    pure false

structure Satisfies (info : MatchMakingInfo) (query : SessionQuery) : Prop where
  playlist : query.filters[1] = SessionQuery.any ∨ query.filters[1] = info.titleData[1]
  fourth : query.filters[2] = SessionQuery.any ∨ query.filters[2] = info.titleData[4]
  second : query.filters[4] = SessionQuery.any ∨ query.filters[4] = info.titleData[2]
  free : query.filters[5] = SessionQuery.any
    ∨ query.filters[5].toInt ≤ max info.freePublicSlots.toInt 0 + max info.freePrivateSlots.toInt 0

structure AsksFreeSlots (info : MatchMakingInfo) (query : SessionQuery) : Prop where
  playlist : query.filters[1] = SessionQuery.any ∨ query.filters[1] = info.titleData[1]
  fourth : query.filters[2] = SessionQuery.any ∨ query.filters[2] = info.titleData[4]
  second : query.filters[4] = SessionQuery.any ∨ query.filters[4] = info.titleData[2]
  asked : query.filters[5] ≠ SessionQuery.any

end MatchMakingInfo

structure Iteration where
  order : List (SessionId × MatchMakingInfo) → List (SessionId × MatchMakingInfo)
  perm : ∀ entries, (order entries).Perm entries

namespace RegistryState

-- `filter`, `filter`, `map` and `take`, which stop at the last session that is asked for
def listForLoop {σ : Type} (checks : Bool) (connection : SessionId) (query : SessionQuery) :
    List (SessionId × MatchMakingInfo) → List (List UInt8) → Nat →
      Fallible σ (List MatchMakingInfo)
  | _, _, 0 => pure []
  | [], _, _ => pure []
  | (c, info) :: entries, addresses, left + 1 => do
    if c = connection then
      listForLoop checks connection query entries addresses (left + 1)
    else if ← info.matchesQuery checks query then
      if info.address ∈ addresses then
        listForLoop checks connection query entries addresses (left + 1)
      else do
        let others ← listForLoop checks connection query entries (info.address :: addresses) left
        pure (info :: others)
    else
      listForLoop checks connection query entries addresses (left + 1)

def listFor {σ : Type} (checks : Bool) (iteration : Iteration) (state : RegistryState)
    (connection : SessionId) (query : SessionQuery) : Fallible σ (List MatchMakingInfo) :=
  listForLoop checks connection query
    (iteration.order (state.sessions.entries.map fun entry => (entry.1, entry.2))) []
    query.maxResults

end RegistryState

section Found

open SessionManager (unwinds)

variable {σ : Type} {checks : Bool} {kept : σ → Prop}

theorem toInt_max_zero (a : Int32) : (max a 0).toInt = max a.toInt 0 := by
  have zero : (0 : Int32).toInt = 0 := rfl
  change (if a ≤ 0 then 0 else a).toInt = _
  split
  next low =>
    have below := Int32.le_iff_toInt_le.mp low
    omega
  next high =>
    have above : ¬a.toInt ≤ (0 : Int32).toInt := fun low => high (Int32.le_iff_toInt_le.mpr low)
    omega

theorem yields_i32Add {a b : Int32} (low : 0 ≤ a.toInt) (also : 0 ≤ b.toInt) :
    Yields kept (unwinds · = true) (fun sum => sum.toInt ≤ a.toInt + b.toInt)
      (i32Add checks a b) := by
  refine yields_ite (fun _ => yields_throw rfl) fun _ => yields_pure ?_
  rw [Int32.toInt_add, Int.bmod_def]
  split <;> omega

theorem yields_matchesQuery (info : MatchMakingInfo) (query : SessionQuery) :
    Yields kept (unwinds · = true) (fun found => found = true → info.Satisfies query)
      (info.matchesQuery checks query) := by
  refine yields_ite (fun others => ?_) fun _ => yields_pure (by simp)
  rw [Bool.and_eq_true, Bool.and_eq_true, MatchMakingInfo.wants_iff, MatchMakingInfo.wants_iff,
    MatchMakingInfo.wants_iff] at others
  have satisfies (free : query.filters[5] = SessionQuery.any ∨ query.filters[5].toInt
      ≤ max info.freePublicSlots.toInt 0 + max info.freePrivateSlots.toInt 0) :
      info.Satisfies query :=
    ⟨others.1.1, others.1.2, others.2, free⟩
  refine yields_ite (fun any => yields_pure fun _ => ?_) fun _ => ?_
  · exact satisfies (.inl (beq_iff_eq.mp any))
  have sums := @yields_i32Add σ checks kept (max info.freePublicSlots 0) (max info.freePrivateSlots 0)
    (by rw [toInt_max_zero]; omega) (by rw [toInt_max_zero]; omega)
  refine yields_bind sums fun free below => yields_pure fun enough => ?_
  rw [toInt_max_zero, toInt_max_zero] at below
  have least := Int32.le_iff_toInt_le.mp (of_decide_eq_true enough)
  exact satisfies (.inr (Int.le_trans least below))

namespace RegistryState

theorem yields_listForLoop (connection : SessionId) (query : SessionQuery)
    (entries : List (SessionId × MatchMakingInfo)) :
    ∀ (addresses : List (List UInt8)) (left : Nat), Yields kept (unwinds · = true)
      (fun listed => ∀ info ∈ listed, info.Satisfies query
        ∧ ∃ c, c ≠ connection ∧ (c, info) ∈ entries)
      (listForLoop checks connection query entries addresses left) := by
  induction entries with
  | nil =>
    intro addresses left
    cases left <;> exact yields_pure (by simp)
  | cons entry entries ih =>
    intro addresses left
    obtain ⟨c, info⟩ := entry
    have later (addresses : List (List UInt8)) (left : Nat) :
        Yields kept (unwinds · = true) (fun listed => ∀ found ∈ listed,
          found.Satisfies query ∧ ∃ d, d ≠ connection ∧ (d, found) ∈ (c, info) :: entries)
        (listForLoop checks connection query entries addresses left) := by
      intro s holds
      obtain ⟨kept, listed, failed⟩ := ih addresses left s holds
      refine ⟨kept, fun infos ran found member => ?_, failed⟩
      obtain ⟨satisfies, d, apart, stored⟩ := listed infos ran found member
      exact ⟨satisfies, d, apart, List.mem_cons_of_mem _ stored⟩
    cases left with
    | zero => exact yields_pure (by simp)
    | succ left =>
      refine yields_ite (fun _ => later _ _) fun apart => ?_
      refine yields_bind (yields_matchesQuery info query) fun found satisfies => ?_
      refine yields_ite (fun here => ?_) fun _ => later _ _
      refine yields_ite (fun _ => later _ _) fun _ => ?_
      refine yields_bind (later _ _) fun others listed => yields_pure fun one member => ?_
      rcases List.mem_cons.mp member with rfl | rest
      · exact ⟨satisfies here, c, apart, List.mem_cons_self⟩
      · exact listed one rest

theorem yields_listFor (iteration : Iteration) (state : RegistryState) (connection : SessionId)
    (query : SessionQuery) :
    Yields kept (unwinds · = true) (fun listed => ∀ info ∈ listed,
        info.Satisfies query ∧ ∃ c, c ≠ connection ∧ state.sessions.get c = some info)
      (listFor checks iteration state connection query) := by
  intro s holds
  have walked := @yields_listForLoop σ checks kept connection query
    (iteration.order (state.sessions.entries.map fun entry => (entry.1, entry.2))) []
    query.maxResults s holds
  refine ⟨walked.1, fun infos ran info member => ?_, walked.2.2⟩
  obtain ⟨satisfies, c, apart, visited⟩ := walked.2.1 infos ran info member
  have stored := (iteration.perm _).mem_iff.mp visited
  obtain ⟨entry, here, same⟩ := List.mem_map.mp stored
  obtain ⟨rfl, rfl⟩ := Prod.mk.inj same
  exact ⟨satisfies, entry.1, apart, Table.get_eq_some_iff.mpr here⟩

end RegistryState

end Found

end BitDemon
