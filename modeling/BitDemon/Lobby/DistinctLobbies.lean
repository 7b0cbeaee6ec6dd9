import BitDemon.Library.FirstOfEach
import BitDemon.Lobby.Population
import Mathlib.Data.Set.Card

set_option autoImplicit false

/-!
# How many lobbies a search finds

The lobbies that a search lists depend on the order of the hash map. They are
one of every address, and how many they are does not depend on it.
-/

namespace BitDemon

open Machine

namespace LockedRegistry

def Matching (checks : Bool) (r : LockedRegistry) (connection : SessionId) (query : SessionQuery) :
    Set MatchMakingInfo :=
  {info | ∃ c, c ≠ connection ∧ r.state.sessions.get c = some info
    ∧ exec (info.matchesQuery checks query) r = (.ok true, r)}

def bounded (query : SessionQuery) (found : Nat) : Nat :=
  if 0 < query.limit then min query.limit.toInt.toNat found else found

structure Lists (checks : Bool) (r : LockedRegistry) (connection : SessionId) (query : SessionQuery)
    (infos : List MatchMakingInfo) : Prop where
  matching : ∀ info ∈ infos, info ∈ Matching checks r connection query
  distinct : (infos.map MatchMakingInfo.address).Nodup
  number : infos.length
    = bounded query (MatchMakingInfo.address '' Matching checks r connection query).ncard

def ListsEachOnce (checks : Bool) (minted : Minted) (r : LockedRegistry) (connection : SessionId)
    (query : SessionQuery) : Prop :=
  ∀ iteration, ∃ infos,
    exec ((registry checks minted iteration).listFor connection query) r = (.ok infos, r)
      ∧ Lists checks r connection query infos

def SlotsFit (r : LockedRegistry) (connection : SessionId) (query : SessionQuery) : Prop :=
  ∀ c info, c ≠ connection → r.state.sessions.get c = some info →
    info.AsksFreeSlots query → info.openSlots < 2147483648

variable {σ : Type} {checks : Bool} {s : σ} {query : SessionQuery} {connection : SessionId}
  {info : MatchMakingInfo}

theorem exec_i32Add_unchecked (a b : Int32) : exec (i32Add false a b) s = (.ok (a + b), s) := rfl

theorem exec_freeSlots (fits : checks = true → info.openSlots < 2147483648) :
    ∃ free, exec (info.freeSlots checks) s = (.ok free, s) := by
  cases checks with
  | false => exact ⟨_, exec_i32Add_unchecked _ _⟩
  | true =>
    obtain ⟨free, ran, _⟩ := (@freeSlots_exact_iff σ true s info).mpr (fits rfl)
    exact ⟨free, ran⟩

theorem exec_freeSlots_overflow (large : 2147483648 ≤ info.openSlots) :
    exec (info.freeSlots true) s = (.error (.panic .addWithOverflow), s) := by
  have total := max_zero_open info
  have refused : fitsI32
      ((max info.freePublicSlots 0).toInt + (max info.freePrivateSlots 0).toInt) = false := by
    simp only [fitsI32, Bool.and_eq_false_iff, decide_eq_false_iff_not]
    omega
  rw [MatchMakingInfo.freeSlots, i32Add, refused]
  rfl

theorem exec_matchesQuery
    (fits : checks = true → info.AsksFreeSlots query → info.openSlots < 2147483648) :
    ∃ found, exec (info.matchesQuery checks query) s = (.ok found, s) := by
  unfold MatchMakingInfo.matchesQuery
  split
  next others =>
    split
    next => exact ⟨true, rfl⟩
    next bound =>
      rw [Bool.and_eq_true, Bool.and_eq_true, MatchMakingInfo.wants_iff,
        MatchMakingInfo.wants_iff, MatchMakingInfo.wants_iff] at others
      have asked : info.AsksFreeSlots query :=
        ⟨others.1.1, others.1.2, others.2, fun any => bound (beq_iff_eq.mpr any)⟩
      obtain ⟨free, sums⟩ := @exec_freeSlots σ checks s info fun checked => fits checked asked
      exact ⟨_, by rw [exec_bind_ok _ sums]; rfl⟩
  next => exact ⟨false, rfl⟩

theorem exec_matchesQuery_overflow (asked : info.AsksFreeSlots query)
    (large : 2147483648 ≤ info.openSlots) :
    exec (info.matchesQuery true query) s = (.error (.panic .addWithOverflow), s) := by
  unfold MatchMakingInfo.matchesQuery
  split
  next =>
    split
    next any => exact absurd (beq_iff_eq.mp any) asked.asked
    next => rw [exec_bind, exec_freeSlots_overflow large]
  next others =>
    rw [Bool.and_eq_true, Bool.and_eq_true, MatchMakingInfo.wants_iff, MatchMakingInfo.wants_iff,
      MatchMakingInfo.wants_iff] at others
    exact absurd ⟨⟨asked.playlist, asked.fourth⟩, asked.second⟩ others

-- whether an entry is listed, if its address is new
def joinable (checks : Bool) (connection : SessionId) (query : SessionQuery) (s : σ)
    (entry : SessionId × MatchMakingInfo) : Bool :=
  decide (entry.1 ≠ connection)
    && match (exec (entry.2.matchesQuery checks query) s).1 with
      | .ok found => found
      | .error _ => false

theorem exec_listForLoop_walk (entries : List (SessionId × MatchMakingInfo))
    (fits : checks = true → ∀ entry ∈ entries, entry.1 ≠ connection →
      entry.2.AsksFreeSlots query → entry.2.openSlots < 2147483648)
    (addresses : List (List UInt8)) (left : Nat) :
    exec (RegistryState.listForLoop checks connection query entries addresses left) s
      = (.ok (FirstOfEach.walk MatchMakingInfo.address
          ((entries.filter (joinable checks connection query s)).map Prod.snd) addresses left),
        s) := by
  induction entries generalizing addresses left with
  | nil => cases left <;> rfl
  | cons entry entries ih =>
    obtain ⟨c, info⟩ := entry
    have later := ih fun checked entry member =>
      fits checked entry (List.mem_cons_of_mem _ member)
    cases left with
    | zero => rw [RegistryState.listForLoop, FirstOfEach.walk_zero, exec_pure]
    | succ left =>
      rw [RegistryState.listForLoop]
      split
      next own =>
        have skipped : joinable checks connection query s (c, info) = false := by
          simp [joinable, own]
        rw [List.filter_cons_of_neg (by simp [skipped]), later]
      next other =>
        obtain ⟨found, ran⟩ := @exec_matchesQuery σ checks s query info fun checked =>
          fits checked (c, info) List.mem_cons_self other
        have decided : joinable checks connection query s (c, info) = found := by
          simp [joinable, ran, other]
        rw [exec_bind_ok _ ran]
        cases found with
        | false =>
          rw [List.filter_cons_of_neg (by simp [decided])]
          exact later addresses (left + 1)
        | true =>
          rw [if_pos rfl, List.filter_cons_of_pos decided, List.map_cons, FirstOfEach.walk]
          split
          next => exact later addresses (left + 1)
          next =>
            rw [exec_bind_ok _ (later (info.address :: addresses) left)]
            rfl

variable {r : LockedRegistry} {minted : Minted} {iteration : Iteration}

def visited (iteration : Iteration) (r : LockedRegistry) : List (SessionId × MatchMakingInfo) :=
  iteration.order (r.state.sessions.entries.map fun entry => (entry.1, entry.2))

theorem mem_visited {entry : SessionId × MatchMakingInfo} :
    entry ∈ visited iteration r ↔ r.state.sessions.get entry.1 = some entry.2 := by
  rw [visited, (iteration.perm _).mem_iff, List.mem_map, Table.get_eq_some_iff]
  constructor
  · rintro ⟨stored, member, rfl⟩
    exact member
  · intro member
    exact ⟨_, member, rfl⟩

theorem visited_nodup (iteration : Iteration) (r : LockedRegistry) :
    ((visited iteration r).map Prod.fst).Nodup := by
  rw [visited, ((iteration.perm _).map Prod.fst).nodup_iff, List.map_map]
  exact r.state.sessions.nodupKeys

theorem length_others_lt (entries : List (SessionId × MatchMakingInfo))
    (unique : (entries.map Prod.fst).Nodup) (others : ∀ entry ∈ entries, entry.1 ≠ connection) :
    entries.length ≤ 2 ^ 64 - 1 := by
  let ids := entries.map fun entry => entry.1.toNat
  have nodup : ids.Nodup := by
    have distinct := unique.map (f := UInt64.toNat) fun a b same => UInt64.toNat.inj same
    rwa [List.map_map] at distinct
  have covered : ids.toFinset ⊆ (Finset.range (2 ^ 64)).erase connection.toNat := by
    intro n member
    obtain ⟨entry, present, rfl⟩ := List.mem_map.mp (List.mem_toFinset.mp member)
    refine Finset.mem_erase.mpr ⟨fun same => others entry present (UInt64.toNat.inj same), ?_⟩
    exact Finset.mem_range.mpr entry.1.toNat_lt
  have size := Finset.card_le_card covered
  rw [List.toFinset_card_of_nodup nodup,
    Finset.card_erase_of_mem (Finset.mem_range.mpr connection.toNat_lt), Finset.card_range,
    List.length_map] at size
  exact size

theorem mem_joinable (free : ∀ entry, entry ∈ visited iteration r → entry.1 ≠ connection →
    ∃ found, exec (entry.2.matchesQuery checks query) r = (.ok found, r)) :
    info ∈ ((visited iteration r).filter (joinable checks connection query r)).map Prod.snd
      ↔ info ∈ Matching checks r connection query := by
  rw [List.mem_map]
  constructor
  · rintro ⟨⟨c, info⟩, member, rfl⟩
    obtain ⟨present, passes⟩ := List.mem_filter.mp member
    rw [joinable, Bool.and_eq_true, decide_eq_true_eq] at passes
    obtain ⟨found, ran⟩ := free _ present passes.1
    have decided := passes.2
    rw [ran] at decided
    obtain rfl : found = true := decided
    exact ⟨c, passes.1, mem_visited.mp present, ran⟩
  · rintro ⟨c, other, stored, ran⟩
    refine ⟨(c, info), List.mem_filter.mpr ⟨mem_visited.mpr stored, ?_⟩, rfl⟩
    simp [joinable, ran, other]

theorem lists_of_fits (fits : checks = true → SlotsFit r connection query)
    (iteration : Iteration) :
    ∃ infos, exec (r.state.listFor checks iteration connection query) r = (.ok infos, r)
      ∧ Lists checks r connection query infos := by
  let found := ((visited iteration r).filter (joinable checks connection query r)).map Prod.snd
  have ran : exec (r.state.listFor checks iteration connection query) r
      = (.ok (FirstOfEach.walk MatchMakingInfo.address found [] query.maxResults), r) := by
    refine exec_listForLoop_walk (visited iteration r) ?_ [] query.maxResults
    intro checked entry member other asked
    exact fits checked entry.1 entry.2 other (mem_visited.mp member) asked
  have same (info : MatchMakingInfo) : info ∈ found ↔ info ∈ Matching checks r connection query := by
    refine mem_joinable fun entry member other => exec_matchesQuery fun checked asked => ?_
    exact fits checked entry.1 entry.2 other (mem_visited.mp member) asked
  have addresses : MatchMakingInfo.address '' Matching checks r connection query
      = (FirstOfEach.unseen MatchMakingInfo.address found [] : Set (List UInt8)) := by
    ext address
    simp only [FirstOfEach.unseen, List.toFinset_nil, Finset.sdiff_empty, List.coe_toFinset,
      Set.mem_image, Set.mem_ofPred_eq, List.mem_map, same]
  have few : (FirstOfEach.unseen MatchMakingInfo.address found []).card ≤ 2 ^ 64 - 1 := by
    have others := @length_others_lt connection
      ((visited iteration r).filter (joinable checks connection query r))
      ((visited_nodup iteration r).sublist (List.filter_sublist.map _))
      (fun entry member => by
        have passes := (List.mem_filter.mp member).2
        rw [joinable, Bool.and_eq_true, decide_eq_true_eq] at passes
        exact passes.1)
    have size := List.toFinset_card_le (found.map MatchMakingInfo.address)
    rw [List.length_map, List.length_map] at size
    rw [FirstOfEach.unseen, List.toFinset_nil, Finset.sdiff_empty]
    exact size.trans others
  refine ⟨_, ran, ?_, FirstOfEach.walk_nodup found [] _, ?_⟩
  · intro info member
    exact (same info).mp ((FirstOfEach.walk_sublist found [] _).mem member)
  · rw [FirstOfEach.walk_length, addresses, Set.ncard_coe_finset, bounded, SessionQuery.maxResults]
    split
    next => rfl
    next => exact min_eq_right few

-- the walk meets this entry first, if it is there
def first (entry : SessionId × MatchMakingInfo) : Iteration where
  order entries := if entry ∈ entries then entry :: entries.erase entry else entries
  perm entries := by
    split
    next member => exact (List.perm_cons_erase member).symm
    next => exact .refl entries

theorem maxResults_pos (query : SessionQuery) : ∃ left, query.maxResults = left + 1 := by
  refine ⟨query.maxResults - 1, ?_⟩
  have positive : 0 < query.maxResults := by
    unfold SessionQuery.maxResults
    split
    next bound =>
      have least := Int32.lt_iff_toInt_lt.mp bound
      have zero : (0 : Int32).toInt = 0 := rfl
      omega
    next => decide
  omega

theorem exec_listFor_overflow {c : SessionId} (other : c ≠ connection)
    (stored : r.state.sessions.get c = some info) (asked : info.AsksFreeSlots query)
    (large : 2147483648 ≤ info.openSlots) :
    exec (r.state.listFor true (first (c, info)) connection query) r
      = (.error (.panic .addWithOverflow), r) := by
  have member : (c, info) ∈ r.state.sessions.entries.map fun entry => (entry.1, entry.2) :=
    List.mem_map.mpr ⟨_, Table.get_eq_some_iff.mp stored, rfl⟩
  obtain ⟨left, some_left⟩ := maxResults_pos query
  rw [RegistryState.listFor, first, some_left]
  dsimp only
  rw [if_pos member, RegistryState.listForLoop, if_neg other, exec_bind,
    exec_matchesQuery_overflow asked large]

/--
A search lists one session of each address and as many as there are, in any
order, unless it panics over the sum of somebody's free slots.
-/
theorem lists_each_once_iff (checks : Bool) (minted : Minted) (r : LockedRegistry)
    (connection : SessionId) (query : SessionQuery) :
    ListsEachOnce checks minted r connection query
      ↔ r.poisoned = false ∧ (checks = true → SlotsFit r connection query) := by
  constructor
  · intro lists
    have free : r.poisoned = false := by
      obtain ⟨infos, ran, _⟩ := lists ⟨id, fun entries => .refl entries⟩
      cases held : r.poisoned with
      | false => rfl
      | true =>
        rw [registry, exec_locked_poisoned _ held] at ran
        cases ran
    refine ⟨free, ?_⟩
    rintro rfl c info other stored asked
    by_contra large
    obtain ⟨infos, ran, _⟩ := lists (first (c, info))
    have panics := exec_listFor_overflow other stored asked (Nat.le_of_not_lt large)
    have refused : exec ((registry true minted (first (c, info))).listFor connection query) r
        = (.error (.panic .addWithOverflow), { r with poisoned := true }) :=
      Mutex.exec_guarded_unwind free panics rfl
    rw [refused] at ran
    cases ran
  · rintro ⟨free, fits⟩ iteration
    obtain ⟨infos, ran, listed⟩ := lists_of_fits fits iteration
    exact ⟨infos, Mutex.exec_guarded_ok free ran, listed⟩

def roomy : MatchMakingInfo :=
  { crowded with
    freePublicSlots := 2147483647, usedPublicSlots := 1, freePrivateSlots := 1
    usedPrivateSlots := 0 }

def roomyHosted : LockedRegistry :=
  Runs.run (step true) new [.op (.create 1 roomy ⟨.replicate 8 0, .replicate 16 0⟩)]

-- a player looks for a lobby with a free slot
def oneFree : SessionQuery :=
  { kind := 0, limit := 10
    filters := #v[SessionQuery.any, SessionQuery.any, SessionQuery.any, SessionQuery.any,
      SessionQuery.any, 1]
    extra := none }

theorem roomy_lobby_panics :
    roomyHosted.poisoned = false
      ∧ (∀ minted, exec ((registry true minted ⟨id, fun entries => .refl entries⟩).listFor 2 oneFree)
          roomyHosted
        = (.error (.panic .addWithOverflow), { roomyHosted with poisoned := true }))
      ∧ ∀ minted, ¬ListsEachOnce true minted roomyHosted 2 oneFree := by
  refine ⟨rfl, fun minted => rfl, fun minted lists => ?_⟩
  obtain ⟨infos, ran, _⟩ := lists ⟨id, fun entries => .refl entries⟩
  cases ran

end LockedRegistry

end BitDemon
