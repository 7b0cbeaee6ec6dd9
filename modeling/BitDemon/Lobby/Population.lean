import BitDemon.Lobby.Advertisements

set_option autoImplicit false

/-!
# How many are playing

The slots that a client advertises are added up as it has sent them: in 32 bits
for one session, and as `usize`, which has 64 bits, over all of them.
-/

namespace BitDemon

open Machine Runs

/-- `a + b` on `usize`: it panics or wraps around, as the build has it. -/
def usizeAdd {σ : Type} (checks : Bool) (a b : UInt64) : Fallible σ UInt64 :=
  if checks && decide (18446744073709551616 ≤ a.toNat + b.toNat) then panicWith .addWithOverflow
  else pure (a + b)

namespace MatchMakingInfo

def playlist (info : MatchMakingInfo) : UInt32 := (info.titleData.get 1).toUInt32

-- `as usize` extends the sign
def players {σ : Type} (checks : Bool) (info : MatchMakingInfo) : Fallible σ UInt64 := do
  let players ← i32Add checks (max info.usedPublicSlots 0) (max info.usedPrivateSlots 0)
  pure players.toInt64.toUInt64

def usedSlots (info : MatchMakingInfo) : Nat :=
  info.usedPublicSlots.toInt.toNat + info.usedPrivateSlots.toInt.toNat

def openSlots (info : MatchMakingInfo) : Nat :=
  info.freePublicSlots.toInt.toNat + info.freePrivateSlots.toInt.toNat

end MatchMakingInfo

structure Population where
  players : UInt64
  playlists : Table UInt32 UInt64

namespace RegistryState

def populationLoop {σ : Type} (checks : Bool) :
    List MatchMakingInfo → Population → Fallible σ Population
  | [], population => pure population
  | info :: infos, population => do
    let players ← info.players checks
    if 0 < players then
      let ofPlaylist ←
        usizeAdd checks ((population.playlists.get info.playlist).getD 0) players
      let ofAll ← usizeAdd checks population.players players
      populationLoop checks infos
        { players := ofAll, playlists := population.playlists.put info.playlist ofPlaylist }
    else
      populationLoop checks infos population

def population {σ : Type} (checks : Bool) (iteration : Iteration) (state : RegistryState) :
    Fallible σ Population :=
  populationLoop checks
    ((iteration.order (state.sessions.entries.map fun entry => (entry.1, entry.2))).map Prod.snd)
    { players := 0, playlists := ∅ }

end RegistryState

namespace RegistryState

def playing (state : RegistryState) : Nat := state.sessions.sum MatchMakingInfo.usedSlots

def inPlaylist (playlist : UInt32) (info : MatchMakingInfo) : Nat :=
  if info.playlist = playlist then info.usedSlots else 0

def playingIn (state : RegistryState) (playlist : UInt32) : Nat :=
  state.sessions.sum (inPlaylist playlist)

end RegistryState

structure Population.Tallies (population : Population) (total : Nat) (of : UInt32 → Nat) : Prop where
  players : population.players.toNat = total
  sum : population.playlists.sum UInt64.toNat = total
  playlists : ∀ playlist, (population.playlists.get playlist).map UInt64.toNat
    = if of playlist = 0 then none else some (of playlist)

namespace LockedRegistry

structure Exact (checks : Bool) (r : LockedRegistry) : Prop where
  free : r.poisoned = false
  players : ∀ connection info, r.state.sessions.get connection = some info →
    ∃ players : UInt64, exec (info.players checks) r = (.ok players, r)
      ∧ players.toNat = info.usedSlots
  freeSlots : ∀ connection info, r.state.sessions.get connection = some info →
    ∃ free : Int32, exec (info.freeSlots checks) r = (.ok free, r) ∧ free.toInt = info.openSlots
  listFor : ∀ iteration connection query,
    ∃ infos, exec (r.state.listFor checks iteration connection query) r = (.ok infos, r)
  population : ∀ iteration, ∃ population : Population,
    exec (r.state.population checks iteration) r = (.ok population, r)
      ∧ population.Tallies r.state.playing r.state.playingIn

inductive Call where
  | op (op : RegistryState.Op)
  | listFor (connection : SessionId) (query : SessionQuery) (iteration : Iteration)
  | population (iteration : Iteration)

def serve (checks : Bool) : Call → Fallible LockedRegistry Unit
  | .op op => locked (onState fun state => ((), RegistryState.step state op))
  | .listFor connection query iteration => locked do
    let r ← get
    let _ ← r.state.listFor checks iteration connection query
    pure ()
  | .population iteration => locked do
    let r ← get
    let _ ← r.state.population checks iteration
    pure ()

-- a call that panics leaves the lock poisoned
def step (checks : Bool) (r : LockedRegistry) (call : Call) : LockedRegistry :=
  (exec (serve checks call) r).2

structure Countable (state : RegistryState) (connection : SessionId) (info : MatchMakingInfo) :
    Prop where
  used : info.usedSlots < 2147483648
  open_ : info.openSlots < 2147483648
  together : info.usedSlots + (state.forget connection).2.playing < 18446744073709551616

def AdvertisesCountable (r : LockedRegistry) : Call → Prop
  | .op (.create connection info _) => Countable r.state connection info
  | .op (.update connection info _) => Countable r.state connection info
  | _ => True

end LockedRegistry

section Sums

variable {σ : Type} {checks : Bool} {s : σ} {a b : Int32} {info : MatchMakingInfo}

theorem toInt_asUsize (a : Int32) :
    (a.toInt64.toUInt64.toNat : Int)
      = if a.toInt < 0 then a.toInt + 18446744073709551616 else a.toInt := by
  have same : a.toInt = a.toInt64.toBitVec.toInt := (Int32.toInt_toInt64 a).symm
  have size := a.toInt64.toBitVec.isLt
  rw [BitVec.toInt_eq_toNat_cond] at same
  change ((a.toInt64.toBitVec.toNat : Nat) : Int) = _
  split at same
  next => rw [if_neg (by omega), same]
  next =>
    rw [if_pos (by omega), same]
    omega

theorem exec_i32Add_fits (low : 0 ≤ a.toInt) (also : 0 ≤ b.toInt)
    (fits : a.toInt + b.toInt < 2147483648) :
    exec (i32Add checks a b) s = (.ok (a + b), s) ∧ (a + b).toInt = a.toInt + b.toInt := by
  have small : fitsI32 (a.toInt + b.toInt) = true := by
    simp only [fitsI32, Bool.and_eq_true, decide_eq_true_eq]
    omega
  constructor
  · rw [i32Add, small, if_neg (by simp)]
    rfl
  · rw [Int32.toInt_add, Int.bmod_def]
    split <;> omega

theorem toInt_i32Add (low : 0 ≤ a.toInt) (also : 0 ≤ b.toInt) {sum : Int32}
    (ran : exec (i32Add checks a b) s = (.ok sum, s)) :
    sum.toInt = a.toInt + b.toInt ∧ a.toInt + b.toInt < 2147483648 ∨ sum.toInt < 0 := by
  have added : sum = a + b := by
    unfold i32Add at ran
    split at ran
    next => cases ran
    next => cases ran; rfl
  have most := Int32.toInt_lt a
  have also_most := Int32.toInt_lt b
  rw [added, Int32.toInt_add, Int.bmod_def]
  split <;> omega

theorem max_zero_used (info : MatchMakingInfo) :
    (max info.usedPublicSlots 0).toInt + (max info.usedPrivateSlots 0).toInt = info.usedSlots := by
  rw [toInt_max_zero, toInt_max_zero, MatchMakingInfo.usedSlots]
  omega

theorem max_zero_open (info : MatchMakingInfo) :
    (max info.freePublicSlots 0).toInt + (max info.freePrivateSlots 0).toInt = info.openSlots := by
  rw [toInt_max_zero, toInt_max_zero, MatchMakingInfo.openSlots]
  omega

theorem max_zero_nonneg (a : Int32) : 0 ≤ (max a 0).toInt := by
  rw [toInt_max_zero]
  omega

theorem freeSlots_exact_iff :
    (∃ free : Int32, exec (info.freeSlots checks) s = (.ok free, s) ∧ free.toInt = info.openSlots)
      ↔ info.openSlots < 2147483648 := by
  have total := max_zero_open info
  constructor
  · rintro ⟨free, ran, exact_⟩
    rcases toInt_i32Add (max_zero_nonneg _) (max_zero_nonneg _) ran with ⟨_, fits⟩ | wrapped
    next => omega
    next => omega
  · intro fits
    have ran := @exec_i32Add_fits σ checks s _ _ (max_zero_nonneg info.freePublicSlots)
      (max_zero_nonneg info.freePrivateSlots) (by omega)
    exact ⟨_, ran.1, ran.2.trans total⟩

theorem players_exact_iff :
    (∃ players : UInt64, exec (info.players checks) s = (.ok players, s)
        ∧ players.toNat = info.usedSlots)
      ↔ info.usedSlots < 2147483648 := by
  have total := max_zero_used info
  constructor
  · rintro ⟨players, ran, exact_⟩
    rw [MatchMakingInfo.players, exec_bind] at ran
    rcases added : exec (i32Add checks (max info.usedPublicSlots 0) (max info.usedPrivateSlots 0)) s
      with ⟨_ | sum, after⟩
    next => rw [added] at ran; cases ran
    next =>
      rw [added] at ran
      cases ran
      have extended := toInt_asUsize sum
      have most := Int32.toInt_lt info.usedPublicSlots
      have also_most := Int32.toInt_lt info.usedPrivateSlots
      rw [exact_] at extended
      rcases toInt_i32Add (max_zero_nonneg _) (max_zero_nonneg _) added with ⟨_, fits⟩ | wrapped
      next => omega
      next =>
        have least := Int32.le_toInt sum
        rw [if_pos wrapped, MatchMakingInfo.usedSlots] at extended
        omega
  · intro fits
    have ran := @exec_i32Add_fits σ checks s _ _ (max_zero_nonneg info.usedPublicSlots)
      (max_zero_nonneg info.usedPrivateSlots) (by omega)
    refine ⟨_, by rw [MatchMakingInfo.players, exec_bind_ok _ ran.1]; rfl, ?_⟩
    have extended := toInt_asUsize (max info.usedPublicSlots 0 + max info.usedPrivateSlots 0)
    rw [if_neg (by omega)] at extended
    omega

theorem exec_usizeAdd_fits {a b : UInt64} (fits : a.toNat + b.toNat < 18446744073709551616) :
    exec (usizeAdd checks a b) s = (.ok (a + b), s) ∧ (a + b).toNat = a.toNat + b.toNat := by
  constructor
  · rw [usizeAdd, if_neg (by simp [fits])]
    rfl
  · rw [UInt64.toNat_add]
    omega

namespace Population

variable {population : Population} {total : Nat} {of : UInt32 → Nat}

theorem tallies_empty : Tallies { players := 0, playlists := ∅ } 0 fun _ => 0 :=
  ⟨rfl, rfl, fun _ => rfl⟩

theorem Tallies.congr {other : Nat} {others : UInt32 → Nat} (tallies : population.Tallies total of)
    (same : total = other) (each : ∀ playlist, of playlist = others playlist) :
    population.Tallies other others := by
  rw [← same, ← funext each]
  exact tallies

theorem Tallies.ofPlaylist (tallies : population.Tallies total of) (playlist : UInt32) :
    ((population.playlists.get playlist).getD 0).toNat = of playlist := by
  have counted := tallies.playlists playlist
  cases found : population.playlists.get playlist with
  | none =>
    rw [found] at counted
    split at counted
    next zero => exact zero.symm
    next => cases counted
  | some players =>
    rw [found] at counted
    split at counted
    next => cases counted
    next => exact Option.some.inj counted

theorem Tallies.sum_eq (tallies : population.Tallies total of) (playlist : UInt32) :
    of playlist + (population.playlists.remove playlist).sum UInt64.toNat = total := by
  have all := tallies.sum
  rw [← tallies.ofPlaylist playlist]
  cases found : population.playlists.get playlist with
  | none =>
    rw [Table.remove_of_get_none found, all]
    exact Nat.zero_add total
  | some players =>
    rw [Table.sum_remove_of_some _ found] at all
    exact all

theorem Tallies.add (tallies : population.Tallies total of) {playlist : UInt32} {players : UInt64}
    (positive : 0 < players.toNat) (fits : total + players.toNat < 18446744073709551616) :
    Tallies
      { players := population.players + players
        playlists := population.playlists.put playlist
          ((population.playlists.get playlist).getD 0 + players) }
      (total + players.toNat) fun other => of other + if other = playlist then players.toNat else 0 := by
  have before := tallies.ofPlaylist playlist
  have parts := tallies.sum_eq playlist
  have now : ((population.playlists.get playlist).getD 0 + players).toNat
      = of playlist + players.toNat := by
    rw [UInt64.toNat_add, before]
    omega
  constructor
  · rw [UInt64.toNat_add, tallies.players]
    omega
  · rw [Table.sum_put, now]
    omega
  · intro other
    rw [Table.get_put]
    split
    next same =>
      rw [Option.map_some, now, same, if_neg (by omega)]
    next apart => exact tallies.playlists other

end Population

namespace RegistryState

theorem exec_populationLoop (infos : List MatchMakingInfo) {population : Population} {total : Nat}
    {of : UInt32 → Nat} (tallies : population.Tallies total of)
    (fits : ∀ info ∈ infos, info.usedSlots < 2147483648)
    (together : total + (infos.map MatchMakingInfo.usedSlots).sum < 18446744073709551616) :
    ∃ population' : Population,
      exec (populationLoop checks infos population) s = (.ok population', s)
        ∧ population'.Tallies (total + (infos.map MatchMakingInfo.usedSlots).sum)
          fun playlist => of playlist + (infos.map (inPlaylist playlist)).sum := by
  induction infos generalizing population total of with
  | nil => exact ⟨population, rfl, tallies.congr rfl fun _ => rfl⟩
  | cons info infos ih =>
    obtain ⟨players, ran, counted⟩ :=
      (@players_exact_iff σ checks s info).mpr (fits info List.mem_cons_self)
    have later : ∀ info ∈ infos, info.usedSlots < 2147483648 :=
      fun info member => fits info (List.mem_cons_of_mem _ member)
    rw [List.map_cons, List.sum_cons] at together
    simp only [List.map_cons, List.sum_cons]
    rw [populationLoop, exec_bind_ok _ ran]
    by_cases some : 0 < players
    next =>
      have positive : 0 < players.toNat := UInt64.lt_iff_toNat_lt.mp some
      have before := tallies.ofPlaylist info.playlist
      have parts := tallies.sum_eq info.playlist
      have all := tallies.players
      have ofPlaylist := @exec_usizeAdd_fits σ checks s
        ((population.playlists.get info.playlist).getD 0) players (by omega)
      have ofAll := @exec_usizeAdd_fits σ checks s population.players players (by omega)
      rw [if_pos some, exec_bind_ok _ ofPlaylist.1, exec_bind_ok _ ofAll.1]
      obtain ⟨after, walked, adds⟩ :=
        ih (tallies.add positive (by omega)) later (by omega)
      refine ⟨after, walked, adds.congr (by omega) fun playlist => ?_⟩
      rw [inPlaylist, ← counted]
      by_cases same : info.playlist = playlist
      next => rw [if_pos same.symm, if_pos same, Nat.add_assoc]
      next => rw [if_neg (Ne.symm same), if_neg same, Nat.add_zero, Nat.zero_add]
    next =>
      have none : players.toNat = 0 := by
        have zero : ¬0 < players.toNat := fun positive => some (UInt64.lt_iff_toNat_lt.mpr positive)
        omega
      rw [if_neg some]
      obtain ⟨after, walked, adds⟩ := ih tallies later (by omega)
      refine ⟨after, walked, adds.congr (by omega) fun playlist => ?_⟩
      rw [inPlaylist, ← counted, none, ite_self, Nat.zero_add]

theorem sum_order (iteration : Iteration) (state : RegistryState) (weight : MatchMakingInfo → Nat) :
    (((iteration.order (state.sessions.entries.map fun entry => (entry.1, entry.2))).map
        Prod.snd).map weight).sum = state.sessions.sum weight := by
  rw [(((iteration.perm _).map Prod.snd).map weight).sum_nat, List.map_map, List.map_map]
  rfl

theorem get_of_mem_order {iteration : Iteration} {state : RegistryState} {connection : SessionId}
    (member : (connection, info)
      ∈ iteration.order (state.sessions.entries.map fun entry => (entry.1, entry.2))) :
    state.sessions.get connection = some info := by
  obtain ⟨entry, here, same⟩ := List.mem_map.mp ((iteration.perm _).mem_iff.mp member)
  obtain ⟨rfl, rfl⟩ := Prod.mk.inj same
  exact Table.get_eq_some_iff.mpr here

structure Fits (state : RegistryState) : Prop where
  used : ∀ connection info, state.sessions.get connection = some info →
    info.usedSlots < 2147483648
  open_ : ∀ connection info, state.sessions.get connection = some info →
    info.openSlots < 2147483648
  together : state.playing < 18446744073709551616

theorem exec_population {state : RegistryState} (fits : Fits state) (iteration : Iteration) :
    ∃ population : Population, exec (state.population checks iteration) s = (.ok population, s)
      ∧ population.Tallies state.playing state.playingIn := by
  have all := sum_order iteration state MatchMakingInfo.usedSlots
  have each : ∀ info ∈ (iteration.order (state.sessions.entries.map
      fun entry => (entry.1, entry.2))).map Prod.snd, info.usedSlots < 2147483648 := by
    intro info member
    obtain ⟨entry, visited, rfl⟩ := List.mem_map.mp member
    exact fits.used entry.1 entry.2 (get_of_mem_order visited)
  obtain ⟨population, ran, tallies⟩ := @exec_populationLoop σ checks s _ _ _ _
    Population.tallies_empty each (by rw [all, Nat.zero_add]; exact fits.together)
  refine ⟨population, ran, tallies.congr (by rw [all, Nat.zero_add]; rfl) fun playlist => ?_⟩
  rw [sum_order, Nat.zero_add]
  rfl

theorem exec_listForLoop (connection : SessionId) (query : SessionQuery)
    (entries : List (SessionId × MatchMakingInfo))
    (fits : ∀ entry ∈ entries, entry.2.openSlots < 2147483648) (addresses : List (List UInt8))
    (left : Nat) :
    ∃ infos, exec (listForLoop checks connection query entries addresses left) s = (.ok infos, s) := by
  induction entries generalizing addresses left with
  | nil => cases left <;> exact ⟨[], rfl⟩
  | cons entry entries ih =>
    obtain ⟨c, info⟩ := entry
    have later := ih fun entry member => fits entry (List.mem_cons_of_mem _ member)
    obtain ⟨free, sums, _⟩ :=
      (@freeSlots_exact_iff σ checks s info).mpr (fits (c, info) List.mem_cons_self)
    cases left with
    | zero => exact ⟨[], rfl⟩
    | succ left =>
      have found : ∃ matched, exec (info.matchesQuery checks query) s = (.ok matched, s) := by
        unfold MatchMakingInfo.matchesQuery
        split
        next =>
          split
          next => exact ⟨true, rfl⟩
          next => exact ⟨_, by rw [exec_bind_ok _ sums]; rfl⟩
        next => exact ⟨false, rfl⟩
      obtain ⟨matched, ran⟩ := found
      rw [listForLoop]
      split
      next => exact later addresses (left + 1)
      next =>
        rw [exec_bind_ok _ ran]
        cases matched with
        | false => exact later addresses (left + 1)
        | true =>
          rw [if_pos rfl]
          split
          next => exact later addresses (left + 1)
          next =>
            obtain ⟨others, walked⟩ := later (info.address :: addresses) left
            rw [exec_bind_ok _ walked]
            exact ⟨_, rfl⟩

theorem exec_listFor_fits {state : RegistryState} (fits : Fits state) (iteration : Iteration)
    (connection : SessionId) (query : SessionQuery) :
    ∃ infos, exec (state.listFor checks iteration connection query) s = (.ok infos, s) :=
  exec_listForLoop connection query _
    (fun entry member => fits.open_ entry.1 entry.2 (get_of_mem_order member)) [] query.maxResults

variable {state : RegistryState} {connection : SessionId} {minted : Minted}

theorem fits_new : Fits new := ⟨nofun, nofun, by decide⟩

theorem fits_forget (fits : Fits state) (connection : SessionId) :
    Fits (state.forget connection).2 := by
  have kept {other : SessionId} {info : MatchMakingInfo}
      (found : (state.forget connection).2.sessions.get other = some info) :
      state.sessions.get other = some info := by
    rw [forget_sessions, Table.get_remove] at found
    split at found
    next => cases found
    next => exact found
  refine ⟨fun other info found => fits.used other info (kept found),
    fun other info found => fits.open_ other info (kept found), ?_⟩
  rw [playing, forget_sessions]
  exact Nat.lt_of_le_of_lt (Table.sum_remove_le _ _ _) fits.together

theorem fits_remember_iff (fits : Fits state) (connection : SessionId) (info : MatchMakingInfo) :
    Fits ((state.forget connection).2.remember connection info)
      ↔ LockedRegistry.Countable state connection info := by
  have sessions : ((state.forget connection).2.remember connection info).sessions
      = (state.sessions.remove connection).put connection info := by
    rw [remember, forget_sessions]
  have total : ((state.forget connection).2.remember connection info).playing
      = info.usedSlots + (state.forget connection).2.playing := by
    rw [playing, sessions, Table.sum_put, Table.remove_of_get_none (Table.get_remove_self _ _),
      playing, forget_sessions]
  constructor
  · intro after
    have here : ((state.forget connection).2.remember connection info).sessions.get connection
        = some info := by
      rw [sessions, Table.get_put_self]
    exact ⟨after.used connection info here, after.open_ connection info here,
      total ▸ after.together⟩
  · intro countable
    have split {other : SessionId} {found : MatchMakingInfo}
        (present : ((state.forget connection).2.remember connection info).sessions.get other
          = some found) :
        found = info ∨ state.sessions.get other = some found := by
      rw [sessions, Table.get_put, Table.get_remove] at present
      split at present
      next => exact .inl (Option.some.inj present).symm
      next => exact .inr present
    refine ⟨fun other found present => ?_, fun other found present => ?_, ?_⟩
    · rcases split present with rfl | old
      next => exact countable.used
      next => exact fits.used other found old
    · rcases split present with rfl | old
      next => exact countable.open_
      next => exact fits.open_ other found old
    · rw [total]
      exact countable.together

theorem step_update (state : RegistryState) (connection : SessionId) (info : MatchMakingInfo)
    (minted : Minted) :
    ∃ host key, step state (.update connection info minted)
      = (state.forget connection).2.remember connection { info with host, key } := by
  rw [step, update]
  rcases forgotten : state.forget connection with ⟨before, rest⟩
  cases before with
  | some old => exact ⟨old.host, old.key, rfl⟩
  | none => exact ⟨minted.id.toList, minted.secret.toList, rfl⟩

theorem countable_withHost {info : MatchMakingInfo} {host key : List UInt8} :
    LockedRegistry.Countable state connection { info with host, key }
      ↔ LockedRegistry.Countable state connection info :=
  ⟨fun countable => ⟨countable.used, countable.open_, countable.together⟩,
    fun countable => ⟨countable.used, countable.open_, countable.together⟩⟩

end RegistryState

namespace LockedRegistry

variable {r : LockedRegistry}

theorem exact_iff_fits : Exact checks r ↔ r.poisoned = false ∧ r.state.Fits := by
  constructor
  · intro exact_
    refine ⟨exact_.free, fun c info found => players_exact_iff.mp (exact_.players c info found),
      fun c info found => freeSlots_exact_iff.mp (exact_.freeSlots c info found), ?_⟩
    obtain ⟨population, _, tallies⟩ := exact_.population ⟨id, fun entries => .refl entries⟩
    rw [← tallies.players]
    exact population.players.toNat_lt
  · rintro ⟨free, fits⟩
    exact
      { free
        players := fun c info found => players_exact_iff.mpr (fits.used c info found)
        freeSlots := fun c info found => freeSlots_exact_iff.mpr (fits.open_ c info found)
        listFor := RegistryState.exec_listFor_fits fits
        population := RegistryState.exec_population fits }

theorem step_op (free : r.poisoned = false) (op : RegistryState.Op) :
    step checks r (.op op) = { r with state := RegistryState.step r.state op } :=
  congrArg Prod.snd (exec_locked_onState _ free)

theorem step_reads (exact_ : Exact checks r) {call : Call} (reads : ∀ op, call ≠ .op op) :
    step checks r call = r := by
  have locks {α : Type} {body : Fallible LockedRegistry α} {a : α}
      (ran : exec body r = (.ok a, r)) :
      (exec (locked do let r ← get; let _ ← (fun _ => body) r; pure ()) r).2 = r := by
    have within : exec (do let r ← get; let _ ← (fun _ => body) r; pure ()) r = (.ok (), r) := by
      rw [exec_bind_ok _ (exec_get r), exec_bind_ok _ ran]
      rfl
    exact congrArg Prod.snd (Mutex.exec_guarded_ok exact_.free within)
  cases call with
  | op op => exact absurd rfl (reads op)
  | listFor connection query iteration =>
    obtain ⟨infos, ran⟩ := exact_.listFor iteration connection query
    exact locks ran
  | population iteration =>
    obtain ⟨population, ran, _⟩ := exact_.population iteration
    exact locks ran

theorem exact_step_iff (exact_ : Exact checks r) (call : Call) :
    Exact checks (step checks r call) ↔ AdvertisesCountable r call := by
  obtain ⟨free, fits⟩ := exact_iff_fits.mp exact_
  cases call with
  | op op =>
    rw [step_op free, exact_iff_fits]
    have unlocked : (r.poisoned = false ∧ (RegistryState.step r.state op).Fits)
        ↔ (RegistryState.step r.state op).Fits := ⟨fun both => both.2, fun after => ⟨free, after⟩⟩
    rw [unlocked]
    cases op with
    | create connection info minted =>
      exact (RegistryState.fits_remember_iff fits connection _).trans
        RegistryState.countable_withHost
    | update connection info minted =>
      obtain ⟨host, key, did⟩ := RegistryState.step_update r.state connection info minted
      rw [did, RegistryState.fits_remember_iff fits]
      exact RegistryState.countable_withHost
    | delete connection id =>
      refine ⟨fun _ => trivial, fun _ => ?_⟩
      rw [RegistryState.step, RegistryState.delete]
      split
      next => exact fits
      next =>
        split
        next => exact fits
        next => exact RegistryState.fits_forget fits connection
    | removeConnection connection =>
      exact ⟨fun _ => trivial, fun _ => RegistryState.fits_forget fits connection⟩
  | listFor connection query iteration =>
    rw [step_reads exact_ (by simp)]
    exact ⟨fun _ => trivial, fun _ => exact_⟩
  | population iteration =>
    rw [step_reads exact_ (by simp)]
    exact ⟨fun _ => trivial, fun _ => exact_⟩

theorem exact_new : Exact checks new := exact_iff_fits.mpr ⟨rfl, RegistryState.fits_new⟩

/--
The counts are exact in every state of a run, and the lock is never poisoned,
exactly if no client advertises more used or more free slots than 32 bits hold
and all players together fit 64.
-/
theorem exact_always_iff (checks : Bool) (calls : List Call) :
    Always (step checks) (Exact checks) new calls
      ↔ Meets (step checks) AdvertisesCountable new calls :=
  @always_iff_meets _ _ (step checks) (fun _ => True) (Exact checks) AdvertisesCountable
    (fun _ _ _ _ _ => trivial) (fun _ call _ exact_ => exact_step_iff exact_ call) _ _ trivial
    exact_new

def crowded : MatchMakingInfo :=
  { address := .replicate 37 0, host := .replicate 8 0, key := .replicate 16 0
    freePublicSlots := 0, usedPublicSlots := 2147483647, freePrivateSlots := 0
    usedPrivateSlots := 1, titleData := .replicate 9 0 }

def advertised (checks : Bool) : LockedRegistry :=
  run (step checks) new [.op (.create 1 crowded ⟨.replicate 8 0, .replicate 16 0⟩)]

theorem crowded_overflows :
    (step true (advertised true) (.population ⟨id, fun entries => .refl entries⟩)).poisoned = true
      ∧ exec (crowded.players false) (advertised false)
        = (.ok 18446744071562067968, advertised false)
      ∧ ∀ checks, ¬Always (step checks) (Exact checks) new
        [.op (.create 1 crowded ⟨.replicate 8 0, .replicate 16 0⟩)] := by
  refine ⟨rfl, rfl, fun checks always => ?_⟩
  have fits := players_exact_iff.mp (always.2.players 1 _ rfl)
  exact absurd fits (by decide)

end LockedRegistry

end Sums

end BitDemon
