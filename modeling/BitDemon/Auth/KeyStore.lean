import BitDemon.Library.Runs
import Mathlib.Data.List.Induction

set_option autoImplicit false

/-!
# The rotating key ring

Sixteen slots hold the keys; the newest one encrypts, and every slot whose time
has not passed still decrypts.
-/

namespace BitDemon

structure BackendPrivateKey where
  aesKey : Vector UInt8 32
  aesIv : Vector UInt8 16
  deriving DecidableEq

namespace KeyStore

def inMemoryKeyLifespan : Int := 15 * 60

def inMemoryKeyTimeout : Int := 14 * 60

def maxConcurrentlyValidKeys : Nat :=
  (inMemoryKeyLifespan / (inMemoryKeyLifespan - inMemoryKeyTimeout)).toNat

def inMemoryKeyStorageCount : Nat := maxConcurrentlyValidKeys + 1

theorem inMemoryKeyStorageCount_eq : inMemoryKeyStorageCount = 16 := rfl

structure InMemoryKey where
  aesKey : Vector UInt8 32
  aesIv : Vector UInt8 16
  validUntil : Int
  deriving DecidableEq

def InMemoryKey.empty : InMemoryKey :=
  { aesKey := Vector.replicate 32 0, aesIv := Vector.replicate 16 0, validUntil := 0 }

def InMemoryKey.export (key : InMemoryKey) : BackendPrivateKey :=
  { aesKey := key.aesKey, aesIv := key.aesIv }

structure InMemoryKeyState where
  keys : Vector InMemoryKey inMemoryKeyStorageCount
  keyIndex : Fin inMemoryKeyStorageCount

def InMemoryKeyState.slot (state : InMemoryKeyState) (i : Fin inMemoryKeyStorageCount) :
    InMemoryKey :=
  state.keys[i]

def InMemoryKeyState.new : InMemoryKeyState :=
  { keys := Vector.replicate _ InMemoryKey.empty, keyIndex := ⟨0, by decide⟩ }

def nextIndex (keyIndex : Fin inMemoryKeyStorageCount) : Fin inMemoryKeyStorageCount :=
  ⟨(keyIndex.val + 1) % inMemoryKeyStorageCount, Nat.mod_lt _ (by decide)⟩

def rotates (now : Int) (state : InMemoryKeyState) : Prop :=
  (state.slot state.keyIndex).validUntil < now + inMemoryKeyTimeout

instance (now : Int) (state : InMemoryKeyState) : Decidable (rotates now state) :=
  inferInstanceAs (Decidable (_ < _))

def rotate (now : Int) (fresh : BackendPrivateKey) (state : InMemoryKeyState) : InMemoryKeyState :=
  let keyIndex := nextIndex state.keyIndex
  let nextKey : InMemoryKey :=
    { aesKey := fresh.aesKey, aesIv := fresh.aesIv, validUntil := now + inMemoryKeyLifespan }
  { keys := state.keys.set keyIndex nextKey, keyIndex := keyIndex }

def getCurrentKey (now : Int) (fresh : BackendPrivateKey) (state : InMemoryKeyState) :
    BackendPrivateKey × InMemoryKeyState :=
  if rotates now state then
    let state := rotate now fresh state
    ((state.slot state.keyIndex).export, state)
  else
    ((state.slot state.keyIndex).export, state)

def validSlots (now : Int) (state : InMemoryKeyState) : List InMemoryKey :=
  state.keys.toList.filter fun key => decide (now ≤ key.validUntil)

def getValidKeys (now : Int) (state : InMemoryKeyState) : List BackendPrivateKey :=
  (validSlots now state).map InMemoryKey.export

inductive Call where
  /-- `get_current_key`; `fresh` is what the random generator gives if the ring rotates. -/
  | current (now : Int) (fresh : BackendPrivateKey)
  | valid (now : Int)
  deriving DecidableEq

def Call.now : Call → Int
  | .current now _ => now
  | .valid now => now

def step (state : InMemoryKeyState) : Call → InMemoryKeyState
  | .current now fresh => (getCurrentKey now fresh state).2
  | .valid _ => state

def Schedule (calls : List Call) : Prop :=
  (∀ call ∈ calls, 0 < call.now) ∧ calls.Pairwise fun earlier later => earlier.now ≤ later.now

def drawn (calls : List Call) : List BackendPrivateKey :=
  calls.filterMap fun call =>
    match call with
    | .current _ fresh => some fresh
    | .valid _ => none

abbrev after (calls : List Call) : InMemoryKeyState := Runs.run step .new calls

def indexBehind (keyIndex : Fin inMemoryKeyStorageCount) (j : Nat) : Fin inMemoryKeyStorageCount :=
  ⟨(keyIndex.val + (16 - j)) % 16, Nat.mod_lt _ (by decide)⟩

def behind (state : InMemoryKeyState) (j : Nat) : InMemoryKey :=
  state.slot (indexBehind state.keyIndex j)

theorem indexBehind_zero (keyIndex : Fin inMemoryKeyStorageCount) :
    indexBehind keyIndex 0 = keyIndex := by
  have bound : keyIndex.val < 16 := keyIndex.isLt
  apply Fin.ext
  simp only [indexBehind]
  omega

theorem indexBehind_next_succ (keyIndex : Fin inMemoryKeyStorageCount) {j : Nat}
    (inside : j < 16) : indexBehind (nextIndex keyIndex) (j + 1) = indexBehind keyIndex j := by
  apply Fin.ext
  simp only [indexBehind, nextIndex, inMemoryKeyStorageCount_eq]
  omega

theorem nextIndex_ne_behind (keyIndex : Fin inMemoryKeyStorageCount) {j : Nat} (inside : j < 15) :
    (nextIndex keyIndex).val ≠ (indexBehind keyIndex j).val := by
  have bound : keyIndex.val < 16 := keyIndex.isLt
  simp only [indexBehind, nextIndex, inMemoryKeyStorageCount_eq]
  omega

theorem behind_zero (state : InMemoryKeyState) : behind state 0 = state.slot state.keyIndex := by
  rw [behind, indexBehind_zero]

theorem behind_last (state : InMemoryKeyState) :
    behind state 15 = state.slot (nextIndex state.keyIndex) := rfl

theorem slot_rotate_self (now : Int) (fresh : BackendPrivateKey) (state : InMemoryKeyState) :
    (rotate now fresh state).slot (nextIndex state.keyIndex)
      = { aesKey := fresh.aesKey, aesIv := fresh.aesIv, validUntil := now + inMemoryKeyLifespan } :=
  Vector.getElem_set_self (nextIndex state.keyIndex).isLt

theorem slot_rotate_other (now : Int) (fresh : BackendPrivateKey) (state : InMemoryKeyState)
    {i : Fin inMemoryKeyStorageCount} (other : (nextIndex state.keyIndex).val ≠ i.val) :
    (rotate now fresh state).slot i = state.slot i :=
  Vector.getElem_set_ne (nextIndex state.keyIndex).isLt i.isLt other

theorem behind_rotate_zero (now : Int) (fresh : BackendPrivateKey) (state : InMemoryKeyState) :
    behind (rotate now fresh state) 0
      = { aesKey := fresh.aesKey, aesIv := fresh.aesIv, validUntil := now + inMemoryKeyLifespan } := by
  rw [behind_zero]
  exact slot_rotate_self now fresh state

theorem behind_rotate_succ (now : Int) (fresh : BackendPrivateKey) (state : InMemoryKeyState)
    {j : Nat} (inside : j < 15) :
    behind (rotate now fresh state) (j + 1) = behind state j := by
  have index : indexBehind (rotate now fresh state).keyIndex (j + 1)
      = indexBehind state.keyIndex j := indexBehind_next_succ state.keyIndex (by omega)
  rw [behind, index]
  exact slot_rotate_other now fresh state (nextIndex_ne_behind state.keyIndex inside)

/-- Rotations lie more than a minute apart, so going back a slot goes back at least 61 seconds. -/
structure Spaced (clock : Int) (state : InMemoryKeyState) : Prop where
  newest : (behind state 0).validUntil ≤ clock + inMemoryKeyLifespan
  spacing : ∀ j < 16, (behind state j).validUntil + 61 * j ≤ (behind state 0).validUntil
    ∨ (behind state j).validUntil ≤ 0

theorem spaced_new : Spaced 0 .new := by
  have empty : ∀ j, behind .new j = InMemoryKey.empty := by
    intro j
    simp [behind, InMemoryKeyState.slot, InMemoryKeyState.new]
  constructor
  · rw [empty]
    decide
  · intro j _
    rw [empty]
    exact .inr (Int.le_refl 0)

theorem Spaced.later {clock now : Int} {state : InMemoryKeyState} (spaced : Spaced clock state)
    (onTime : clock ≤ now) : Spaced now state :=
  ⟨by have := spaced.newest; omega, spaced.spacing⟩

theorem overwritten_expired {now : Int} {state : InMemoryKeyState} (spaced : Spaced now state)
    (positive : 0 < now) : (behind state 15).validUntil < now := by
  have newest := spaced.newest
  have lifespan : inMemoryKeyLifespan = 900 := rfl
  rcases spaced.spacing 15 (by decide) with far | never <;> omega

theorem spaced_rotate {now : Int} {state : InMemoryKeyState} (fresh : BackendPrivateKey)
    (spaced : Spaced now state) (due : rotates now state) : Spaced now (rotate now fresh state) := by
  have zero := behind_rotate_zero now fresh state
  constructor
  · exact Int.le_of_eq (congrArg InMemoryKey.validUntil zero)
  · intro j inside
    rw [zero]
    cases j with
    | zero =>
      rw [zero]
      exact .inl (by simp)
    | succ j =>
      rw [behind_rotate_succ now fresh state (by omega)]
      have lifespan : inMemoryKeyLifespan = 900 := rfl
      have timeout : inMemoryKeyTimeout = 840 := rfl
      rw [rotates, ← behind_zero] at due
      refine (spaced.spacing j (by omega)).imp_left fun far => ?_
      change (behind state j).validUntil + 61 * ((j + 1 : Nat) : Int) ≤ now + inMemoryKeyLifespan
      omega

theorem spaced_step {clock : Int} {state : InMemoryKeyState} (call : Call)
    (spaced : Spaced clock state) (onTime : clock ≤ call.now) : Spaced call.now (step state call) := by
  have now := spaced.later onTime
  cases call with
  | valid => exact now
  | current t fresh =>
    simp only [step, getCurrentKey]
    split
    next due => exact spaced_rotate fresh now due
    next fine => exact now

theorem mem_validSlots {now : Int} {state : InMemoryKeyState} {key : InMemoryKey} :
    key ∈ validSlots now state ↔ key ∈ state.keys ∧ now ≤ key.validUntil := by
  simp [validSlots]

theorem mem_rotate {now : Int} {fresh : BackendPrivateKey} {state : InMemoryKeyState}
    {key : InMemoryKey} (present : key ∈ state.keys)
    (other : key ≠ state.slot (nextIndex state.keyIndex)) : key ∈ (rotate now fresh state).keys := by
  obtain ⟨i, inside, same⟩ := Vector.mem_iff_getElem.mp present
  have here : state.slot ⟨i, inside⟩ = key := same
  have apart : (nextIndex state.keyIndex).val ≠ i := by
    intro overwritten
    have index : nextIndex state.keyIndex = ⟨i, inside⟩ := Fin.ext overwritten
    rw [index, here] at other
    exact other rfl
  have kept : _ = state.slot ⟨i, inside⟩ := slot_rotate_other now fresh state apart
  exact Vector.mem_iff_getElem.mpr ⟨i, inside, kept.trans here⟩

theorem live_step {clock : Int} {state : InMemoryKeyState} {call : Call} {key : InMemoryKey}
    (spaced : Spaced clock state) (onTime : clock ≤ call.now) (positive : 0 < call.now)
    (present : key ∈ state.keys) (live : call.now ≤ key.validUntil) :
    key ∈ (step state call).keys := by
  cases call with
  | valid => exact present
  | current t fresh =>
    simp only [step, getCurrentKey]
    split
    next due =>
      refine mem_rotate present fun same => ?_
      have expired := overwritten_expired (spaced.later onTime) positive
      rw [behind_last, ← same] at expired
      exact absurd live (Int.not_le.mpr expired)
    next fine => exact present

def Between (first : Int) (calls : List Call) (last : Int) : Prop :=
  (first :: (calls.map Call.now ++ [last])).Pairwise (· ≤ ·)

theorem Between.cons {first last : Int} {call : Call} {rest : List Call}
    (between : Between first (call :: rest) last) :
    first ≤ call.now ∧ call.now ≤ last ∧ Between call.now rest last := by
  obtain ⟨fromFirst, others⟩ := List.pairwise_cons.mp between
  have fromCall := (List.pairwise_cons.mp others).1
  exact ⟨fromFirst call.now (by simp), fromCall last (by simp), others⟩

theorem spaced_run {last : Int} {calls : List Call} :
    ∀ {clock : Int} {state : InMemoryKeyState}, Spaced clock state → Between clock calls last →
      Spaced last (Runs.run step state calls) := by
  induction calls with
  | nil =>
    intro clock state spaced between
    exact spaced.later ((List.pairwise_cons.mp between).1 last (by simp))
  | cons call rest ih =>
    intro clock state spaced between
    obtain ⟨onTime, _, later⟩ := between.cons
    exact ih (spaced_step call spaced onTime) later

theorem live_run {last : Int} {calls : List Call} {key : InMemoryKey}
    (live : last ≤ key.validUntil) :
    ∀ {clock : Int} {state : InMemoryKeyState}, Spaced clock state → 0 < clock →
      Between clock calls last → key ∈ state.keys → key ∈ (Runs.run step state calls).keys := by
  induction calls with
  | nil =>
    intro clock state _ _ _ present
    exact present
  | cons call rest ih =>
    intro clock state spaced positive between present
    obtain ⟨onTime, early, later⟩ := between.cons
    have stays := live_step spaced onTime (by omega) present (Int.le_trans early live)
    exact ih (spaced_step call spaced onTime) (by omega) later stays

def encrypting (now : Int) (fresh : BackendPrivateKey) (state : InMemoryKeyState) : InMemoryKey :=
  let state := (getCurrentKey now fresh state).2
  state.slot state.keyIndex

theorem encrypting_mem (now : Int) (fresh : BackendPrivateKey) (state : InMemoryKeyState) :
    encrypting now fresh state ∈ (getCurrentKey now fresh state).2.keys :=
  Vector.getElem_mem _

theorem encrypting_export (now : Int) (fresh : BackendPrivateKey) (state : InMemoryKeyState) :
    (encrypting now fresh state).export = (getCurrentKey now fresh state).1 := by
  simp only [encrypting, getCurrentKey]
  split <;> rfl

theorem encrypting_lives (now : Int) (fresh : BackendPrivateKey) (state : InMemoryKeyState) :
    now + inMemoryKeyTimeout ≤ (encrypting now fresh state).validUntil := by
  simp only [encrypting, getCurrentKey]
  split
  next due =>
    have newest := slot_rotate_self now fresh state
    have lifespan : inMemoryKeyLifespan = 900 := rfl
    have timeout : inMemoryKeyTimeout = 840 := rfl
    change _ ≤ ((rotate now fresh state).slot (nextIndex state.keyIndex)).validUntil
    rw [newest]
    change now + inMemoryKeyTimeout ≤ now + inMemoryKeyLifespan
    omega
  next fine => exact Int.not_lt.mp fine

theorem encrypting_stays {before middle : List Call} {t t' : Int} {fresh : BackendPrivateKey}
    (spaced : Spaced t (after before)) (positive : 0 < t) (between : Between t middle t')
    (live : t' ≤ (encrypting t fresh (after before)).validUntil) :
    encrypting t fresh (after before)
      ∈ validSlots t' (Runs.run step (step (after before) (.current t fresh)) middle) := by
  have stepped : Spaced t (step (after before) (.current t fresh)) :=
    spaced_step (.current t fresh) spaced (Int.le_refl t)
  exact mem_validSlots.mpr
    ⟨live_run live stepped positive between (encrypting_mem t fresh (after before)), live⟩

theorem mem_of_mem_rotate {now : Int} {fresh : BackendPrivateKey} {state : InMemoryKeyState}
    {key : InMemoryKey} (member : key ∈ (rotate now fresh state).keys) :
    key ∈ state.keys ∨ key.export = fresh := by
  simp only [rotate] at member
  refine (Vector.mem_or_eq_of_mem_set member).imp_right fun new => ?_
  rw [new]
  rfl

theorem slots_drawn (calls : List Call) :
    ∀ key ∈ (after calls).keys, key = InMemoryKey.empty ∨ key.export ∈ drawn calls := by
  induction calls using List.reverseRecOn with
  | nil =>
    intro key member
    exact .inl (by simpa [InMemoryKeyState.new] using (Vector.mem_replicate.mp member).2)
  | append_singleton calls call ih =>
    intro key member
    have more : ∀ k, k ∈ drawn calls → k ∈ drawn (calls ++ [call]) := by
      intro k
      simp only [drawn, List.filterMap_append, List.mem_append]
      exact Or.inl
    have older : key ∈ (after calls).keys → key = InMemoryKey.empty ∨ key.export ∈ drawn (calls ++ [call]) :=
      fun present => (ih key present).imp_right (more _)
    rw [after, Runs.run_append] at member
    cases call with
    | valid now => exact older member
    | current now fresh =>
      simp only [Runs.run_cons, Runs.run_nil, step, getCurrentKey] at member
      split at member
      next due =>
        rcases mem_of_mem_rotate member with present | new
        · exact older present
        · exact .inr (by simp [drawn, new])
      next fine => exact older member

theorem between_of_schedule {before rest : List Call} {call : Call}
    (schedule : Schedule (before ++ call :: rest)) : Between 0 before call.now := by
  obtain ⟨positive, order⟩ := schedule
  refine List.pairwise_cons.mpr ⟨?_, ?_⟩
  · intro time member
    simp only [List.mem_append, List.mem_map, List.mem_singleton] at member
    rcases member with ⟨earlier, present, rfl⟩ | rfl
    · exact Int.le_of_lt (positive earlier (by simp [present]))
    · exact Int.le_of_lt (positive call (by simp))
  · have front : (before ++ [call]).Pairwise fun a b => a.now ≤ b.now :=
      order.sublist (by simp)
    have times := List.pairwise_map.mpr front
    simpa using times

theorem between_after {before middle rest : List Call} {t t' : Int} {fresh : BackendPrivateKey}
    (schedule : Schedule (before ++ .current t fresh :: (middle ++ .valid t' :: rest))) :
    Between t middle t' := by
  have part : (.current t fresh :: (middle ++ [.valid t'])).Pairwise
      fun a b : Call => a.now ≤ b.now := schedule.2.sublist (by simp)
  simpa [Between, Call.now] using List.pairwise_map.mpr part

/-- The three promises of the ring, at every place of every schedule. -/
theorem keyRing_keeps_live_keys (calls : List Call) (schedule : Schedule calls) :
    (∀ before t fresh middle t' rest,
        calls = before ++ .current t fresh :: (middle ++ .valid t' :: rest) →
        t' ≤ t + inMemoryKeyTimeout →
        (getCurrentKey t fresh (after before)).1
          ∈ getValidKeys t' (after (before ++ .current t fresh :: middle)))
    ∧ (∀ before t fresh rest, calls = before ++ .current t fresh :: rest →
        rotates t (after before) →
        ((after before).slot (nextIndex (after before).keyIndex)).validUntil < t)
    ∧ (∀ before t' rest, calls = before ++ .valid t' :: rest →
        ∀ key ∈ validSlots t' (after before),
          t' ≤ key.validUntil ∧ key ≠ InMemoryKey.empty ∧ key.export ∈ drawn before) := by
  refine ⟨?_, ?_, ?_⟩
  · intro before t fresh middle t' rest whole soon
    subst whole
    have spaced : Spaced t (after before) := spaced_run spaced_new (between_of_schedule schedule)
    have positive : 0 < t := schedule.1 (.current t fresh) (by simp)
    have live : t' ≤ (encrypting t fresh (after before)).validUntil :=
      Int.le_trans soon (encrypting_lives t fresh (after before))
    have stays := encrypting_stays spaced positive (between_after schedule) live
    rw [getValidKeys, ← encrypting_export, after, Runs.run_append]
    exact List.mem_map_of_mem stays
  · intro before t fresh rest whole due
    subst whole
    have spaced : Spaced t (after before) := spaced_run spaced_new (between_of_schedule schedule)
    have positive : 0 < t := schedule.1 (.current t fresh) (by simp)
    rw [← behind_last]
    exact overwritten_expired spaced positive
  · intro before t' rest whole key member
    subst whole
    obtain ⟨present, live⟩ := mem_validSlots.mp member
    have positive : 0 < t' := schedule.1 (.valid t') (by simp)
    have notEmpty : key ≠ InMemoryKey.empty := by
      intro initial
      rw [initial] at live
      exact absurd positive (Int.not_lt.mpr live)
    exact ⟨live, notEmpty, (slots_drawn before key present).resolve_left notEmpty⟩

theorem keyRing_keeps_live_keys_two :
    (getCurrentKey 1000 ⟨Vector.replicate 32 1, Vector.replicate 16 2⟩ (after [])).1
      ∈ getValidKeys 1840 (after [.current 1000 ⟨Vector.replicate 32 1, Vector.replicate 16 2⟩,
          .current 1061 ⟨Vector.replicate 32 3, Vector.replicate 16 4⟩]) := by
  let first : BackendPrivateKey := ⟨Vector.replicate 32 1, Vector.replicate 16 2⟩
  let second : BackendPrivateKey := ⟨Vector.replicate 32 3, Vector.replicate 16 4⟩
  have schedule : Schedule [.current 1000 first, .current 1061 second, .valid 1840] := by
    constructor
    · simp [Call.now]
    · simp [Call.now]
  exact (keyRing_keeps_live_keys _ schedule).1 [] 1000 first [.current 1061 second] 1840 [] rfl
    (by decide)

end KeyStore

end BitDemon
