import BitDemon.Library.Runs
import BitDemon.Library.Table
import Mathlib.Algebra.Group.Nat.Defs

set_option autoImplicit false

/-!
# Waiting for a revision

A bump first counts up the revisions of its users and then sends a tick. A
caller subscribes to the ticks before it looks at the revision it waits for.
-/

namespace BitDemon

namespace Watch

-- durations, and the clocks they are measured on, are in nanoseconds
def onlineFor : Nat := 45 * 10 ^ 9

def maxWait : Nat := 30 * 10 ^ 9

abbrev Revisions := Table UInt64 UInt64

def revision (epoch : UInt64) (revisions : Revisions) (user : UInt64) : UInt64 :=
  (revisions.get user).getD epoch

-- `*revisions.entry(*user).or_insert(*EPOCH) += 1`; an overflow is a panic
def increment (epoch : UInt64) (revisions : Revisions) (user : UInt64) : Option Revisions :=
  let count := revision epoch revisions user
  if count.toNat + 1 < 2 ^ 64 then some (revisions.put user (count + 1)) else none

-- the half of `bump` under the lock
def countUp (epoch : UInt64) (revisions : Revisions) (users : List UInt64) : Option Revisions :=
  users.foldlM (increment epoch) revisions

theorem revision_increment {epoch : UInt64} {revisions next : Revisions} {user : UInt64}
    (counted : increment epoch revisions user = some next) (other : UInt64) :
    (revision epoch next other).toNat
      = (revision epoch revisions other).toNat + if user = other then 1 else 0 := by
  unfold increment at counted
  dsimp only at counted
  split at counted
  next room =>
    obtain rfl := Option.some.inj counted
    by_cases same : user = other
    · subst same
      have sum : (revision epoch revisions user + 1).toNat
          = (revision epoch revisions user).toNat + 1 := by
        rw [UInt64.toNat_add]
        exact Nat.mod_eq_of_lt room
      rw [if_pos rfl, ← sum]
      simp [revision]
    · have kept : (revisions.put user (revision epoch revisions user + 1)).get other
          = revisions.get other := Table.get_put_of_ne _ _ (Ne.symm same)
      rw [if_neg same, revision, kept]
      rfl
  next full => cases counted

theorem revision_countUp {epoch : UInt64} {revisions next : Revisions} {users : List UInt64}
    (counted : countUp epoch revisions users = some next) (other : UInt64) :
    (revision epoch next other).toNat
      = (revision epoch revisions other).toNat + users.count other := by
  induction users generalizing revisions with
  | nil =>
    obtain rfl : revisions = next := Option.some.inj counted
    simp
  | cons user users ih =>
    obtain ⟨mid, first, rest⟩ := Option.bind_eq_some_iff.mp counted
    have later := ih rest
    have here := revision_increment first other
    rw [List.count_cons]
    simp only [beq_iff_eq]
    omega

inductive Phase where
  | called
  | subscribed (seen : Nat)
  | looking (seen deadline : Nat)
  -- blocked in `changed`, with a timer set
  | waiting (seen deadline : Nat)
  | expired (deadline : Nat)
  | returned (revision : UInt64) (deadline : Option Nat) (clock : Nat)
  deriving DecidableEq

structure Waiter where
  user : UInt64
  since : Option UInt64
  wait : Nat
  phase : Phase
  deriving DecidableEq

inductive BumpPhase where
  | updating | ticking | finished
  deriving DecidableEq

structure Bump where
  users : List UInt64
  phase : BumpPhase
  deriving DecidableEq

structure Server where
  revisions : Revisions
  -- how many ticks were sent
  tick : Nat
  clock : Nat
  waiters : Table Nat Waiter
  bumps : Table Nat Bump

namespace Server

def started : Server := { revisions := ∅, tick := 0, clock := 0, waiters := ∅, bumps := ∅ }

variable (epoch : UInt64)

def revision (s : Server) (user : UInt64) : UInt64 := Watch.revision epoch s.revisions user

/-- The next step of a call; `changed` is ready once a tick was sent that is not seen yet. -/
def resume (s : Server) (w : Waiter) : Waiter :=
  match w.phase with
  | .called =>
    match w.since with
    | none => { w with phase := .returned (s.revision epoch w.user) none s.clock }
    | some _ => { w with phase := .subscribed s.tick }
  | .subscribed seen => { w with phase := .looking seen (s.clock + min w.wait maxWait) }
  | .looking seen deadline =>
    let now := s.revision epoch w.user
    if w.since ≠ some now then { w with phase := .returned now (some deadline) s.clock }
    else { w with phase := .waiting seen deadline }
  | .waiting seen deadline =>
    if seen < s.tick then { w with phase := .looking s.tick deadline } else w
  | .expired deadline =>
    { w with phase := .returned (s.revision epoch w.user) (some deadline) s.clock }
  | .returned _ _ _ => w

-- the timer of `timeout_at`
def expire (s : Server) (w : Waiter) : Waiter :=
  match w.phase with
  | .waiting _ deadline => if deadline ≤ s.clock then { w with phase := .expired deadline } else w
  | _ => w

-- a bump that cannot count up panics, so it takes no further step
def work (s : Server) (id : Nat) (b : Bump) : Server :=
  match b.phase with
  | .updating =>
    match countUp epoch s.revisions b.users with
    | none => s
    | some revisions =>
      { s with revisions := revisions, bumps := s.bumps.put id { b with phase := .ticking } }
  | .ticking => { s with tick := s.tick + 1, bumps := s.bumps.put id { b with phase := .finished } }
  | .finished => s

inductive Action where
  | changedSince (id : Nat) (user : UInt64) (since : Option UInt64) (wait : Nat)
  | bump (id : Nat) (users : List UInt64)
  | resume (id : Nat)
  | expire (id : Nat)
  | work (id : Nat)
  | elapse (time : Nat)
  deriving DecidableEq

def step (s : Server) : Action → Server
  | .changedSince id user since wait =>
    match s.waiters.get id with
    | none => { s with waiters := s.waiters.put id ⟨user, since, wait, .called⟩ }
    | some _ => s
  | .bump id users =>
    match s.bumps.get id with
    | none => { s with bumps := s.bumps.put id ⟨users, .updating⟩ }
    | some _ => s
  | .resume id =>
    match s.waiters.get id with
    | none => s
    | some w => { s with waiters := s.waiters.put id (s.resume epoch w) }
  | .expire id =>
    match s.waiters.get id with
    | none => s
    | some w => { s with waiters := s.waiters.put id (s.expire w) }
  | .work id =>
    match s.bumps.get id with
    | none => s
    | some b => s.work epoch id b
  | .elapse time => { s with clock := s.clock + time }

abbrev after (actions : List Action) : Server := Runs.run (step epoch) started actions

def Ticking (s : Server) : Prop := ∃ id b, s.bumps.get id = some b ∧ b.phase = .ticking

variable {epoch} {s t : Server} {w : Waiter}

structure Moves (epoch : UInt64) (s t : Server) : Prop where
  tick : s.tick ≤ t.tick
  clock : s.clock ≤ t.clock
  revision : ∀ user, s.revision epoch user ≤ t.revision epoch user
  announced : (∀ user, t.revision epoch user = s.revision epoch user) ∧ (s.Ticking → t.Ticking)
    ∨ t.Ticking ∨ s.tick < t.tick

theorem moves_of_same (revisions : t.revisions = s.revisions) (tick : t.tick = s.tick)
    (clock : s.clock ≤ t.clock) (bumps : s.Ticking → t.Ticking) : Moves epoch s t where
  tick := Nat.le_of_eq tick.symm
  clock := clock
  revision user := by rw [revision, revision, revisions]; exact UInt64.le_refl _
  announced := .inl ⟨fun user => by rw [revision, revision, revisions], bumps⟩

theorem moves_step (epoch : UInt64) (s : Server) (action : Action) : Moves epoch s (step epoch s action) := by
  have same : Moves epoch s s := moves_of_same rfl rfl (Nat.le_refl _) id
  cases action with
  | changedSince id user since wait =>
    rw [step]
    split
    next => exact moves_of_same rfl rfl (Nat.le_refl _) fun ticking => ticking
    next => exact same
  | bump id users =>
    rw [step]
    split
    next unused =>
      refine moves_of_same rfl rfl (Nat.le_refl _) ?_
      rintro ⟨other, b, found, ticking⟩
      have apart : other ≠ id := by
        rintro rfl
        simp [unused] at found
      exact ⟨other, b, (Table.get_put_of_ne _ _ apart).trans found, ticking⟩
    next => exact same
  | resume id =>
    rw [step]
    split
    next => exact same
    next => exact moves_of_same rfl rfl (Nat.le_refl _) fun ticking => ticking
  | expire id =>
    rw [step]
    split
    next => exact same
    next => exact moves_of_same rfl rfl (Nat.le_refl _) fun ticking => ticking
  | work id =>
    rw [step]
    split
    next => exact same
    next b found =>
      rw [work]
      split
      next =>
        split
        next => exact same
        next revisions counted =>
          exact
            { tick := Nat.le_refl _
              clock := Nat.le_refl _
              revision := fun user => by
                have grown := revision_countUp counted user
                exact UInt64.le_iff_toNat_le.mpr (by rw [revision, revision, grown]; omega)
              announced := .inr (.inl ⟨id, _, Table.get_put_self _ _ _, rfl⟩) }
      next =>
        exact
          { tick := Nat.le_succ _
            clock := Nat.le_refl _
            revision := fun user => UInt64.le_refl _
            announced := .inr (.inr (Nat.lt_succ_self _)) }
      next => exact same
  | elapse time => exact moves_of_same rfl rfl (Nat.le_add_right _ _) fun ticking => ticking

def Fine (epoch : UInt64) (s : Server) (w : Waiter) : Prop :=
  match w.phase with
  | .called => True
  | .subscribed seen => seen ≤ s.tick
  | .looking seen _ => seen ≤ s.tick
  | .waiting seen _ =>
    seen ≤ s.tick ∧ (w.since = some (s.revision epoch w.user) ∨ seen < s.tick ∨ s.Ticking)
  | .expired deadline => deadline ≤ s.clock
  | .returned revision deadline clock =>
    w.since = some revision → ∃ passed, deadline = some passed ∧ passed ≤ clock

theorem Fine.moves (fine : Fine epoch s w) (moves : Moves epoch s t) : Fine epoch t w := by
  unfold Fine at fine ⊢
  have tick := moves.tick
  have clock := moves.clock
  split
  next => trivial
  next phase =>
    simp only [phase] at fine
    omega
  next phase =>
    simp only [phase] at fine
    omega
  next phase =>
    simp only [phase] at fine
    obtain ⟨seen, awake⟩ := fine
    refine ⟨by omega, ?_⟩
    rcases moves.announced with ⟨same, ticking⟩ | ticking | sent
    next =>
      rw [same]
      exact awake.imp_right fun told => told.imp (fun unseen => by omega) ticking
    next => exact .inr (.inr ticking)
    next => exact .inr (.inl (by omega))
  next phase =>
    simp only [phase] at fine
    omega
  next phase =>
    simp only [phase] at fine
    exact fine

theorem Fine.resume (fine : Fine epoch s w) : Fine epoch s (s.resume epoch w) := by
  unfold Server.resume
  split
  next phase =>
    split
    next nothing => simp [Fine, nothing]
    next => simp [Fine]
  next phase =>
    simp only [Fine, phase] at fine
    exact fine
  next phase =>
    simp only [Fine, phase] at fine
    dsimp only
    split
    next differs => simp [Fine, differs]
    next same => exact ⟨fine, .inl (not_not.mp same)⟩
  next phase =>
    split
    next => exact Nat.le_refl s.tick
    next => exact fine
  next phase =>
    simp only [Fine, phase] at fine
    exact fun _ => ⟨_, rfl, fine⟩
  next => exact fine

theorem Fine.expire (fine : Fine epoch s w) : Fine epoch s (s.expire w) := by
  unfold Server.expire
  split
  next =>
    split
    next passed => exact passed
    next => exact fine
  next => exact fine

theorem waiters_work (s : Server) (id : Nat) (b : Bump) :
    (s.work epoch id b).waiters = s.waiters := by
  rw [work]
  split
  next => split <;> rfl
  next => rfl
  next => rfl

theorem waiters_step {action : Action} {id : Nat}
    (found : (step epoch s action).waiters.get id = some w) :
    s.waiters.get id = some w ∨ w.phase = .called
      ∨ ∃ old, s.waiters.get id = some old ∧ (w = s.resume epoch old ∨ w = s.expire old) := by
  cases action with
  | changedSince other user since wait =>
    rw [step] at found
    split at found
    next =>
      rw [Table.get_put] at found
      split at found
      next =>
        obtain rfl := Option.some.inj found
        exact .inr (.inl rfl)
      next => exact .inl found
    next => exact .inl found
  | bump other users =>
    rw [step] at found
    split at found <;> exact .inl found
  | resume other =>
    rw [step] at found
    split at found
    next => exact .inl found
    next old here =>
      rw [Table.get_put] at found
      split at found
      next same => exact .inr (.inr ⟨old, same ▸ here, .inl (Option.some.inj found).symm⟩)
      next => exact .inl found
  | expire other =>
    rw [step] at found
    split at found
    next => exact .inl found
    next old here =>
      rw [Table.get_put] at found
      split at found
      next same => exact .inr (.inr ⟨old, same ▸ here, .inr (Option.some.inj found).symm⟩)
      next => exact .inl found
  | work other =>
    rw [step] at found
    split at found
    next => exact .inl found
    next b _ =>
      rw [waiters_work] at found
      exact .inl found
  | elapse time => exact .inl found

/-- Once every bump has sent its tick, a blocked caller takes two steps to the changed revision. -/
theorem resume_resume {seen deadline : Nat} (fine : Fine epoch s w)
    (phase : w.phase = .waiting seen deadline) (differs : w.since ≠ some (s.revision epoch w.user))
    (quiet : ¬s.Ticking) :
    s.resume epoch (s.resume epoch w)
      = { w with phase := .returned (s.revision epoch w.user) (some deadline) s.clock } := by
  simp only [Fine, phase] at fine
  have unseen : seen < s.tick := (fine.2.resolve_left differs).resolve_right quiet
  have woken : s.resume epoch w = { w with phase := .looking s.tick deadline } := by
    rw [Server.resume, phase]
    exact if_pos unseen
  rw [woken, Server.resume]
  exact if_pos differs

def AllFine (epoch : UInt64) (s : Server) : Prop :=
  ∀ id w, s.waiters.get id = some w → Fine epoch s w

theorem allFine_step (all : AllFine epoch s) (action : Action) :
    AllFine epoch (step epoch s action) := by
  intro id w found
  have moves := moves_step epoch s action
  rcases waiters_step found with old | fresh | ⟨old, present, rfl | rfl⟩
  next => exact (all id w old).moves moves
  next => simp [Fine, fresh]
  next => exact (all id old present).resume.moves moves
  next => exact (all id old present).expire.moves moves

theorem allFine_after (epoch : UInt64) (actions : List Action) : AllFine epoch (after epoch actions) := by
  have start : AllFine epoch started := by
    intro id w found
    simp [started] at found
  exact @Runs.run_keeps _ _ _ (AllFine epoch) (fun _ action all => allFine_step all action) _ _ start

theorem revision_le_run (s : Server) (actions : List Action) (user : UInt64) :
    s.revision epoch user ≤ (Runs.run (step epoch) s actions).revision epoch user := by
  induction actions generalizing s with
  | nil => exact UInt64.le_refl _
  | cons action actions ih =>
    exact UInt64.le_trans ((moves_step epoch s action).revision user) (ih _)

/--
A caller that is blocked although its revision has changed has a tick to come:
one that was sent or one of a bump that is about to. It returns the revision it
knew only after its deadline, and no revision ever goes down.
-/
theorem changedSince_awake (epoch : UInt64) (actions : List Action) :
    (∀ id w seen deadline, (after epoch actions).waiters.get id = some w →
        w.phase = .waiting seen deadline →
        w.since ≠ some ((after epoch actions).revision epoch w.user) →
        seen < (after epoch actions).tick ∨ (after epoch actions).Ticking)
      ∧ (∀ id w since deadline clock, (after epoch actions).waiters.get id = some w →
        w.phase = .returned since deadline clock → w.since = some since →
        ∃ passed, deadline = some passed ∧ passed ≤ clock)
      ∧ ∀ first rest user, actions = first ++ rest →
        (after epoch first).revision epoch user ≤ (after epoch actions).revision epoch user := by
  have all := allFine_after epoch actions
  refine ⟨?_, ?_, ?_⟩
  · intro id w seen deadline found phase differs
    have fine := all id w found
    simp only [Fine, phase] at fine
    exact fine.2.resolve_left differs
  · intro id w since deadline clock found phase
    have fine := all id w found
    simpa only [Fine, phase] using fine
  · rintro first rest user rfl
    rw [after, after, Runs.run_append]
    exact revision_le_run _ rest user

end Server

end Watch

end BitDemon
