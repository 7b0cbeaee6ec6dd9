import BitDemon.DwServer.PublisherStreams
import BitDemon.Library.Mutex
import BitDemon.Library.Runs
import BitDemon.Library.Table
import Mathlib.Data.List.Chain
import Mathlib.Logic.Function.Basic

set_option autoImplicit false

/-!
# When a publisher's directory is scanned

A caller looks at the state of its title under the read lock, and takes the
write lock if a refresh is due. Others may have been there in between.
-/

namespace BitDemon

open Machine Runs

namespace PublisherStreamState

def refreshNecessary (now : Int) (state : PublisherStreamState) : Bool :=
  decide (stateRefreshSeconds < now - state.lastRefresh)

end PublisherStreamState

open PublisherStreamState

structure PublisherStreams where
  states : Table Title PublisherStreamState
  poisoned : Bool
  -- which directories have been scanned, and when
  scans : List (Title × Int)

namespace PublisherStreams

def empty : PublisherStreams := { states := ∅, poisoned := false, scans := [] }

variable (build : VecBuild) (service : DwPublisherContentStreamingService)

-- whether the caller can do with what is there
def readSection (now : Int) (title : Title) : Fallible PublisherStreams Bool := do
  let lock ← get
  if lock.poisoned then
    panicWith .unwrapOnError
  else
    pure ((lock.states.get title).any fun state => !state.refreshNecessary now)

def scan (now : Int) (directory : Option Directory) (state : PublisherStreamState) :
    Fallible PublisherStreams (Except Fault Unit × PublisherStreamState) := do
  modify fun lock => { lock with scans := lock.scans ++ [(state.title, now)] }
  pure (exec (refresh build service directory) state)

def putState (title : Title) (state : PublisherStreamState) : Fallible PublisherStreams Unit :=
  modify fun lock => { lock with states := lock.states.put title state }

-- a state that is refreshed is changed in place, a new one is inserted when it is complete
def writeSection (now : Int) (title : Title) (directory : Option Directory) :
    Fallible PublisherStreams Unit :=
  Mutex.guarded poisoned (fun lock => { lock with poisoned := true }) (fun _ => true)
    (.panic .unwrapOnError) do
      let lock ← get
      match lock.states.get title with
      | some state =>
        if state.refreshNecessary now then do
          let (outcome, after) ← scan build service now directory state
          putState title after
          MonadExcept.ofExcept outcome
        else
          pure ()
      | none => do
        let (outcome, after) ← scan build service now directory (new now title)
        MonadExcept.ofExcept outcome
        putState title after

end PublisherStreams

structure Callers where
  lock : PublisherStreams
  -- in seconds
  clock : Int
  -- how many are about to take the lock for writing
  waiting : Title → Nat

namespace Callers

inductive Event where
  | pass (seconds : Nat)
  | call (title : Title)
  | write (title : Title) (directory : Option Directory)

def starting (clock : Int) : Callers := { lock := .empty, clock, waiting := fun _ => 0 }

variable (build : VecBuild) (service : DwPublisherContentStreamingService)

def step (s : Callers) : Event → Callers
  | .pass seconds => { s with clock := s.clock + seconds }
  | .call title =>
    match (exec (PublisherStreams.readSection s.clock title) s.lock).1 with
    | .ok false => { s with waiting := Function.update s.waiting title (s.waiting title + 1) }
    -- it has the guard, or has panicked
    | _ => s
  | .write title directory =>
    if s.waiting title = 0 then s
    else
      { s with
        lock := (exec (PublisherStreams.writeSection build service s.clock title directory) s.lock).2
        waiting := Function.update s.waiting title (s.waiting title - 1) }

end Callers

namespace PublisherStreams

variable {build : VecBuild} {service : DwPublisherContentStreamingService} {now : Int}
  {title : Title} {directory : Option Directory} {state : PublisherStreamState}
  {lock : PublisherStreams}

theorem exec_readSection (free : lock.poisoned = false) :
    exec (readSection now title) lock
      = (.ok ((lock.states.get title).any fun state => !state.refreshNecessary now), lock) := by
  rw [readSection, exec_bind_ok _ (exec_get lock), if_neg (by rw [free]; exact Bool.false_ne_true)]
  rfl

theorem exec_readSection_poisoned (held : lock.poisoned = true) :
    exec (readSection now title) lock = (.error (.panic .unwrapOnError), lock) := by
  rw [readSection, exec_bind_ok _ (exec_get lock), if_pos held]
  rfl

theorem exec_writeSection_poisoned (held : lock.poisoned = true) :
    exec (writeSection build service now title directory) lock
      = (.error (.panic .unwrapOnError), lock) :=
  Mutex.exec_guarded_poisoned held

theorem exec_writeSection_fresh (free : lock.poisoned = false)
    (known : lock.states.get title = some state) (fresh : state.refreshNecessary now = false) :
    exec (writeSection build service now title directory) lock = (.ok (), lock) := by
  refine Mutex.exec_guarded_ok free ?_
  rw [exec_bind_ok _ (exec_get lock), known]
  simp [fresh]

-- where the guard is dropped by a fault, the lock is poisoned
def guardedBy (outcome : Except Fault Unit) (lock : PublisherStreams) : PublisherStreams :=
  { lock with poisoned := lock.poisoned || !outcome.isOk }

theorem exec_guarded_snd {body : Fallible PublisherStreams Unit} {outcome : Except Fault Unit}
    {after : PublisherStreams} (free : lock.poisoned = false)
    (ran : exec body lock = (outcome, after)) :
    (exec (Mutex.guarded poisoned (fun lock => { lock with poisoned := true }) (fun _ => true)
      (.panic .unwrapOnError) body) lock).2 = guardedBy outcome after := by
  cases outcome with
  | ok _ =>
    rw [Mutex.exec_guarded_ok free ran, guardedBy]
    simp [Except.isOk, Except.toBool]
  | error fault =>
    rw [Mutex.exec_guarded_unwind free ran rfl, guardedBy]
    simp [Except.isOk, Except.toBool]

theorem exec_scan (lock : PublisherStreams) :
    exec (scan build service now directory state) lock
      = (.ok (exec (refresh build service directory) state),
        { lock with scans := lock.scans ++ [(state.title, now)] }) := rfl

theorem exec_putState (lock : PublisherStreams) :
    exec (putState title state) lock
      = (.ok (), { lock with states := lock.states.put title state }) := rfl

theorem exec_writeSection_due (free : lock.poisoned = false)
    (known : lock.states.get title = some state) (due : state.refreshNecessary now = true) :
    (exec (writeSection build service now title directory) lock).2
      = guardedBy (exec (refresh build service directory) state).1
        { lock with
          states := lock.states.put title (exec (refresh build service directory) state).2
          scans := lock.scans ++ [(state.title, now)] } := by
  refine exec_guarded_snd free ?_
  rw [exec_bind_ok _ (exec_get lock), known]
  dsimp only
  rw [if_pos due, exec_bind_ok _ (exec_scan lock), exec_bind_ok _ (exec_putState _), exec_ofExcept]

theorem exec_writeSection_new (free : lock.poisoned = false)
    (unknown : lock.states.get title = none) :
    (exec (writeSection build service now title directory) lock).2
      = guardedBy (exec (refresh build service directory) (new now title)).1
        { lock with
          states := if (exec (refresh build service directory) (new now title)).1.isOk
            then lock.states.put title (exec (refresh build service directory) (new now title)).2
            else lock.states
          scans := lock.scans ++ [(title, now)] } := by
  refine exec_guarded_snd free ?_
  rw [exec_bind_ok _ (exec_get lock), unknown]
  dsimp only
  rw [exec_bind_ok _ (exec_scan lock)]
  rcases exec (refresh build service directory) (new now title) with ⟨outcome, after⟩
  cases outcome with
  | ok _ => rw [exec_bind_ok _ (exec_ofExcept _ _)]; rfl
  | error fault => rw [exec_bind_error _ (exec_ofExcept _ _)]; rfl

def scansOf (lock : PublisherStreams) (title : Title) : List Int :=
  (lock.scans.filter fun scan => decide (scan.1 = title)).map Prod.snd

@[simp] theorem scansOf_guardedBy (outcome : Except Fault Unit) (lock : PublisherStreams)
    (title : Title) : (guardedBy outcome lock).scansOf title = lock.scansOf title := rfl

theorem scansOf_noted (states : Table Title PublisherStreamState) (poisoned : Bool)
    (scans : List (Title × Int)) (scanned title : Title) (now : Int) :
    scansOf { states, poisoned, scans := scans ++ [(scanned, now)] } title
      = scansOf { states, poisoned, scans } title ++ if scanned = title then [now] else [] := by
  by_cases same : scanned = title
  next => simp [scansOf, same]
  next => simp [scansOf, same]

end PublisherStreams

namespace PublisherStreamState

variable {build : VecBuild} {service : DwPublisherContentStreamingService}

theorem Handled.frame {entry : DirEntry} {s t : PublisherStreamState} {outcome : Except Fault Unit}
    (came : Handled build service entry s outcome t) :
    t.title = s.title ∧ t.lastRefresh = s.lastRefresh := by
  cases came with
  | _ => exact ⟨rfl, rfl⟩

theorem frame_handleEntries (entries : List DirEntry) (s : PublisherStreamState) :
    (exec (handleEntries build service entries) s).2.title = s.title
      ∧ (exec (handleEntries build service entries) s).2.lastRefresh = s.lastRefresh := by
  induction entries generalizing s with
  | nil => exact ⟨rfl, rfl⟩
  | cons entry entries ih =>
    have here := (handled build service entry s).frame
    rw [handleEntries, exec_bind]
    rcases ran : exec (handleEntry build service entry) s with ⟨outcome, t⟩
    rw [ran] at here
    cases outcome with
    | ok _ =>
      obtain ⟨title, lastRefresh⟩ := ih t
      exact ⟨title.trans here.1, lastRefresh.trans here.2⟩
    | error _ => exact here

theorem frame_refresh (directory : Option Directory) (s : PublisherStreamState) :
    (exec (refresh build service directory) s).2.title = s.title
      ∧ (exec (refresh build service directory) s).2.lastRefresh = s.lastRefresh := by
  cases directory with
  | none => exact ⟨rfl, rfl⟩
  | some directory => exact frame_handleEntries directory.entries s

end PublisherStreamState

namespace Callers

variable {build : VecBuild} {service : DwPublisherContentStreamingService} {s : Callers}

def scansOf (s : Callers) (title : Title) : List Int := s.lock.scansOf title

structure Consistent (s : Callers) : Prop where
  titled : ∀ title state, s.lock.states.get title = some state → state.title = title
  first : ∀ title state, s.lock.states.get title = some state →
    (s.scansOf title).head? = some state.lastRefresh
  unknown : s.lock.poisoned = false → ∀ title, s.lock.states.get title = none →
    s.scansOf title = []
  ordered : ∀ title, (s.scansOf title).Pairwise (· ≤ ·)
  past : ∀ title, ∀ time ∈ s.scansOf title, time ≤ s.clock

inductive Wrote (s : Callers) (title : Title) : PublisherStreams → Prop
  | panicked : s.lock.poisoned = true → Wrote s title s.lock
  | fresh {state : PublisherStreamState} : s.lock.poisoned = false →
      s.lock.states.get title = some state → state.refreshNecessary s.clock = false →
      Wrote s title s.lock
  | refreshed {state after : PublisherStreamState} (outcome : Except Fault Unit) :
      s.lock.poisoned = false → s.lock.states.get title = some state →
      state.refreshNecessary s.clock = true → after.title = state.title →
      after.lastRefresh = state.lastRefresh →
      Wrote s title (PublisherStreams.guardedBy outcome
        { s.lock with
          states := s.lock.states.put title after
          scans := s.lock.scans ++ [(state.title, s.clock)] })
  | created {after : PublisherStreamState} : s.lock.poisoned = false →
      s.lock.states.get title = none → after.title = title → after.lastRefresh = s.clock →
      Wrote s title
        { s.lock with
          states := s.lock.states.put title after
          scans := s.lock.scans ++ [(title, s.clock)] }
  | failed : s.lock.poisoned = false → s.lock.states.get title = none →
      Wrote s title
        { s.lock with poisoned := true, scans := s.lock.scans ++ [(title, s.clock)] }

theorem wrote (s : Callers) (title : Title) (directory : Option Directory) :
    Wrote s title
      (exec (PublisherStreams.writeSection build service s.clock title directory) s.lock).2 := by
  by_cases held : s.lock.poisoned = true
  next =>
    rw [PublisherStreams.exec_writeSection_poisoned held]
    exact .panicked held
  next =>
    have free : s.lock.poisoned = false := by simpa using held
    cases known : s.lock.states.get title with
    | some state =>
      cases due : state.refreshNecessary s.clock with
      | false =>
        rw [PublisherStreams.exec_writeSection_fresh free known due]
        exact .fresh free known due
      | true =>
        obtain ⟨titled, stamped⟩ := @frame_refresh build service directory state
        rw [PublisherStreams.exec_writeSection_due free known due]
        exact .refreshed _ free known due titled stamped
    | none =>
      obtain ⟨titled, stamped⟩ := @frame_refresh build service directory (new s.clock title)
      rw [PublisherStreams.exec_writeSection_new free known]
      rcases ran : exec (refresh build service directory) (new s.clock title) with ⟨outcome, after⟩
      rw [ran] at titled stamped
      cases outcome with
      | ok _ =>
        have whole := Wrote.created free known titled stamped
        simpa [PublisherStreams.guardedBy, Except.isOk, Except.toBool] using whole
      | error _ =>
        have whole := Wrote.failed free known
        simpa [PublisherStreams.guardedBy, Except.isOk, Except.toBool] using whole

theorem step_write (title : Title) (directory : Option Directory) (waits : s.waiting title ≠ 0) :
    step build service s (.write title directory)
      = { s with
          lock := (exec (PublisherStreams.writeSection build service s.clock title directory)
            s.lock).2
          waiting := Function.update s.waiting title (s.waiting title - 1) } := by
  rw [step, if_neg waits]

theorem lock_call (title : Title) : (step build service s (.call title)).lock = s.lock
    ∧ (step build service s (.call title)).clock = s.clock := by
  rw [step]
  split
  · exact ⟨rfl, rfl⟩
  · exact ⟨rfl, rfl⟩

theorem Consistent.with_lock (consistent : Consistent s) {t : Callers} (lock : t.lock = s.lock)
    (clock : s.clock ≤ t.clock) : Consistent t := by
  have scans : t.scansOf = s.scansOf := by
    unfold scansOf
    rw [lock]
  constructor
  · rw [lock]
    exact consistent.titled
  · rw [lock, scans]
    exact consistent.first
  · rw [lock, scans]
    exact consistent.unknown
  · rw [scans]
    exact consistent.ordered
  · rw [scans]
    exact fun title time member => (consistent.past title time member).trans clock

theorem Consistent.noted (consistent : Consistent s) {scanned : Title} (title : Title) :
    (s.scansOf title ++ if scanned = title then [s.clock] else []).Pairwise (· ≤ ·)
      ∧ ∀ time ∈ s.scansOf title ++ (if scanned = title then [s.clock] else []),
        time ≤ s.clock := by
  by_cases same : scanned = title
  next =>
    rw [if_pos same]
    constructor
    · rw [List.pairwise_append]
      refine ⟨consistent.ordered title, List.pairwise_singleton _ _, fun time member now equal => ?_⟩
      rw [List.mem_singleton.mp equal]
      exact consistent.past title time member
    · intro time member
      rcases List.mem_append.mp member with earlier | now
      · exact consistent.past title time earlier
      · rw [List.mem_singleton.mp now]
  next =>
    rw [if_neg same, List.append_nil]
    exact ⟨consistent.ordered title, consistent.past title⟩

theorem Consistent.put (consistent : Consistent s) {title : Title} {after : PublisherStreamState}
    (free : s.lock.poisoned = false) (titled : after.title = title)
    (stamped : (s.scansOf title ++ [s.clock]).head? = some after.lastRefresh) (poisoned : Bool)
    (waiting : Title → Nat) :
    Consistent
      { lock :=
          { states := s.lock.states.put title after, poisoned
            scans := s.lock.scans ++ [(title, s.clock)] }
        clock := s.clock, waiting } := by
  have scans (other : Title) := PublisherStreams.scansOf_noted (s.lock.states.put title after)
    poisoned s.lock.scans title other s.clock
  constructor
  · intro other state known
    rw [Table.get_put] at known
    split at known
    next same =>
      cases known
      rw [titled, same]
    next => exact consistent.titled other state known
  · intro other state known
    rw [Table.get_put] at known
    rw [scansOf, scans]
    split at known
    next same =>
      cases known
      rw [if_pos same.symm, same]
      exact stamped
    next apart =>
      rw [if_neg (Ne.symm apart), List.append_nil]
      exact consistent.first other state known
  · intro _ other missing
    rw [Table.get_put] at missing
    rw [scansOf, scans]
    split at missing
    next => cases missing
    next apart =>
      rw [if_neg (Ne.symm apart), List.append_nil]
      exact consistent.unknown free other missing
  · intro other
    rw [scansOf, scans]
    exact (consistent.noted other).1
  · intro other
    rw [scansOf, scans]
    exact (consistent.noted other).2

theorem Consistent.failed (consistent : Consistent s) {title : Title}
    (unknown : s.lock.states.get title = none) (waiting : Title → Nat) :
    Consistent
      { lock := { s.lock with poisoned := true, scans := s.lock.scans ++ [(title, s.clock)] }
        clock := s.clock, waiting } := by
  have scans (other : Title) := PublisherStreams.scansOf_noted s.lock.states true s.lock.scans
    title other s.clock
  constructor
  · exact consistent.titled
  · intro other state known
    have apart : title ≠ other := by
      intro same
      rw [same, known] at unknown
      cases unknown
    rw [scansOf, scans, if_neg apart, List.append_nil]
    exact consistent.first other state known
  · intro free
    cases free
  · intro other
    rw [scansOf, scans]
    exact (consistent.noted other).1
  · intro other
    rw [scansOf, scans]
    exact (consistent.noted other).2

theorem consistent_step (consistent : Consistent s) (e : Event) :
    Consistent (step build service s e) := by
  cases e with
  | pass seconds => exact consistent.with_lock rfl (Int.le_add_of_nonneg_right (Int.natCast_nonneg _))
  | call title =>
    obtain ⟨lock, clock⟩ := @lock_call build service s title
    exact consistent.with_lock lock clock.ge
  | write title directory =>
    by_cases waits : s.waiting title = 0
    next =>
      rw [step, if_pos waits]
      exact consistent
    next =>
      rw [step_write title directory waits]
      have came := @wrote build service s title directory
      generalize (exec (PublisherStreams.writeSection build service s.clock title directory)
        s.lock).2 = lock at came
      cases came with
      | panicked _ => exact consistent.with_lock rfl le_rfl
      | fresh _ _ _ => exact consistent.with_lock rfl le_rfl
      | @refreshed state after outcome free known _ titled stamped =>
        have same := consistent.titled title state known
        rw [same]
        refine consistent.put free (titled.trans same) ?_ _ _
        rw [stamped, List.head?_append, consistent.first title state known]
        rfl
      | created free unknown titled stamped =>
        refine consistent.put free titled ?_ _ _
        rw [consistent.unknown free title unknown, stamped]
        rfl
      | failed _ unknown => exact consistent.failed unknown _

theorem consistent_starting (clock : Int) : Consistent (starting clock) where
  titled _ _ known := by cases known
  first _ _ known := by cases known
  unknown _ _ _ := rfl
  ordered _ := List.Pairwise.nil
  past _ _ member := by cases member

-- more than the interval has passed since the latest scan
def Due (title : Title) (s : Callers) : Prop :=
  ∃ last, (s.scansOf title).getLast? = some last ∧ last + stateRefreshSeconds < s.clock

/-- More than the interval has passed since the first scan, but not since the latest. -/
def StampLagsBehind (title : Title) (s : Callers) : Prop :=
  ∃ first, (s.scansOf title).head? = some first ∧ first + stateRefreshSeconds < s.clock
    ∧ ¬Due title s

def ScansWhenDue (build : VecBuild) (service : DwPublisherContentStreamingService) (title : Title)
    (s : Callers) : Event → Prop
  | .pass _ => True
  | .call called => called = title → Due title s →
    (step build service s (.call called)).waiting title = s.waiting title + 1
  | .write written directory => written = title → s.waiting title ≠ 0 → Due title s →
    (step build service s (.write written directory)).scansOf title = s.scansOf title ++ [s.clock]

def Apart (title : Title) (s : Callers) : Prop :=
  (s.scansOf title).IsChain fun earlier later => earlier + stateRefreshSeconds < later

def Throttled (build : VecBuild) (service : DwPublisherContentStreamingService) (title : Title)
    (clock : Int) (events : List Event) : Prop :=
  Apart title (run (step build service) (starting clock) events)
    ∧ Meets (step build service) (ScansWhenDue build service title) (starting clock) events

/-- No scan is due behind a poisoned lock, and the stamp does not lag behind where it is read. -/
def StampHolds (title : Title) (s : Callers) : Event → Prop
  | .pass _ => True
  | .call called => called = title → s.lock.poisoned = true → ¬Due title s
  | .write written _ => written = title → s.waiting title ≠ 0 →
    (s.lock.poisoned = true → ¬Due title s) ∧ (s.lock.poisoned = false → ¬StampLagsBehind title s)

-- the scan that a step makes, if it makes one, is not too early
def NotTooEarly (build : VecBuild) (service : DwPublisherContentStreamingService) (title : Title)
    (s : Callers) (e : Event) : Prop :=
  (step build service s e).scansOf title = s.scansOf title ++ [s.clock] →
    s.scansOf title ≠ [] → Due title s

theorem Wrote.noted (consistent : Consistent s) {written : Title} {lock : PublisherStreams}
    (came : Wrote s written lock) :
    ((∀ title, lock.scansOf title = s.scansOf title)
        ∧ (s.lock.poisoned = true ∨ ∃ state, s.lock.poisoned = false
          ∧ s.lock.states.get written = some state ∧ state.refreshNecessary s.clock = false))
      ∨ ((∀ title,
          lock.scansOf title = s.scansOf title ++ if written = title then [s.clock] else [])
        ∧ s.lock.poisoned = false ∧ ∀ state, s.lock.states.get written = some state →
          state.refreshNecessary s.clock = true) := by
  cases came with
  | panicked held => exact .inl ⟨fun _ => rfl, .inl held⟩
  | fresh free known fresh => exact .inl ⟨fun _ => rfl, .inr ⟨_, free, known, fresh⟩⟩
  | @refreshed state _ _ free known necessary _ _ =>
    refine .inr ⟨fun title => ?_, free, fun other same => ?_⟩
    · rw [← consistent.titled written state known]
      exact PublisherStreams.scansOf_noted _ _ _ _ title _
    · cases known.symm.trans same
      exact necessary
  | created free unknown _ _ =>
    refine .inr ⟨fun title => PublisherStreams.scansOf_noted _ _ _ _ title _, free, ?_⟩
    intro state known
    cases unknown.symm.trans known
  | failed free unknown =>
    refine .inr ⟨fun title => PublisherStreams.scansOf_noted _ _ _ _ title _, free, ?_⟩
    intro state known
    cases unknown.symm.trans known

theorem scansOf_step (consistent : Consistent s) (e : Event) (title : Title) :
    (step build service s e).scansOf title = s.scansOf title
      ∨ (step build service s e).scansOf title = s.scansOf title ++ [s.clock] := by
  cases e with
  | pass seconds => exact .inl rfl
  | call called =>
    rw [scansOf, (lock_call called).1]
    exact .inl rfl
  | write written directory =>
    by_cases waits : s.waiting written = 0
    next =>
      rw [step, if_pos waits]
      exact .inl rfl
    next =>
      rw [step_write written directory waits]
      obtain ⟨same, _⟩ | ⟨noted, _⟩ :=
        (@wrote build service s written directory).noted consistent
      · exact .inl (same title)
      · by_cases here : written = title
        next => exact .inr ((noted title).trans (by rw [if_pos here]))
        next => exact .inl ((noted title).trans (by rw [if_neg here, List.append_nil]))

theorem scansOf_run (consistent : Consistent s) (events : List Event) (title : Title) :
    s.scansOf title <+: (run (step build service) s events).scansOf title := by
  induction events generalizing s with
  | nil => exact List.prefix_rfl
  | cons e events ih =>
    have here : s.scansOf title <+: (step build service s e).scansOf title := by
      rcases @scansOf_step build service s consistent e title with same | one
      · rw [same]
      · rw [one]
        exact List.prefix_append _ _
    exact here.trans (ih (consistent_step consistent e))

theorem apart_step {title : Title} (consistent : Consistent s) (apart : Apart title s) (e : Event) :
    Apart title (step build service s e) ↔ NotTooEarly build service title s e := by
  rcases @scansOf_step build service s consistent e title with same | one
  · have silent : NotTooEarly build service title s e := by
      intro more
      rw [same] at more
      exact absurd more (by simp)
    rw [Apart, same]
    exact iff_of_true apart silent
  · rw [Apart, NotTooEarly, one, List.isChain_append]
    cases latest : (s.scansOf title).getLast? with
    | none => simp [List.getLast?_eq_none_iff.mp latest]
    | some last =>
      have some : s.scansOf title ≠ [] := by
        intro none
        rw [none] at latest
        cases latest
      have late : Due title s ↔ last + stateRefreshSeconds < s.clock := by simp [Due, latest]
      have chain : (s.scansOf title).IsChain fun earlier later =>
        earlier + stateRefreshSeconds < later := apart
      simp [some, late, chain]

theorem apart_iff_meets {title : Title} {events : List Event} (consistent : Consistent s)
    (apart : Apart title s) :
    Apart title (run (step build service) s events)
      ↔ Meets (step build service) (NotTooEarly build service title) s events := by
  induction events generalizing s with
  | nil => exact iff_of_true apart trivial
  | cons e events ih =>
    have later := @consistent_step build service s consistent e
    constructor
    · intro whole
      have here : Apart title (step build service s e) :=
        whole.prefix (scansOf_run later events title)
      exact ⟨(apart_step consistent apart e).mp here, (ih later here).mp whole⟩
    · intro meets
      exact (ih later ((apart_step consistent apart e).mpr meets.1)).mpr meets.2

section

variable {title : Title} {state : PublisherStreamState}

theorem refreshNecessary_iff {now : Int} :
    state.refreshNecessary now = true ↔ state.lastRefresh + stateRefreshSeconds < now := by
  rw [refreshNecessary, decide_eq_true_iff]
  omega

theorem Consistent.stamp_le (consistent : Consistent s)
    (known : s.lock.states.get title = some state) {last : Int}
    (latest : (s.scansOf title).getLast? = some last) : state.lastRefresh ≤ last := by
  have first := consistent.first title state known
  have ordered := consistent.ordered title
  cases scans : s.scansOf title with
  | nil =>
    rw [scans] at first
    cases first
  | cons head rest =>
    rw [scans] at first latest ordered
    cases first
    rcases List.mem_cons.mp (List.mem_of_getLast? latest) with same | later
    · exact same.ge
    · exact List.rel_of_pairwise_cons ordered later

theorem Consistent.necessary_of_due (consistent : Consistent s)
    (known : s.lock.states.get title = some state) (due : Due title s) :
    state.refreshNecessary s.clock = true := by
  obtain ⟨last, latest, late⟩ := due
  have stamp := consistent.stamp_le known latest
  exact refreshNecessary_iff.mpr (by omega)

theorem Consistent.lags_iff (consistent : Consistent s)
    (known : s.lock.states.get title = some state) :
    StampLagsBehind title s ↔ state.refreshNecessary s.clock = true ∧ ¬Due title s := by
  rw [StampLagsBehind, refreshNecessary_iff, consistent.first title state known]
  simp

theorem not_due_of_unknown (consistent : Consistent s) (free : s.lock.poisoned = false)
    (unknown : s.lock.states.get title = none) : ¬Due title s := by
  intro ⟨last, latest, _⟩
  rw [consistent.unknown free title unknown] at latest
  cases latest

theorem not_too_early_of_silent {e : Event}
    (silent : (step build service s e).scansOf title = s.scansOf title) :
    NotTooEarly build service title s e := by
  intro more
  rw [silent] at more
  exact absurd more (by simp)

theorem waiting_call (free : s.lock.poisoned = false)
    (known : s.lock.states.get title = some state)
    (necessary : state.refreshNecessary s.clock = true) :
    (step build service s (.call title)).waiting title = s.waiting title + 1 := by
  rw [step, PublisherStreams.exec_readSection free, known]
  simp [necessary]

theorem waiting_call_poisoned (held : s.lock.poisoned = true) :
    (step build service s (.call title)).waiting title = s.waiting title := by
  rw [step, PublisherStreams.exec_readSection_poisoned held]

theorem decides_call (consistent : Consistent s) (called : Title) :
    NotTooEarly build service title s (.call called) ∧ ScansWhenDue build service title s (.call called)
      ↔ StampHolds title s (.call called) := by
  have silent : NotTooEarly build service title s (.call called) := by
    refine not_too_early_of_silent ?_
    rw [scansOf, (lock_call called).1]
    rfl
  rw [ScansWhenDue, StampHolds]
  constructor
  · intro ⟨_, goes⟩ same held due
    have more := goes same due
    rw [same, waiting_call_poisoned held] at more
    omega
  · intro holds
    refine ⟨silent, fun same due => ?_⟩
    subst same
    have free : s.lock.poisoned = false := by
      by_contra held
      exact holds rfl (by simpa using held) due
    cases known : s.lock.states.get called with
    | none => exact absurd due (not_due_of_unknown consistent free known)
    | some state => exact waiting_call free known (consistent.necessary_of_due known due)

theorem decides_idle (consistent : Consistent s) {written : Title} {directory : Option Directory}
    (silent : (step build service s (.write written directory)).scansOf title = s.scansOf title)
    (idle : s.lock.poisoned = true ∨ ∃ state, s.lock.poisoned = false
      ∧ s.lock.states.get written = some state ∧ state.refreshNecessary s.clock = false) :
    NotTooEarly build service title s (.write written directory)
        ∧ ScansWhenDue build service title s (.write written directory)
      ↔ StampHolds title s (.write written directory) := by
  rw [ScansWhenDue, StampHolds, silent]
  have never : s.scansOf title ≠ s.scansOf title ++ [s.clock] := by simp
  constructor
  · intro ⟨_, scans⟩ same some
    have undue : ¬Due title s := fun due => never (scans same some due)
    refine ⟨fun _ => undue, fun free => ?_⟩
    obtain held | ⟨state, _, known, fresh⟩ := idle
    · rw [free] at held
      cases held
    · rw [consistent.lags_iff (same ▸ known), fresh]
      simp
  · intro holds
    refine ⟨not_too_early_of_silent silent, fun same some due => ?_⟩
    obtain held | ⟨state, _, known, fresh⟩ := idle
    · exact absurd due ((holds same some).1 held)
    · have necessary := consistent.necessary_of_due (same ▸ known) due
      rw [fresh] at necessary
      cases necessary

theorem decides_scan (consistent : Consistent s) {directory : Option Directory}
    (waits : s.waiting title ≠ 0)
    (scanned : (step build service s (.write title directory)).scansOf title
      = s.scansOf title ++ [s.clock]) (free : s.lock.poisoned = false)
    (necessary : ∀ state, s.lock.states.get title = some state →
      state.refreshNecessary s.clock = true) :
    NotTooEarly build service title s (.write title directory)
        ∧ ScansWhenDue build service title s (.write title directory)
      ↔ StampHolds title s (.write title directory) := by
  have rescans : ScansWhenDue build service title s (.write title directory) := fun _ _ _ => scanned
  have early : NotTooEarly build service title s (.write title directory)
      ↔ (s.scansOf title ≠ [] → Due title s) := by
    rw [NotTooEarly]
    exact ⟨fun holds => holds scanned, fun holds _ => holds⟩
  have stamp : StampHolds title s (.write title directory) ↔ ¬StampLagsBehind title s := by
    rw [StampHolds]
    simp [waits, free]
  rw [stamp, early, and_iff_left rescans]
  cases known : s.lock.states.get title with
  | none =>
    have nothing := consistent.unknown free title known
    simp [StampLagsBehind, nothing]
  | some state =>
    have first := consistent.first title state known
    have some : s.scansOf title ≠ [] := by
      intro none
      rw [none] at first
      cases first
    rw [consistent.lags_iff known, necessary state known]
    simp [some]

theorem decides_write (consistent : Consistent s) (written : Title) (directory : Option Directory) :
    NotTooEarly build service title s (.write written directory)
        ∧ ScansWhenDue build service title s (.write written directory)
      ↔ StampHolds title s (.write written directory) := by
  by_cases waits : s.waiting written = 0
  next =>
    have idle : step build service s (.write written directory) = s := by rw [step, if_pos waits]
    refine iff_of_true ⟨not_too_early_of_silent (by rw [idle]), fun same some => ?_⟩
      fun same some => ?_
    · exact absurd (same ▸ waits) some
    · exact absurd (same ▸ waits) some
  next =>
    have stepped (title : Title) : (step build service s (.write written directory)).scansOf title
        = (exec (PublisherStreams.writeSection build service s.clock written directory)
          s.lock).2.scansOf title := by
      rw [step_write written directory waits]
      rfl
    obtain ⟨same, idle⟩ | ⟨noted, free, necessary⟩ :=
      (@wrote build service s written directory).noted consistent
    · have silent := (stepped title).trans (same title)
      exact decides_idle consistent silent idle
    · by_cases here : written = title
      next =>
        subst here
        have scanned := (stepped written).trans (noted written)
        rw [if_pos rfl] at scanned
        exact decides_scan consistent waits scanned free necessary
      next =>
        have silent := (stepped title).trans (noted title)
        rw [if_neg here, List.append_nil] at silent
        exact iff_of_true ⟨not_too_early_of_silent silent, fun same => absurd same here⟩
          fun same => absurd same here

end

theorem decides (consistent : Consistent s) (title : Title) (e : Event) :
    NotTooEarly build service title s e ∧ ScansWhenDue build service title s e
      ↔ StampHolds title s e := by
  cases e with
  | pass seconds =>
    have silent : NotTooEarly build service title s (.pass seconds) := by
      intro more
      exact absurd (List.self_eq_append_right.mp more) (by simp)
    exact iff_of_true ⟨silent, trivial⟩ trivial
  | call called => exact decides_call consistent called
  | write written directory => exact decides_write consistent written directory

/--
The time of the last refresh stays that of the first, so the directory is
scanned as it should be exactly as long as no caller writes when the first scan
is more than the interval ago and the latest is not, and none that is due for a
scan finds the lock poisoned.
-/
theorem throttled_iff (build : VecBuild) (service : DwPublisherContentStreamingService)
    (title : Title) (clock : Int) (events : List Event) :
    Throttled build service title clock events
      ↔ Meets (step build service) (StampHolds title) (starting clock) events := by
  have nothing : Apart title (starting clock) := List.IsChain.nil
  rw [Throttled, apart_iff_meets (consistent_starting clock) nothing, ← meets_and]
  exact meets_iff_of_invariant (fun s e consistent => consistent_step consistent e)
    (fun s e consistent => decides consistent title e) (consistent_starting clock)

def minuteAndSecond : List Event :=
  [.call .t6Pc, .write .t6Pc none, .pass 61, .call .t6Pc, .write .t6Pc none, .pass 1, .call .t6Pc,
    .write .t6Pc none]

theorem scanned_again_at_once :
    ¬Throttled ⟨true, 100, by decide⟩ ⟨"localhost", 8080⟩ .t6Pc 0 minuteAndSecond := by
  intro ⟨apart, _⟩
  have scans : (run (step ⟨true, 100, by decide⟩ ⟨"localhost", 8080⟩) (starting 0)
      minuteAndSecond).scansOf .t6Pc = [0, 61, 62] := by decide
  rw [Apart, scans] at apart
  simp [stateRefreshSeconds] at apart

end Callers

end BitDemon
