import BitDemon.Library.Table
import BitDemon.Library.Tally
import BitDemon.Lobby.Handlers.Counter
import BitDemon.Networking.SessionManager

set_option autoImplicit false

/-!
# The counter service

Every client may add any amount to any counter. A request is applied under one
lock, one increment after the other.
-/

namespace BitDemon

open Machine Runs

def fitsI64 (value : Int) : Bool :=
  decide (-9223372036854775808 ≤ value) && decide (value < 9223372036854775808)

/-- `a + b` on `i64`: it panics or wraps around, as the build has it. -/
def i64Add {σ : Type} (checks : Bool) (a b : Int64) : Fallible σ Int64 :=
  if checks && !fitsI64 (a.toInt + b.toInt) then panicWith .addWithOverflow
  else pure (a + b)

structure DwCounterService where
  data : Table UInt32 Int64
  poisoned : Bool

namespace DwCounterService

def new : DwCounterService := { data := ∅, poisoned := false }

-- a reader that fails leaves the lock as it is
def getCounterTotals (_session : BdSession) (counterIds : List UInt32) :
    Fallible DwCounterService (List CounterValue) := do
  let s ← get
  if s.poisoned then
    panicWith .unwrapOnError
  else
    pure (counterIds.map fun counterId =>
      { counterId, counterValue := (s.data.get counterId).getD 0 })

def incrementCounter (checks : Bool) (increment : CounterIncrement) :
    Fallible DwCounterService Unit := do
  let s ← get
  match s.data.get increment.counterId with
  | some existingValue => do
    let value ← i64Add checks existingValue increment.counterIncrement
    set { s with data := s.data.put increment.counterId value }
  | none => set { s with data := s.data.put increment.counterId increment.counterIncrement }

def incrementEach (checks : Bool) : List CounterIncrement → Fallible DwCounterService Unit
  | [] => pure ()
  | increment :: increments => do
    incrementCounter checks increment
    incrementEach checks increments

def incrementCounters (checks : Bool) (_session : BdSession) (increments : List CounterIncrement) :
    Fallible DwCounterService Unit :=
  Mutex.guarded poisoned (fun s => { s with poisoned := true }) SessionManager.unwinds
    (.panic .unwrapOnError) (incrementEach checks increments)

def service (checks : Bool) : CounterService DwCounterService :=
  { getCounterTotals := getCounterTotals, incrementCounters := incrementCounters checks }

structure Request where
  session : BdSession
  values : List CounterValueResult

def Request.entries (request : Request) : List (UInt32 × Int) :=
  (request.values.filter fun value => value.counterId != 0).map fun value =>
    (value.counterId, value.counterValue.toInt)

def step (checks : Bool) (s : DwCounterService) (request : Request) : DwCounterService :=
  (exec ((service checks).incrementCounters request.session
    (CounterHandler.toIncrements request.values)) s).2

def Overflows (s : DwCounterService) (increment : CounterIncrement) : Prop :=
  ∃ existingValue, s.data.get increment.counterId = some existingValue
    ∧ fitsI64 (existingValue.toInt + increment.counterIncrement.toInt) = false

def apply (checks : Bool) (s : DwCounterService) (increment : CounterIncrement) :
    DwCounterService :=
  (exec (incrementCounter checks increment) s).2

def NoneOverflows (checks : Bool) (s : DwCounterService) (request : Request) : Prop :=
  Meets (apply checks) (fun s increment => ¬Overflows s increment) s
    (CounterHandler.toIncrements request.values)

structure Exact (checks : Bool) (requests : Multiset Request) (order : List Request) : Prop where
  noOverflow : Meets (step checks) (NoneOverflows checks) new order
  totals : ∀ session counterIds, (∀ id ∈ counterIds, 0 < id) →
    ∃ totals, exec ((service checks).getCounterTotals session counterIds)
        (run (step checks) new order) = (.ok totals, run (step checks) new order)
      ∧ totals.map (fun total => (total.counterId, total.counterValue.toInt))
        = counterIds.map fun id => (id, Tally.totalOf Request.entries id requests)

def entry (increment : CounterIncrement) : UInt32 × Int :=
  (increment.counterId, increment.counterIncrement.toInt)

theorem entries_eq (request : Request) :
    request.entries = (CounterHandler.toIncrements request.values).map entry := by
  rw [Request.entries, CounterHandler.toIncrements_eq, List.map_map]
  rfl

structure Tallied (s : DwCounterService) (entries : List (UInt32 × Int)) : Prop where
  free : s.poisoned = false
  exact_ : ∀ id, ((s.data.get id).getD 0).toInt = Tally.total id entries

theorem tallied_new : Tallied new [] := { free := rfl, exact_ := fun _ => rfl }

theorem fitsI64_toInt (a : Int64) : fitsI64 a.toInt = true := by
  have low := Int64.le_toInt a
  have high := Int64.toInt_lt a
  simp only [fitsI64, Bool.and_eq_true, decide_eq_true_eq]
  omega

theorem toInt_add_of_fits {a b : Int64} (fits : fitsI64 (a.toInt + b.toInt) = true) :
    (a + b).toInt = a.toInt + b.toInt := by
  simp only [fitsI64, Bool.and_eq_true, decide_eq_true_eq] at fits
  rw [Int64.toInt_add, Int.bmod_def]
  split <;> omega

section Steps

variable {checks : Bool} {s : DwCounterService} {entries : List (UInt32 × Int)}
  {increment : CounterIncrement}

theorem Tallied.fits (tallied : Tallied s entries) (id : UInt32) :
    fitsI64 (Tally.total id entries) = true := by
  rw [← tallied.exact_ id]
  exact fitsI64_toInt _

theorem Tallied.overflows_iff (tallied : Tallied s entries) :
    Overflows s increment
      ↔ fitsI64 (Tally.total increment.counterId entries + increment.counterIncrement.toInt)
        = false := by
  rw [← tallied.exact_ increment.counterId, Overflows]
  cases s.data.get increment.counterId with
  | none => simp [fitsI64_toInt]
  | some existingValue => simp

theorem Tallied.exec_increment (checks : Bool) (tallied : Tallied s entries) (stays : ¬Overflows s increment) :
    exec (incrementCounter checks increment) s = (.ok (), apply checks s increment)
      ∧ Tallied (apply checks s increment) (entries ++ [entry increment]) := by
  have fits := stays
  rw [tallied.overflows_iff, Bool.not_eq_false] at fits
  have sum := tallied.exact_ increment.counterId
  rw [← sum] at fits
  obtain ⟨value, ran, exact_⟩ : ∃ value : Int64,
      exec (incrementCounter checks increment) s
        = (.ok (), { s with data := s.data.put increment.counterId value })
      ∧ value.toInt = ((s.data.get increment.counterId).getD 0).toInt
        + increment.counterIncrement.toInt := by
    cases held : s.data.get increment.counterId with
    | none =>
      refine ⟨increment.counterIncrement, ?_, by simp⟩
      simp only [incrementCounter, exec_bind, exec_get, held, exec_set]
    | some existingValue =>
      rw [held, Option.getD_some] at fits
      refine ⟨existingValue + increment.counterIncrement, ?_, toInt_add_of_fits fits⟩
      simp [incrementCounter, exec_bind, held, i64Add, fits]
  rw [apply, ran]
  refine ⟨rfl, tallied.free, fun id => ?_⟩
  rw [Tally.total_append, Tally.total_cons, Tally.total_nil, Int.add_zero]
  change ((Table.get (s.data.put increment.counterId value) id).getD 0).toInt = _
  rw [Table.get_put]
  by_cases same : id = increment.counterId
  · rw [if_pos same, if_pos (by exact same.symm), same, Option.getD_some, exact_, sum]
    rfl
  · rw [if_neg same, if_neg (by exact fun other => same other.symm), tallied.exact_ id, Int.add_zero]

variable {increments : List CounterIncrement}

theorem Tallied.meets_iff (tallied : Tallied s entries) :
    Meets (apply checks) (fun s increment => ¬Overflows s increment) s increments
      ↔ ∀ first, first <+: increments.map entry → ∀ id,
        fitsI64 (Tally.total id entries + Tally.total id first) = true := by
  induction increments generalizing s entries with
  | nil =>
    constructor
    · intro _ first part id
      rw [List.prefix_nil.mp part, Tally.total_nil, Int.add_zero]
      exact tallied.fits id
    · intro _
      trivial
  | cons increment rest ih =>
    constructor
    · intro meets first part id
      have after := (tallied.exec_increment checks meets.1).2
      cases first with
      | nil =>
        rw [Tally.total_nil, Int.add_zero]
        exact tallied.fits id
      | cons head first =>
        obtain ⟨rfl, later⟩ := List.cons_prefix_cons.mp part
        have fits := (ih after).mp meets.2 first later id
        rw [Tally.total_append, Tally.total_cons, Tally.total_nil, Int.add_zero] at fits
        rwa [Tally.total_cons, ← Int.add_assoc]
    · intro inRange
      have here : ¬Overflows s increment := by
        have fits := inRange [entry increment]
          (List.cons_prefix_cons.mpr ⟨rfl, List.nil_prefix⟩) increment.counterId
        rw [Tally.total_cons, Tally.total_nil, Int.add_zero, if_pos (by rfl)] at fits
        rw [tallied.overflows_iff, Bool.not_eq_false]
        exact fits
      have after := (tallied.exec_increment checks here).2
      refine ⟨here, (ih after).mpr fun first part id => ?_⟩
      have fits := inRange (entry increment :: first)
        (List.cons_prefix_cons.mpr ⟨rfl, part⟩) id
      rw [Tally.total_cons, ← Int.add_assoc] at fits
      rwa [Tally.total_append, Tally.total_cons, Tally.total_nil, Int.add_zero]

theorem Tallied.exec_incrementEach (tallied : Tallied s entries)
    (meets : Meets (apply checks) (fun s increment => ¬Overflows s increment) s increments) :
    exec (incrementEach checks increments) s = (.ok (), run (apply checks) s increments)
      ∧ Tallied (run (apply checks) s increments) (entries ++ increments.map entry) := by
  induction increments generalizing s entries with
  | nil => exact ⟨rfl, by rwa [List.map_nil, List.append_nil]⟩
  | cons increment rest ih =>
    obtain ⟨ran, after⟩ := tallied.exec_increment checks meets.1
    obtain ⟨rest_ran, finally_⟩ := ih after meets.2
    rw [DwCounterService.incrementEach, exec_bind_ok _ ran, rest_ran]
    refine ⟨rfl, ?_⟩
    rwa [List.map_cons, ← List.append_cons] at *

theorem Tallied.step {request : Request} (tallied : Tallied s entries)
    (stays : NoneOverflows checks s request) :
    Tallied (step checks s request) (entries ++ request.entries) := by
  obtain ⟨ran, after⟩ := tallied.exec_incrementEach stays
  have applied : exec (incrementCounters checks request.session
      (CounterHandler.toIncrements request.values)) s = _ :=
    Mutex.exec_guarded_ok tallied.free ran
  rw [DwCounterService.step, service, applied, entries_eq]
  exact after

end Steps

section Whole

variable {checks : Bool} {order : List Request}

def append (before : List (UInt32 × Int)) (request : Request) : List (UInt32 × Int) :=
  before ++ request.entries

theorem run_append_eq (before : List (UInt32 × Int)) (requests : List Request) :
    run append before requests = before ++ requests.flatMap Request.entries := by
  induction requests generalizing before with
  | nil => simp
  | cons request rest ih => rw [run_cons, ih, append, List.flatMap_cons, List.append_assoc]

theorem noOverflow_iff :
    Meets (step checks) (NoneOverflows checks) new order
      ↔ Tally.InRange Request.entries (fun sum => fitsI64 sum = true) order := by
  have related := @meets_iff_of_related _ _ (step checks) (NoneOverflows checks) _ append
    (fun before request => ∀ first, first <+: request.entries → ∀ id,
      fitsI64 (Tally.total id before + Tally.total id first) = true) Tallied
    (fun s before request tallied => by
      rw [NoneOverflows, entries_eq]
      exact tallied.meets_iff)
    (fun s before request tallied stays => tallied.step stays) _ _ order tallied_new
  rw [related, meets_iff_splits, Tally.InRange]
  simp only [run_append_eq, List.nil_append]

theorem tallied_run (stays : Meets (step checks) (NoneOverflows checks) new order) :
    Tallied (run (step checks) new order) (order.flatMap Request.entries) := by
  have tallied := @run_related _ _ (step checks) (NoneOverflows checks) _ append Tallied
    (fun s before request tallied stays => tallied.step stays) _ _ order tallied_new stays
  rwa [run_append_eq, List.nil_append] at tallied

theorem Tallied.reports {s : DwCounterService} {entries : List (UInt32 × Int)}
    (tallied : Tallied s entries) (session : BdSession) (counterIds : List UInt32) :
    ∃ totals, exec ((service checks).getCounterTotals session counterIds) s = (.ok totals, s)
      ∧ totals.map (fun total => (total.counterId, total.counterValue.toInt))
        = counterIds.map fun id => (id, Tally.total id entries) := by
  refine ⟨counterIds.map fun id => { counterId := id, counterValue := (s.data.get id).getD 0 },
    ?_, ?_⟩
  · simp [service, getCounterTotals, exec_bind, tallied.free]
  · simp [tallied.exact_]

theorem exact_iff (requests : Multiset Request) (whole : (order : Multiset Request) = requests) :
    Exact checks requests order
      ↔ Tally.InRange Request.entries (fun sum => fitsI64 sum = true) order := by
  rw [← @noOverflow_iff checks order]
  refine ⟨Exact.noOverflow, fun stays => ⟨stays, fun session counterIds _ => ?_⟩⟩
  rw [← whole]
  simp only [Tally.totalOf_coe]
  exact (tallied_run stays).reports session counterIds

/--
Whatever the order of the requests, no addition overflows and every total is
exact: if and only if the requests that may come first, and any beginning of the
next one, add up to an `i64` for every counter.
-/
theorem exact_in_every_order_iff (checks : Bool) (requests : Multiset Request) :
    (∀ order : List Request, (order : Multiset Request) = requests →
        Exact checks requests order)
      ↔ Tally.Bounded Request.entries (fun sum => fitsI64 sum = true) requests := by
  rw [Tally.bounded_iff_inRange]
  exact forall_congr' fun order => forall_congr' fun whole => exact_iff requests whole

end Whole

def client : BdSession := { id := 1, authentication := none, peerAddr := none }

def adds (amount : Int64) : Request :=
  { session := client, values := [{ counterId := 1, counterValue := amount }] }

def highest : Int64 := 9223372036854775807

theorem order_overflows :
    (exec ((service true).getCounterTotals client [1])
        (run (step true) new [adds highest, adds (-1), adds 1])).1 = .ok [⟨1, highest⟩]
      ∧ (exec ((service true).getCounterTotals client [1])
        (run (step true) new [adds highest, adds 1, adds (-1)])).1
          = .error (.panic .unwrapOnError)
      ∧ (exec ((service false).getCounterTotals client [1])
        (run (step false) new [adds highest, adds 1])).1 = .ok [⟨1, -9223372036854775808⟩]
      ∧ ∀ checks, ¬∀ (requests : Multiset Request) (order : List Request),
        (order : Multiset Request) = requests → Exact checks requests order := by
  refine ⟨by decide, by decide, by decide, fun checks claimed => ?_⟩
  have exact_ := claimed _ [adds highest, adds 1, adds (-1)] rfl
  have inRange := (exact_iff _ rfl).mp exact_
  have fits := inRange [adds highest] (adds 1) [adds (-1)] rfl _ (List.prefix_refl _) 1
  exact absurd fits (by decide)

end DwCounterService

end BitDemon
