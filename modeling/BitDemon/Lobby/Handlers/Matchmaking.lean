import BitDemon.Lobby.Handling

set_option autoImplicit false

/-!
# The matchmaking handler

A request carries a whole advertisement or a query, and two trailing bytes that
are read as bare bits.
-/

namespace BitDemon

open Machine BdReader

structure SessionQuery where
  kind : Int32
  limit : Int32
  filters : Vector Int32 6
  extra : Option Int32
  deriving DecidableEq

structure SessionRegistry (ω : Type) where
  create : SessionId → MatchMakingInfo → Fallible ω Minted
  update : SessionId → MatchMakingInfo → Fallible ω Bool
  delete : SessionId → List UInt8 → Fallible ω Bool
  listFor : SessionId → SessionQuery → Fallible ω (List MatchMakingInfo)

/-- The handler, and how it was built and logs. -/
structure MatchMakingHandler (ω : Type) where
  registry : SessionRegistry ω
  -- sums that overflow panic
  checks : Bool
  -- the log takes in what is traced
  traces : Bool

inductive MatchMakingTaskId where
  | createSession | updateSession | deleteSession | findSessions
  deriving DecidableEq, Repr

namespace MatchMakingTaskId

def toU8 : MatchMakingTaskId → UInt8
  | .createSession => 1
  | .updateSession => 2
  | .deleteSession => 3
  | .findSessions => 5

def all : List MatchMakingTaskId := [.createSession, .updateSession, .deleteSession, .findSessions]

def fromU8 (value : UInt8) : Option MatchMakingTaskId :=
  all.find? fun taskId => taskId.toU8 == value

end MatchMakingTaskId

def fitsI32 (value : Int) : Bool := decide (-2147483648 ≤ value) && decide (value < 2147483648)

/-- `a + b` on `i32`: it panics or wraps around, as the build has it. -/
def i32Add {σ : Type} (checks : Bool) (a b : Int32) : Fallible σ Int32 :=
  if checks && !fitsI32 (a.toInt + b.toInt) then panicWith .addWithOverflow
  else pure (a + b)

def readI32s : (n : Nat) → ReadM (Vector Int32 n)
  | 0 => pure #v[]
  | n + 1 => do
    let fields ← readI32s n
    let field ← readI32
    pure (fields.push field)

def addressLen : Nat := 37
def hostLen : Nat := 8
def keyLen : Nat := 16

def MatchMakingInfo.deserialize : ReadM MatchMakingInfo := do
  let address ← readBlob
  let host ← readBlob
  let key ← readBlob
  ensure (address.length == addressLen && host.length == hostLen && key.length == keyLen)
    (.malformedAdvertisement address.length host.length key.length)
  let freePublicSlots ← readI32
  let usedPublicSlots ← readI32
  let freePrivateSlots ← readI32
  let usedPrivateSlots ← readI32
  let titleData ← readI32s 9
  pure
    { address, host, key, freePublicSlots, usedPublicSlots, freePrivateSlots, usedPrivateSlots,
      titleData }

-- only the queries of one kind have an extra field
def SessionQuery.readExtra (kind : Int32) : ReadM (Option Int32) :=
  if kind = 2 then do
    let extra ← readI32
    pure (some extra)
  else
    pure none

def SessionQuery.deserialize : ReadM SessionQuery := do
  let kind ← readI32
  let limit ← readI32
  let filters ← readI32s 6
  let extra ← SessionQuery.readExtra kind
  pure { kind, limit, filters, extra }

def readTrailer : ReadM Unit := do
  let _first ← readBits [0] 8
  let _second ← readBits [0] 8
  pure ()

def readAdvertisement : ReadM MatchMakingInfo := do
  let info ← MatchMakingInfo.deserialize
  readTrailer
  pure info

namespace MatchMakingHandler

variable {ω : Type} (handler : MatchMakingHandler ω)

def createSession (session : BdSession) : HandleM ω Reply := do
  let info ← perform readAdvertisement
  let minted ← call (handler.registry.create session.id info)
  withResults MatchMakingTaskId.createSession.toU8
    [.sessionCreate ⟨minted.id.toList, minted.secret.toList⟩]

-- `trace!` evaluates what it is given only if it is taken in
def traceUpdate {σ : Type} (info : MatchMakingInfo) : Fallible σ Unit :=
  if handler.traces then do
    let _publicSlots ← i32Add handler.checks info.usedPublicSlots info.freePublicSlots
    pure ()
  else
    pure ()

def updateSession (session : BdSession) : HandleM ω Reply := do
  let info ← perform readAdvertisement
  handler.traceUpdate info
  let _updated ← call (handler.registry.update session.id info)
  withOnlyErrorCode .noError MatchMakingTaskId.updateSession.toU8

def deleteSession (session : BdSession) : HandleM ω Reply := do
  let id ← perform readBlob
  let _removed ← call (handler.registry.delete session.id id)
  withOnlyErrorCode .noError MatchMakingTaskId.deleteSession.toU8

def findSessions (session : BdSession) : HandleM ω Reply := do
  let query ← perform SessionQuery.deserialize
  perform readTrailer
  let sessions ← call (handler.registry.listFor session.id query)
  withResults MatchMakingTaskId.findSessions.toU8 (sessions.map .matchMakingInfo)

def handleTask (session : BdSession) (taskIdValue : UInt8) : HandleM ω Reply := do
  let _unrecovered ← perform readU8
  match MatchMakingTaskId.fromU8 taskIdValue with
  | none => withOnlyErrorCode .serviceNotAvailable taskIdValue
  | some .createSession => handler.createSession session
  | some .updateSession => handler.updateSession session
  | some .deleteSession => handler.deleteSession session
  | some .findSessions => handler.findSessions session

variable {handler} in
theorem exec_traceUpdate {σ : Type} {s : σ} {info : MatchMakingInfo}
    (fits : handler.checks = true → handler.traces = true →
      fitsI32 (info.usedPublicSlots.toInt + info.freePublicSlots.toInt) = true) :
    exec (handler.traceUpdate info) s = (.ok (), s) := by
  rw [traceUpdate]
  split
  next traces =>
    have added : exec (i32Add handler.checks info.usedPublicSlots info.freePublicSlots) s
        = (.ok (info.usedPublicSlots + info.freePublicSlots), s) := by
      rw [i32Add, if_neg ?_]
      · rfl
      · intro overflows
        obtain ⟨checks, unfit⟩ := (Bool.and_eq_true _ _).mp overflows
        rw [fits checks traces] at unfit
        cases unfit
    exact exec_bind_ok _ added
  next => rfl

theorem keeps_traceUpdate {σ : Type} {kept : σ → Prop} (info : MatchMakingInfo) :
    Keeps kept (fun _ => True) (handler.traceUpdate info) := by
  refine keeps_ite (fun _ => keeps_bind ?_ fun _ => keeps_pure _) fun _ => keeps_pure _
  exact keeps_ite (fun _ => keeps_throw trivial) fun _ => keeps_pure _

end MatchMakingHandler

theorem safe_readI32s {mode : StreamMode} (n : Nat) : SafeIn mode (readI32s n) := by
  induction n with
  | zero => exact keeps_pure _
  | succ n ih => exact keeps_bind ih fun _ => keeps_bind safe_readI32 fun _ => keeps_pure _

theorem MatchMakingInfo.safe_deserialize {mode : StreamMode} :
    SafeIn mode MatchMakingInfo.deserialize := by
  refine keeps_bind safe_readBlob fun address => ?_
  refine keeps_bind safe_readBlob fun host => ?_
  refine keeps_bind safe_readBlob fun key => ?_
  refine keeps_bind (safe_ensure _ rfl) fun _ => ?_
  refine keeps_bind safe_readI32 fun _ => keeps_bind safe_readI32 fun _ => ?_
  refine keeps_bind safe_readI32 fun _ => keeps_bind safe_readI32 fun _ => ?_
  exact keeps_bind (safe_readI32s 9) fun _ => keeps_pure _

theorem SessionQuery.safe_deserialize {mode : StreamMode} :
    SafeIn mode SessionQuery.deserialize := by
  refine keeps_bind safe_readI32 fun kind => keeps_bind safe_readI32 fun _ => ?_
  refine keeps_bind (safe_readI32s 6) fun filters => ?_
  have extra : SafeIn mode (SessionQuery.readExtra kind) :=
    keeps_ite (fun _ => keeps_bind safe_readI32 fun _ => keeps_pure _) fun _ => keeps_pure _
  exact keeps_bind extra fun _ => keeps_pure _

theorem safe_readTrailer : SafeIn .bitMode readTrailer :=
  keeps_bind (safe_readBits _ _) fun _ => keeps_bind (safe_readBits _ _) fun _ => keeps_pure _

theorem safe_readAdvertisement : SafeIn .bitMode readAdvertisement :=
  keeps_bind MatchMakingInfo.safe_deserialize fun _ =>
    keeps_bind safe_readTrailer fun _ => keeps_pure _

namespace MatchMakingHandler

variable {ω : Type} (handler : MatchMakingHandler ω) (session : BdSession)

theorem undisturbed_createSession : Undisturbed .bitMode (handler.createSession session) :=
  keeps_bind (undisturbed_perform safe_readAdvertisement) fun _ =>
    keeps_bind (undisturbed_call _) fun _ => undisturbed_withResults _ _

theorem undisturbed_updateSession : Undisturbed .bitMode (handler.updateSession session) :=
  keeps_bind (undisturbed_perform safe_readAdvertisement) fun _ =>
    keeps_bind (handler.keeps_traceUpdate _) fun _ =>
      keeps_bind (undisturbed_call _) fun _ => undisturbed_withOnlyErrorCode _ _

theorem undisturbed_deleteSession : Undisturbed .bitMode (handler.deleteSession session) :=
  keeps_bind (undisturbed_perform safe_readBlob) fun _ =>
    keeps_bind (undisturbed_call _) fun _ => undisturbed_withOnlyErrorCode _ _

theorem undisturbed_findSessions : Undisturbed .bitMode (handler.findSessions session) :=
  keeps_bind (undisturbed_perform SessionQuery.safe_deserialize) fun _ =>
    keeps_bind (undisturbed_perform safe_readTrailer) fun _ =>
      keeps_bind (undisturbed_call _) fun _ => undisturbed_withResults _ _

theorem undisturbed_handleTask (taskIdValue : UInt8) :
    Undisturbed .bitMode (handler.handleTask session taskIdValue) := by
  refine keeps_bind (undisturbed_perform safe_readU8) fun _ => ?_
  rcases MatchMakingTaskId.fromU8 taskIdValue with _ | task
  · exact undisturbed_withOnlyErrorCode _ _
  · cases task with
    | createSession => exact undisturbed_createSession handler session
    | updateSession => exact undisturbed_updateSession handler session
    | deleteSession => exact undisturbed_deleteSession handler session
    | findSessions => exact undisturbed_findSessions handler session

end MatchMakingHandler

end BitDemon
