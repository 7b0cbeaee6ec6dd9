import BitDemon.Lobby.LsgReply
import BitDemon.Messaging.StreamMode

set_option autoImplicit false

/-!
# Handling one lobby message

A handler reads from the message, calls its service and answers. Some handlers
swallow the errors of a read, so the state remembers every mode that a read has
asked for in vain.
-/

namespace BitDemon

open Machine

inductive IpAddr where
  | v4 (octets : Vector UInt8 4)
  | v6 (octets : Vector UInt8 16)
  deriving DecidableEq

structure BdSession where
  id : SessionId
  authentication : Option SessionAuthentication
  -- `none` when the peer has reset its connection
  peerAddr : Option IpAddr
  deriving DecidableEq

structure Handling (ω : Type) where
  reader : BdReader
  -- history: the modes asked for by the reads that were refused
  demanded : List StreamMode
  transactionIdCounter : UInt64
  -- whatever the services keep
  world : ω

abbrev HandleM (ω α : Type) := Fallible (Handling ω) α

section Effects

variable {ω α β : Type}

def perform (m : ReadM α) : HandleM ω α := fun s =>
  match exec m s.reader with
  | (.ok a, r) => (.ok a, { s with reader := r })
  | (.error fault, r) =>
    (.error fault, { s with reader := r, demanded := s.demanded ++ fault.demandedMode.toList })

def call (m : Fallible ω α) : HandleM ω α := fun s =>
  match exec m s.world with
  | (outcome, world) => (outcome, { s with world := world })

-- `Result::ok` on what a call returns; a panic passes through
def catchError (m : HandleM ω α) : HandleM ω (Option α) := fun s =>
  match exec m s with
  | (.ok a, t) => (.ok (some a), t)
  | (.error (.error _), t) => (.ok none, t)
  | (.error (.panic p), t) => (.error (.panic p), t)

def unwrapOr (m : HandleM ω α) (fallback : α) : HandleM ω α := do
  let result ← catchError m
  pure (result.getD fallback)

def nextTransactionId : HandleM ω UInt64 := do
  let s ← get
  modify fun s => { s with transactionIdCounter := s.transactionIdCounter + 1 }
  pure s.transactionIdCounter

def withOnlyErrorCode (errorCode : BdErrorCode) (operationId : UInt8) : HandleM ω Reply := do
  let transactionId ← nextTransactionId
  pure (.task (TaskReply.withOnlyErrorCode transactionId errorCode operationId))

def withResults (operationId : UInt8) (results : List TaskResult) : HandleM ω Reply := do
  let transactionId ← nextTransactionId
  pure (.task (TaskReply.withResults transactionId operationId results))

def withSingleResult (operationId : UInt8) (result : TaskResult) : HandleM ω Reply := do
  let transactionId ← nextTransactionId
  pure (.task (TaskReply.withSingleResult transactionId operationId result))

def respond (reply : Reply) : HandleM ω BdResponse :=
  match reply.toResponse with
  | .ok response => pure response
  | .error fault => throw fault

theorem exec_perform_ok {m : ReadM α} {h : Handling ω} {a : α} {reader : BdReader}
    (read : exec m h.reader = (.ok a, reader)) :
    exec (perform m) h = (.ok a, { h with reader := reader }) := by
  rw [exec, perform, read]

theorem exec_perform (m : ReadM α) (h : Handling ω) :
    ∃ demanded, exec (perform m) h
      = ((exec m h.reader).1, { h with reader := (exec m h.reader).2, demanded := demanded }) := by
  rw [exec, perform]
  rcases exec m h.reader with ⟨outcome, reader⟩
  cases outcome with
  | ok a => exact ⟨h.demanded, rfl⟩
  | error fault => exact ⟨_, rfl⟩

theorem exec_call (m : Fallible ω α) (h : Handling ω) :
    exec (call m) h = ((exec m h.world).1, { h with world := (exec m h.world).2 }) := rfl

-- every turn that goes on takes at least one byte off the message
def loopTurns : HandleM ω Nat := do
  let s ← get
  pure (s.reader.cursor.length + 2)

-- `while more()? { values.push(read()?) }`
def collectLoop (more : HandleM ω Bool) (read : HandleM ω α) : Nat → HandleM ω (List α)
  | 0 => panicWith .loopDoesNotEnd
  | turns + 1 => do
    if ← more then
      let value ← read
      let rest ← collectLoop more read turns
      pure (value :: rest)
    else
      pure []

def collectWhile (more : HandleM ω Bool) (read : HandleM ω α) : HandleM ω (List α) := do
  let turns ← loopTurns
  collectLoop more read turns

-- `while let Ok(value) = read() { values.push(value) }`
def collectOkLoop (read : HandleM ω α) : Nat → HandleM ω (List α)
  | 0 => panicWith .loopDoesNotEnd
  | turns + 1 => do
    match ← catchError read with
    | some value => do
      let rest ← collectOkLoop read turns
      pure (value :: rest)
    | none => pure []

def collectOk (read : HandleM ω α) : HandleM ω (List α) := do
  let turns ← loopTurns
  collectOkLoop read turns

section Kept

variable {kept : Handling ω → Prop}

theorem keeps_catchError {m : HandleM ω α} (inner : Keeps kept (fun _ => True) m) :
    Keeps kept (fun _ => True) (catchError m) := by
  intro s fine
  have ran := inner s fine
  rw [exec, catchError]
  rcases outcome : exec m s with ⟨result, t⟩
  rw [outcome] at ran
  rcases result with (e | p) | a <;> exact ⟨ran.1, fun _ _ => trivial⟩

theorem keeps_unwrapOr {m : HandleM ω α} (fallback : α) (inner : Keeps kept (fun _ => True) m) :
    Keeps kept (fun _ => True) (unwrapOr m fallback) :=
  keeps_bind (keeps_catchError inner) fun _ => keeps_pure _

theorem keeps_unwrap (value : Option α) :
    Keeps kept (fun _ => True) (unwrap value : HandleM ω α) := by
  cases value with
  | none => exact keeps_throw trivial
  | some a => exact keeps_pure a

theorem keeps_okOr (value : Option α) (e : BdError) :
    Keeps kept (fun _ => True) (okOr value e : HandleM ω α) := by
  cases value with
  | none => exact keeps_throw trivial
  | some a => exact keeps_pure a

section Counted

-- what is kept does not depend on the counter of transactions
variable (counted : ∀ s n, kept s → kept { s with transactionIdCounter := n })
include counted

theorem keeps_nextTransactionId :
    Keeps kept (fun _ => True) (nextTransactionId : HandleM ω UInt64) :=
  keeps_get_bind fun _ _ =>
    keeps_bind (keeps_modify fun s fine => counted s _ fine) fun _ => keeps_pure _

theorem keeps_withOnlyErrorCode (errorCode : BdErrorCode) (operationId : UInt8) :
    Keeps kept (fun _ => True) (withOnlyErrorCode errorCode operationId : HandleM ω Reply) :=
  keeps_bind (keeps_nextTransactionId counted) fun _ => keeps_pure _

theorem keeps_withResults (operationId : UInt8) (results : List TaskResult) :
    Keeps kept (fun _ => True) (withResults operationId results : HandleM ω Reply) :=
  keeps_bind (keeps_nextTransactionId counted) fun _ => keeps_pure _

theorem keeps_withSingleResult (operationId : UInt8) (result : TaskResult) :
    Keeps kept (fun _ => True) (withSingleResult operationId result : HandleM ω Reply) :=
  keeps_bind (keeps_nextTransactionId counted) fun _ => keeps_pure _

end Counted

theorem keeps_respond (reply : Reply) :
    Keeps kept (fun _ => True) (respond reply : HandleM ω BdResponse) := by
  rw [respond]
  split
  · exact keeps_pure _
  · exact keeps_throw trivial

theorem keeps_loopTurns : Keeps kept (fun _ => True) (loopTurns : HandleM ω Nat) :=
  keeps_get_bind fun _ _ => keeps_pure _

theorem keeps_collectWhile {more : HandleM ω Bool} {read : HandleM ω α}
    (asks : Keeps kept (fun _ => True) more) (reads : Keeps kept (fun _ => True) read) :
    Keeps kept (fun _ => True) (collectWhile more read) := by
  refine keeps_bind keeps_loopTurns fun turns => ?_
  induction turns with
  | zero => exact keeps_throw trivial
  | succ turns ih =>
    refine keeps_bind asks fun goesOn => keeps_ite (fun _ => ?_) fun _ => keeps_pure _
    exact keeps_bind reads fun _ => keeps_bind ih fun _ => keeps_pure _

theorem keeps_collectOk {read : HandleM ω α} (reads : Keeps kept (fun _ => True) read) :
    Keeps kept (fun _ => True) (collectOk read) := by
  refine keeps_bind keeps_loopTurns fun turns => ?_
  induction turns with
  | zero => exact keeps_throw trivial
  | succ turns ih =>
    refine keeps_bind (keeps_catchError reads) fun result => ?_
    cases result with
    | none => exact keeps_pure _
    | some value => exact keeps_bind ih fun _ => keeps_pure _

theorem keeps_readEach {read : HandleM ω α} (reads : Keeps kept (fun _ => True) read) (n : Nat) :
    Keeps kept (fun _ => True) (Wire.readEach read n) := by
  induction n with
  | zero => exact keeps_pure _
  | succ n ih => exact keeps_bind reads fun _ => keeps_bind ih fun _ => keeps_pure _

end Kept

/-- The mode stays and no read is refused. -/
abbrev Undisturbed (mode : StreamMode) (m : HandleM ω α) : Prop :=
  Keeps (fun s : Handling ω => s.reader.mode = mode ∧ s.demanded = []) (fun _ => True) m

variable {mode : StreamMode}

theorem undisturbed_perform {m : ReadM α} (safe : BdReader.SafeIn mode m) :
    Undisturbed mode (perform m : HandleM ω α) := by
  rintro s ⟨inMode, quiet⟩
  have kept := safe s.reader inMode
  rw [exec, perform]
  rcases ran : exec m s.reader with ⟨outcome, r⟩
  rw [ran] at kept
  cases outcome with
  | ok a => exact ⟨⟨kept.1, quiet⟩, fun _ _ => trivial⟩
  | error fault =>
    have silent := kept.2 fault rfl
    exact ⟨⟨kept.1, by simp [quiet, silent]⟩, fun _ _ => trivial⟩

theorem undisturbed_call (m : Fallible ω α) : Undisturbed mode (call m) := by
  intro s fine
  rw [exec, call]
  exact ⟨fine, fun _ _ => trivial⟩

theorem undisturbed_unwrapOr {m : HandleM ω α} (fallback : α) (inner : Undisturbed mode m) :
    Undisturbed mode (unwrapOr m fallback) := keeps_unwrapOr fallback inner

theorem undisturbed_unwrap (value : Option α) : Undisturbed mode (unwrap value : HandleM ω α) :=
  keeps_unwrap value

theorem undisturbed_withOnlyErrorCode (errorCode : BdErrorCode) (operationId : UInt8) :
    Undisturbed mode (withOnlyErrorCode errorCode operationId : HandleM ω Reply) :=
  keeps_withOnlyErrorCode (fun _ _ fine => fine) _ _

theorem undisturbed_withResults (operationId : UInt8) (results : List TaskResult) :
    Undisturbed mode (withResults operationId results : HandleM ω Reply) :=
  keeps_withResults (fun _ _ fine => fine) _ _

theorem undisturbed_withSingleResult (operationId : UInt8) (result : TaskResult) :
    Undisturbed mode (withSingleResult operationId result : HandleM ω Reply) :=
  keeps_withSingleResult (fun _ _ fine => fine) _ _

theorem undisturbed_respond (reply : Reply) :
    Undisturbed mode (respond reply : HandleM ω BdResponse) := keeps_respond reply

theorem undisturbed_collectWhile {more : HandleM ω Bool} {read : HandleM ω α}
    (asks : Undisturbed mode more) (reads : Undisturbed mode read) :
    Undisturbed mode (collectWhile more read) := keeps_collectWhile asks reads

theorem undisturbed_collectOk {read : HandleM ω α} (reads : Undisturbed mode read) :
    Undisturbed mode (collectOk read) := keeps_collectOk reads

theorem undisturbed_readEach {read : HandleM ω α} (reads : Undisturbed mode read) (n : Nat) :
    Undisturbed mode (Wire.readEach read n) := keeps_readEach reads n

def readValues : List ValueKind → ReadM (List Value)
  | [] => pure []
  | kind :: kinds => do
    let value ← kind.read
    let rest ← readValues kinds
    pure (value :: rest)

/-- In bit mode the run asks for byte mode, and it does so right after these values. -/
def DemandsAfter (kinds : List ValueKind) (m : HandleM ω α) : Prop :=
  ∀ s, s.reader.mode = .bitMode → s.demanded = [] →
    ((exec m s).2.demanded ≠ [] ↔ ∃ values, (exec (readValues kinds) s.reader).1 = .ok values)

theorem demandsAfter_refused {m : ReadM α} {f : α → HandleM ω β}
    (refused : ∀ r, r.mode = .bitMode →
      exec m r = (.error (.error (.readerMode .byteMode .bitMode)), r)) :
    DemandsAfter [] (perform m >>= f) := by
  intro s inMode quiet
  have stopped : exec (perform m) s
      = (.error (.error (.readerMode .byteMode .bitMode)), { s with demanded := [.byteMode] }) := by
    rw [exec, perform, refused s.reader inMode]
    simp [Fault.demandedMode, quiet]
  rw [exec_bind_error f stopped]
  simp [readValues]

theorem demandsAfter_bind {kind : ValueKind} {kinds : List ValueKind} {m : ReadM α}
    {wrap : α → Value} {f : α → HandleM ω β} (typed : kind.read = wrap <$> m)
    (safe : BdReader.SafeIn .bitMode m) (next : ∀ a, DemandsAfter kinds (f a)) :
    DemandsAfter (kind :: kinds) (perform m >>= f) := by
  intro s inMode quiet
  have kept := safe s.reader inMode
  rw [readValues, typed]
  rcases ran : exec m s.reader with ⟨outcome, r⟩
  rw [ran] at kept
  cases outcome with
  | ok a =>
    have went : exec (perform m) s = (.ok a, { s with reader := r }) := by
      rw [exec, perform, ran]
    have first : exec (wrap <$> m) s.reader = (.ok (wrap a), r) := by
      rw [exec_map, ran]
      rfl
    rw [exec_bind_ok f went, exec_bind_ok _ first]
    refine (next a { s with reader := r } kept.1 quiet).trans ?_
    rw [exec_bind]
    rcases exec (readValues kinds) r with ⟨outcome, last⟩
    cases outcome <;> simp
  | error fault =>
    have stopped : exec (perform m) s = (.error fault, { s with reader := r }) := by
      rw [exec, perform, ran]
      simp [kept.2 fault rfl]
    have first : exec (wrap <$> m) s.reader = (.error fault, r) := by
      rw [exec_map, ran]
      rfl
    rw [exec_bind_error f stopped, exec_bind_error _ first]
    simp [quiet]

/-- What a task does in bit mode, given the values it reads before it asks for byte mode. -/
def RefusedAfter (leading : Option (List ValueKind)) (m : HandleM ω α) : Prop :=
  match leading with
  | none => Undisturbed .bitMode m
  | some kinds => DemandsAfter kinds m

end Effects

end BitDemon
