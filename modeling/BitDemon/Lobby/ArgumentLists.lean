import BitDemon.Lobby.Server
import BitDemon.Messaging.Peek

set_option autoImplicit false

/-!
# Lists without a count

A list at the end of a request is read until its loop finds nothing more of it.
The loops look for the end in three ways; padding looks like an element to none
of them.
-/

namespace BitDemon

open Machine Bits BdReader Format

section Loops

variable {ω α : Type}

-- what the loops of the handlers have in common
def untilNone (next : HandleM ω (Option α)) : Nat → HandleM ω (List α)
  | 0 => panicWith .loopDoesNotEnd
  | turns + 1 => do
    match ← next with
    | some value => do
      let rest ← untilNone next turns
      pure (value :: rest)
    | none => pure []

def nextIf (more : HandleM ω Bool) (read : HandleM ω α) : HandleM ω (Option α) := do
  if ← more then
    let value ← read
    pure (some value)
  else
    pure none

theorem collectLoop_eq (more : HandleM ω Bool) (read : HandleM ω α) (turns : Nat) :
    collectLoop more read turns = untilNone (nextIf more read) turns := by
  induction turns with
  | zero => rfl
  | succ turns ih =>
    rw [collectLoop, untilNone, nextIf, bind_assoc]
    refine bind_congr fun goesOn => ?_
    cases goesOn with
    | false => rfl
    | true =>
      simp only [if_true, bind_assoc, pure_bind, ih]
      rfl

theorem collectOkLoop_eq (read : HandleM ω α) (turns : Nat) :
    collectOkLoop read turns = untilNone (catchError read) turns := by
  induction turns with
  | zero => rfl
  | succ turns ih =>
    rw [collectOkLoop, untilNone]
    refine bind_congr fun result => ?_
    cases result with
    | none => rfl
    | some value => simp only [ih]

def Holding (frame s : Handling ω) : Prop :=
  s.reader.Ready .bitMode true ∧ s = { frame with reader := s.reader }

/-- From the code of a value the computation takes the value, and leaves what follows. -/
abbrev Takes (frame : Handling ω) (m : HandleM ω α) (code : List Bool) (a : α) : Prop :=
  Wire.Accepts (Holding frame) (fun s => s.reader.bits) m code a

theorem takes_perform {frame : Handling ω} {m : ReadM α} {code : List Bool} {a : α}
    (reads : Reads .bitMode true m code a) : Takes frame (perform m) code a := by
  intro s rest holding starts
  obtain ⟨reader, ran, ready, left⟩ := reads s.reader rest holding.1 starts
  refine ⟨{ s with reader := reader }, exec_perform_ok ran, ⟨ready, ?_⟩, left⟩
  rw [holding.2]

variable {frame : Handling ω} {next : HandleM ω (Option α)} {code : α → List Bool}

theorem exec_untilNone (takes : ∀ value, Takes frame next (code value) (some value))
    {values : List α} {rest : List Bool} {turns : Nat} (enough : values.length < turns)
    {s : Handling ω} (holding : Holding frame s)
    (starts : s.reader.bits = values.flatMap code ++ rest) :
    ∃ t left, Holding frame t ∧ t.reader.bits = rest
      ∧ exec (untilNone next turns) s
        = exec (untilNone next (left + 1) >>= fun later => pure (values ++ later)) t := by
  induction values generalizing turns s with
  | nil =>
    refine ⟨s, turns - 1, holding, starts, ?_⟩
    have whole : turns - 1 + 1 = turns := Nat.sub_add_cancel enough
    simp only [whole, List.nil_append, bind_pure]
  | cons value values ih =>
    obtain ⟨more, rfl⟩ : ∃ more, turns = more + 1 := ⟨turns - 1, by simp at enough; omega⟩
    rw [List.flatMap_cons, List.append_assoc] at starts
    obtain ⟨u, took, after, leaves⟩ := takes value s _ holding starts
    obtain ⟨t, left, there, ends, later⟩ := ih (Nat.lt_of_succ_lt_succ enough) after leaves
    refine ⟨t, left, there, ends, ?_⟩
    rw [untilNone, exec_bind_ok _ took]
    dsimp only
    rw [exec_bind, later, exec_bind, exec_bind]
    rcases exec (untilNone next (left + 1)) t with ⟨outcome, after⟩
    cases outcome <;> rfl

/-- One turn of a loop takes a value, and finds none in zero bits. -/
structure Scans (frame : Handling ω) (next : HandleM ω (Option α)) (code : α → List Bool) :
    Prop where
  takes : ∀ value, Takes frame next (code value) (some value)
  stops : ∀ s n, Holding frame s → s.reader.bits = List.replicate n false →
    ∃ reader, exec next s = (.ok none, { frame with reader := reader })

theorem exec_untilNone_scans (scans : Scans frame next code) {values : List α} {n turns : Nat}
    (enough : values.length < turns) {s : Handling ω} (holding : Holding frame s)
    (starts : s.reader.bits = values.flatMap code ++ List.replicate n false) :
    ∃ reader, exec (untilNone next turns) s = (.ok values, { frame with reader := reader }) := by
  obtain ⟨t, left, there, ends, ran⟩ := exec_untilNone scans.takes enough holding starts
  obtain ⟨reader, stopped⟩ := scans.stops t n there ends
  refine ⟨reader, ?_⟩
  rw [ran, untilNone, bind_assoc, exec_bind_ok _ stopped]
  simp only [pure_bind, List.append_nil, exec_pure]

theorem length_lt_turns {typeChecked : Bool} {r : BdReader} {values : List α} {n : Nat}
    (wide : ∀ value, 8 ≤ (code value).length) (ready : r.Ready .bitMode typeChecked)
    (starts : r.bits = values.flatMap code ++ List.replicate n false) :
    values.length < r.cursor.length + 2 := by
  have size : 8 * values.length ≤ (values.flatMap code).length := by
    clear starts
    induction values with
    | nil => simp
    | cons value rest ih =>
      have here := wide value
      rw [List.flatMap_cons, List.length_append, List.length_cons]
      omega
  have total := congrArg List.length starts
  have positive := ready.positive
  simp only [bits, List.length_append, List.length_drop, length_ofByte, length_ofBytes,
    List.length_replicate] at total
  omega

theorem exec_collectWhile {more : HandleM ω Bool} {read : HandleM ω α}
    (scans : Scans frame (nextIf more read) code) (wide : ∀ value, 8 ≤ (code value).length)
    {values : List α} {n : Nat} {s : Handling ω} (holding : Holding frame s)
    (starts : s.reader.bits = values.flatMap code ++ List.replicate n false) :
    ∃ reader, exec (collectWhile more read) s = (.ok values, { frame with reader := reader }) := by
  have turns : exec loopTurns s = (.ok (s.reader.cursor.length + 2), s) := rfl
  rw [collectWhile, exec_bind_ok _ turns, collectLoop_eq]
  exact exec_untilNone_scans scans (length_lt_turns wide holding.1 starts) holding starts

theorem exec_collectOk {read : HandleM ω α} (scans : Scans frame (catchError read) code)
    (wide : ∀ value, 8 ≤ (code value).length) {values : List α} {n : Nat} {s : Handling ω}
    (holding : Holding frame s)
    (starts : s.reader.bits = values.flatMap code ++ List.replicate n false) :
    ∃ reader, exec (collectOk read) s = (.ok values, { frame with reader := reader }) := by
  have turns : exec loopTurns s = (.ok (s.reader.cursor.length + 2), s) := rfl
  rw [collectOk, exec_bind_ok _ turns, collectOkLoop_eq]
  exact exec_untilNone_scans scans (length_lt_turns wide holding.1 starts) holding starts

end Loops

section Asking

variable {ω α : Type} {m : HandleM ω α} {s t : Handling ω} {a : α}

theorem exec_catchError_ok (ran : exec m s = (.ok a, t)) :
    exec (catchError m) s = (.ok (some a), t) := by
  rw [exec, catchError, ran]

theorem exec_catchError_error {e : BdError} (ran : exec m s = (.error (.error e), t)) :
    exec (catchError m) s = (.ok none, t) := by
  rw [exec, catchError, ran]

theorem exec_unwrapOr_ok (fallback : α) (ran : exec m s = (.ok a, t)) :
    exec (unwrapOr m fallback) s = (.ok a, t) := by
  rw [unwrapOr, exec_bind_ok _ (exec_catchError_ok ran)]
  rfl

theorem exec_unwrapOr_error (fallback : α) {e : BdError}
    (ran : exec m s = (.error (.error e), t)) :
    exec (unwrapOr m fallback) s = (.ok fallback, t) := by
  rw [unwrapOr, exec_bind_ok _ (exec_catchError_error ran)]
  rfl

theorem exec_perform_error {m : ReadM α} {fault : Fault} {reader : BdReader}
    (failed : exec m s.reader = (.error fault, reader)) (silent : fault.demandedMode = none) :
    exec (perform m) s = (.error fault, { s with reader := reader }) := by
  rw [exec, perform, failed]
  simp [silent]

end Asking

section Turns

variable {ω α : Type} {frame : Handling ω} {expected : BdDataType} {c : LeCodec α}

theorem Holding.frame_eq {s : Handling ω} (holding : Holding frame s) (reader : BdReader) :
    { s with reader := reader } = { frame with reader := reader } := by
  rw [holding.2]

theorem takes_nextIf {more : HandleM ω Bool} {read : HandleM ω α} {code : α → List Bool}
    (turn : ∀ value s rest, Holding frame s → s.reader.bits = code value ++ rest →
      ∃ t u, exec more s = (.ok true, t) ∧ exec read t = (.ok value, u) ∧ Holding frame u
        ∧ u.reader.bits = rest) (value : α) :
    Takes frame (nextIf more read) (code value) (some value) := by
  intro s rest holding starts
  obtain ⟨t, u, asked, took, after, left⟩ := turn value s rest holding starts
  refine ⟨u, ?_, after, left⟩
  rw [nextIf, exec_bind_ok _ asked, if_pos rfl, exec_bind_ok _ took]
  rfl

theorem exec_nextIf_false {more : HandleM ω Bool} {read : HandleM ω α} {s t : Handling ω}
    (asked : exec more s = (.ok false, t)) : exec (nextIf more read) s = (.ok none, t) := by
  rw [nextIf, exec_bind_ok _ asked]
  rfl

theorem takes_peeked (common : expected ≠ .maxType) {more : HandleM ω Bool}
    (asks : ∀ s peeked, Holding frame s → 5 + 8 * c.size ≤ s.reader.bits.length →
      exec (nextIs expected) s.reader = (.ok true, peeked) →
      exec more s = (.ok true, { s with reader := peeked })) (value : α) :
    Takes frame (nextIf more (perform (readScalar expected c)))
      (scalarCode .bitMode true expected c value) (some value) := by
  refine takes_nextIf (fun value s rest holding starts => ?_) value
  obtain ⟨peeked, reader, looked, took, ready, left⟩ :=
    exec_nextIs_value common c value holding.1 starts
  have long : 5 + 8 * c.size ≤ s.reader.bits.length := by
    rw [starts]
    simp [scalarCode, tagCode, dataTypeCode]
  refine ⟨{ s with reader := peeked }, { s with reader := reader },
    asks s peeked holding long looked, exec_perform_ok took, ⟨ready, ?_⟩, left⟩
  exact holding.frame_eq reader

theorem takes_nextIs (common : expected ≠ .maxType) (value : α) :
    Takes frame (nextIf (perform (nextIs expected)) (perform (readScalar expected c)))
      (scalarCode .bitMode true expected c value) (some value) :=
  takes_peeked common (fun _ _ _ _ looked => exec_perform_ok looked) value

theorem scans_tolerant (some : expected ≠ .noType) (common : expected ≠ .maxType) :
    Scans frame (nextIf (unwrapOr (perform (nextIs expected)) false)
      (perform (readScalar expected c))) (scalarCode .bitMode true expected c) where
  takes := takes_peeked common fun _ _ _ _ looked => exec_unwrapOr_ok _ (exec_perform_ok looked)
  stops := by
    intro s n holding zero
    by_cases enough : 5 ≤ n
    · obtain ⟨reader, looked⟩ := exec_nextIs_zeros some holding.1 zero enough
      refine ⟨reader, exec_nextIf_false ?_⟩
      rw [exec_unwrapOr_ok _ (exec_perform_ok looked), holding.frame_eq]
    · have short : s.reader.bits.length < 5 := by
        rw [zero, List.length_replicate]
        omega
      have failed := @exec_nextIs_short s.reader expected holding.1 short
      refine ⟨s.reader, exec_nextIf_false ?_⟩
      rw [exec_unwrapOr_error _ (exec_perform_error failed rfl), holding.frame_eq]

variable {entryBits : Nat}

theorem exec_nextEntryFits_long {s : Handling ω} {peeked : BdReader} (holding : Holding frame s)
    (long : entryBits ≤ s.reader.bits.length)
    (looked : exec nextIsU64 s.reader = (.ok true, peeked)) :
    exec (nextEntryFits entryBits) s = (.ok true, { s with reader := peeked }) := by
  have counted : exec (perform remainingBits) s = (.ok s.reader.bits.length, s) :=
    exec_perform_ok (exec_remainingBits holding.1)
  rw [nextEntryFits, exec_bind_ok _ counted, if_pos long]
  exact exec_perform_ok looked

theorem exec_nextEntryFits_zeros {s : Handling ω} {n : Nat} (wide : 5 ≤ entryBits)
    (holding : Holding frame s) (zero : s.reader.bits = List.replicate n false) :
    ∃ reader, exec (nextEntryFits entryBits) s = (.ok false, { frame with reader := reader }) := by
  have counted : exec (perform remainingBits) s = (.ok s.reader.bits.length, s) :=
    exec_perform_ok (exec_remainingBits holding.1)
  rw [zero, List.length_replicate] at counted
  rw [nextEntryFits, exec_bind_ok _ counted]
  by_cases enough : entryBits ≤ n
  · obtain ⟨reader, looked⟩ := @exec_nextIs_zeros s.reader .unsignedInteger64Type n (by decide)
      holding.1 zero (Nat.le_trans wide enough)
    refine ⟨reader, ?_⟩
    rw [if_pos enough, ← holding.frame_eq]
    exact exec_perform_ok looked
  · refine ⟨s.reader, ?_⟩
    rw [if_neg enough, ← holding.frame_eq]
    rfl

end Turns

section Handlers

variable {ω : Type} {frame : Handling ω}

abbrev userCode : UInt64 → List Bool := scalarCode .bitMode true .unsignedInteger64Type .u64

abbrev counterIdCode : UInt32 → List Bool := scalarCode .bitMode true .unsignedInteger32Type .u32

def infoCode (info : PerformanceInfo) : List Bool :=
  userCode info.id ++ scalarCode .bitMode true .signedInteger32Type .i32 info.value

def counterValueCode (result : CounterValueResult) : List Bool :=
  counterIdCode result.counterId
    ++ scalarCode .bitMode true .signedInteger64Type .i64 result.counterValue

theorem length_scalarCode {α : Type} (dataType : BdDataType) (c : LeCodec α) (value : α) :
    (scalarCode .bitMode true dataType c value).length = 5 + 8 * c.size := by
  simp [scalarCode, tagCode, dataTypeCode]

theorem wide_scalar {α : Type} {dataType : BdDataType} {c : LeCodec α} (some : 0 < c.size)
    (value : α) : 8 ≤ (scalarCode .bitMode true dataType c value).length := by
  rw [length_scalarCode]
  omega

theorem scans_recipients : Scans frame
    (nextIf (nextEntryFits MessagingHandler.recipientBits) (perform readU64)) userCode where
  takes := takes_peeked (by decide) fun s peeked holding long looked =>
    exec_nextEntryFits_long holding long looked
  stops := by
    intro s n holding zero
    obtain ⟨reader, asked⟩ := @exec_nextEntryFits_zeros ω frame MessagingHandler.recipientBits s n
      (by decide) holding zero
    exact ⟨reader, exec_nextIf_false asked⟩

theorem scans_infos : Scans frame
    (nextIf (nextEntryFits PerformanceHandler.infoBits) PerformanceHandler.readInfo)
    infoCode where
  takes := by
    intro info
    refine takes_nextIf (fun info s rest holding starts => ?_) info
    have long : PerformanceHandler.infoBits ≤ s.reader.bits.length := by
      rw [starts, infoCode, List.length_append, List.length_append, length_scalarCode,
        length_scalarCode]
      exact Nat.le_add_right 106 rest.length
    rw [infoCode, List.append_assoc] at starts
    obtain ⟨peeked, reader, looked, took, ready, left⟩ :=
      exec_nextIs_value (by decide) .u64 info.id holding.1 starts
    obtain ⟨last, tookValue, readyAfter, leftAfter⟩ :=
      reads_scalar (by decide) .i32 info.value reader rest ready left
    refine ⟨{ s with reader := peeked }, { s with reader := last },
      exec_nextEntryFits_long holding long looked, ?_, ⟨readyAfter, holding.frame_eq last⟩,
      leftAfter⟩
    have first : exec (perform readU64) { s with reader := peeked }
        = (.ok info.id, { s with reader := reader }) := exec_perform_ok took
    have second : exec (perform readI32) { s with reader := reader }
        = (.ok info.value, { s with reader := last }) := exec_perform_ok tookValue
    rw [PerformanceHandler.readInfo, exec_bind_ok _ first, exec_bind_ok _ second]
    rfl
  stops := by
    intro s n holding zero
    obtain ⟨reader, asked⟩ := @exec_nextEntryFits_zeros ω frame PerformanceHandler.infoBits s n
      (by decide) holding zero
    exact ⟨reader, exec_nextIf_false asked⟩

theorem scans_increments : Scans frame
    (catchError (perform CounterValueResult.deserialize)) counterValueCode where
  takes := by
    intro result s rest holding starts
    have reads : Reads .bitMode true CounterValueResult.deserialize (counterValueCode result)
        result :=
      Wire.accepts_bind (reads_scalar (by decide) .u32 result.counterId)
        (Wire.accepts_finish (reads_scalar (by decide) .i64 result.counterValue)
          (Wire.accepts_pure result))
    obtain ⟨t, took, after, left⟩ := takes_perform reads s rest holding starts
    exact ⟨t, exec_catchError_ok took, after, left⟩
  stops := by
    intro s n holding zero
    obtain ⟨e, reader, failed, silent⟩ := @exec_readScalar_zeros s.reader .unsignedInteger32Type n _
      (by decide) .u32 holding.1 zero
    have stopped : exec CounterValueResult.deserialize s.reader = (.error (.error e), reader) :=
      exec_bind_error _ failed
    refine ⟨reader, ?_⟩
    rw [exec_catchError_error (exec_perform_error stopped silent), holding.frame_eq]

end Handlers

inductive ListRequest (ω : Type) where
  | sendMessage (router : MessageRouter ω) (lead : UInt8) (payload : List UInt8)
      (unrecovered : UInt32) (recipients : List UInt64)
  | reportInfo (context : UInt32) (entries : List PerformanceInfo)
  | reportPlayers (playlist : UInt32) (players : List UInt64)
  | getInfo (service : RichPresenceService ω) (users : List UInt64)
  | getCounterTotals (service : CounterService ω) (counterIds : List UInt32)
  | incrementCounters (service : CounterService ω) (increments : List CounterValueResult)

namespace ListRequest

variable {ω : Type}

def handler : ListRequest ω → LobbyHandler ω
  | .sendMessage router _ _ _ _ => .messaging router
  | .reportInfo _ _ => .performance
  | .reportPlayers _ _ => .performance
  | .getInfo service _ => .richPresence service
  | .getCounterTotals service _ => .counter service
  | .incrementCounters service _ => .counter service

def fixed : ListRequest ω → List Value
  | .sendMessage _ lead payload unrecovered _ =>
    [.u8 MessagingTaskId.sendMessage.toU8, .u8 lead, .blob payload, .u32 unrecovered, .bool false]
  | .reportInfo context _ => [.u8 PerformanceTaskId.reportInfo.toU8, .u32 context]
  | .reportPlayers playlist _ => [.u8 PerformanceTaskId.reportPlayers.toU8, .u32 playlist]
  | .getInfo _ _ => [.u8 RichPresenceTaskId.getInfo.toU8]
  | .getCounterTotals _ _ => [.u8 CounterTaskId.getCounterTotals.toU8]
  | .incrementCounters _ _ => [.u8 CounterTaskId.incrementCounters.toU8]

def elements : ListRequest ω → List Value
  | .sendMessage _ _ _ _ recipients => recipients.map .u64
  | .reportInfo _ entries => entries.flatMap fun entry => [.u64 entry.id, .i32 entry.value]
  | .reportPlayers _ players => players.map .u64
  | .getInfo _ users => users.map .u64
  | .getCounterTotals _ counterIds => counterIds.map .u32
  | .incrementCounters _ increments =>
    increments.flatMap fun result => [.u32 result.counterId, .i64 result.counterValue]

def Encoded (request : ListRequest ω) (padding : Nat) (r : BdReader) : Prop :=
  r.Ready .bitMode true
    ∧ r.bits = (request.fixed ++ request.elements).flatMap (Value.code .bitMode true)
      ++ List.replicate padding false

def readElements : ListRequest ω → HandleM ω (List Value)
  | .sendMessage _ _ _ _ _ => do
    let _task ← perform readU8
    let _lead ← perform readU8
    let _payload ← perform readBlob
    let _unrecovered ← perform readU32
    let single ← perform readBool
    let recipients ← MessagingHandler.readRecipients single
    pure (recipients.map .u64)
  | .reportInfo _ _ => do
    let _task ← perform readU8
    let _context ← perform readU32
    let entries ← collectWhile (nextEntryFits PerformanceHandler.infoBits)
      PerformanceHandler.readInfo
    pure (entries.flatMap fun entry => [.u64 entry.id, .i32 entry.value])
  | .reportPlayers _ _ => do
    let _task ← perform readU8
    let _playlist ← perform readU32
    let players ← collectWhile (nextEntryFits PerformanceHandler.playerBits) (perform readU64)
    pure (players.map .u64)
  | .getInfo _ _ => do
    let _task ← perform readU8
    let users ← collectWhile (unwrapOr (perform nextIsU64) false) (perform readU64)
    pure (users.map .u64)
  | .getCounterTotals _ _ => do
    let _task ← perform readU8
    let counterIds ← collectWhile (unwrapOr (perform nextIsU32) false) (perform readU32)
    pure (counterIds.map .u32)
  | .incrementCounters _ _ => do
    let _task ← perform readU8
    let increments ← collectOk (perform CounterValueResult.deserialize)
    pure (increments.flatMap fun result => [.u32 result.counterId, .i64 result.counterValue])

def answerPresences :
    Except RichPresenceServiceError (List (Option (List UInt8))) → HandleM ω Reply
  | .ok presences =>
    withResults RichPresenceTaskId.getInfo.toU8
      (presences.map fun presence => .richPresenceInfo (.ofOption presence))
  | .error code => RichPresenceHandler.handleRichPresenceError code .getInfo

def handOn (session : BdSession) : ListRequest ω → HandleM ω Reply
  | .sendMessage router _ payload _ recipients => do
    let authentication ← unwrap session.authentication
    let now ← call router.now
    MessagingHandler.deliverAll router authentication now payload recipients
    withOnlyErrorCode .noError MessagingTaskId.sendMessage.toU8
  | .reportInfo _ _ => withOnlyErrorCode .noError PerformanceTaskId.reportInfo.toU8
  | .reportPlayers _ _ => withResults PerformanceTaskId.reportPlayers.toU8 []
  | .getInfo service users => call (service.getInfo session users) >>= answerPresences
  | .getCounterTotals service counterIds => do
    let totals ← call (service.getCounterTotals session counterIds)
    withResults CounterTaskId.getCounterTotals.toU8
      (totals.map fun v => .counterValue ⟨v.counterId, v.counterValue⟩)
  | .incrementCounters service increments => do
    call (service.incrementCounters session
      ((increments.filter fun value => value.counterId != 0).map fun value =>
        { counterId := value.counterId, counterIncrement := value.counterValue }))
    withOnlyErrorCode .noError CounterTaskId.incrementCounters.toU8

section Reading

variable {frame s : Handling ω}

theorem read_field {α : Type} {m : ReadM α} {a : α} {code rest : List Bool}
    (reads : Reads .bitMode true m code a) (holding : Holding frame s)
    (starts : s.reader.bits = code ++ rest) :
    ∃ t, Holding frame t ∧ t.reader.bits = rest
      ∧ ∀ {β : Type} (f : α → HandleM ω β), exec (perform m >>= f) s = exec (f a) t := by
  obtain ⟨t, ran, after, left⟩ := takes_perform reads s rest holding starts
  exact ⟨t, after, left, fun f => exec_bind_ok f ran⟩

theorem reads_u8 (value : UInt8) :
    Reads .bitMode true readU8 (Value.code .bitMode true (.u8 value)) value :=
  reads_scalar (by decide) .u8 value

theorem reads_u32 (value : UInt32) :
    Reads .bitMode true readU32 (Value.code .bitMode true (.u32 value)) value :=
  reads_scalar (by decide) .u32 value

theorem flatMap_users (users : List UInt64) :
    (users.map Value.u64).flatMap (Value.code .bitMode true) = users.flatMap userCode := by
  rw [List.flatMap_map]
  rfl

theorem flatMap_infos (infos : List PerformanceInfo) :
    (infos.flatMap fun info => [Value.u64 info.id, .i32 info.value]).flatMap
        (Value.code .bitMode true) = infos.flatMap infoCode := by
  rw [List.flatMap_assoc]
  rfl

theorem flatMap_counterIds (counterIds : List UInt32) :
    (counterIds.map Value.u32).flatMap (Value.code .bitMode true)
      = counterIds.flatMap counterIdCode := by
  rw [List.flatMap_map]
  rfl

theorem flatMap_increments (increments : List CounterValueResult) :
    (increments.flatMap fun result =>
        [Value.u32 result.counterId, .i64 result.counterValue]).flatMap (Value.code .bitMode true)
      = increments.flatMap counterValueCode := by
  rw [List.flatMap_assoc]
  rfl

theorem wide_info (info : PerformanceInfo) : 8 ≤ (infoCode info).length := by
  have first : 8 ≤ (userCode info.id).length := wide_scalar (by decide) info.id
  rw [infoCode, List.length_append]
  omega

theorem wide_counterValue (result : CounterValueResult) : 8 ≤ (counterValueCode result).length := by
  have first : 8 ≤ (counterIdCode result.counterId).length := wide_scalar (by decide) _
  rw [counterValueCode, List.length_append]
  omega

def ReadWhole (request : ListRequest ω) (session : BdSession) (h : Handling ω) : Prop :=
  ∃ reader, exec request.readElements h = (.ok request.elements, { h with reader := reader })
    ∧ exec (request.handler.answer session) h
      = exec (request.handOn session) { h with reader := reader }

variable {session : BdSession} {padding : Nat}

theorem Encoded.holding {request : ListRequest ω} (encoded : request.Encoded padding s.reader) :
    Holding s s := ⟨encoded.1, rfl⟩

theorem Encoded.starts {request : ListRequest ω} (encoded : request.Encoded padding s.reader) :
    s.reader.bits = request.fixed.flatMap (Value.code .bitMode true)
      ++ (request.elements.flatMap (Value.code .bitMode true) ++ List.replicate padding false) := by
  rw [encoded.2, List.flatMap_append, List.append_assoc]

theorem readWhole_sendMessage {router : MessageRouter ω} {lead : UInt8} {payload : List UInt8}
    {unrecovered : UInt32} {recipients : List UInt64} (size : payload.length < 2 ^ 32)
    (encoded : (sendMessage router lead payload unrecovered recipients : ListRequest ω).Encoded padding
      s.reader) :
    (sendMessage router lead payload unrecovered recipients : ListRequest ω).ReadWhole session s := by
  have starts := encoded.starts
  simp only [fixed, elements, List.flatMap_cons, List.flatMap_nil, List.append_nil,
    List.append_assoc, flatMap_users] at starts
  obtain ⟨h1, holding1, starts1, ran1⟩ := read_field (reads_u8 _) encoded.holding starts
  obtain ⟨h2, holding2, starts2, ran2⟩ := read_field (reads_u8 lead) holding1 starts1
  obtain ⟨h3, holding3, starts3, ran3⟩ := read_field (reads_blob size) holding2 starts2
  obtain ⟨h4, holding4, starts4, ran4⟩ := read_field (reads_u32 unrecovered) holding3 starts3
  obtain ⟨h5, holding5, starts5, ran5⟩ := read_field (reads_bool false) holding4 starts4
  obtain ⟨reader, looped⟩ :=
    exec_collectWhile scans_recipients (wide_scalar (by decide)) holding5 starts5
  have recipientsRead : exec (MessagingHandler.readRecipients false) h5
      = (.ok recipients, { s with reader := reader }) := looped
  have task : MessagingTaskId.fromU8 MessagingTaskId.sendMessage.toU8 = some .sendMessage := rfl
  refine ⟨reader, ?_, ?_⟩
  · rw [readElements, ran1, ran2, ran3, ran4, ran5, exec_bind_ok _ recipientsRead]
    rfl
  · rw [handler, LobbyHandler.answer, LobbyHandler.readTask, ran1, MessagingHandler.handleTask,
      ran2, task]
    dsimp only
    rw [MessagingHandler.sendMessage, ran3, ran4, ran5, exec_bind_ok _ recipientsRead]
    rfl

theorem readWhole_reportInfo {context : UInt32} {entries : List PerformanceInfo}
    (encoded : (reportInfo context entries : ListRequest ω).Encoded padding s.reader) :
    (reportInfo context entries : ListRequest ω).ReadWhole session s := by
  have starts := encoded.starts
  simp only [fixed, elements, List.flatMap_cons, List.flatMap_nil, List.append_nil,
    List.append_assoc, flatMap_infos] at starts
  obtain ⟨h1, holding1, starts1, ran1⟩ := read_field (reads_u8 _) encoded.holding starts
  obtain ⟨h2, holding2, starts2, ran2⟩ := read_field (reads_u32 context) holding1 starts1
  obtain ⟨reader, looped⟩ := exec_collectWhile scans_infos wide_info holding2 starts2
  have task : PerformanceTaskId.fromU8 PerformanceTaskId.reportInfo.toU8 = some .reportInfo := rfl
  refine ⟨reader, ?_, ?_⟩
  · rw [readElements, ran1, ran2, exec_bind_ok _ looped]
    rfl
  · rw [handler, LobbyHandler.answer, LobbyHandler.readTask, ran1, PerformanceHandler.handleTask,
      task]
    dsimp only
    rw [PerformanceHandler.reportInfo, ran2, exec_bind_ok _ looped]
    rfl

theorem readWhole_reportPlayers {playlist : UInt32} {players : List UInt64}
    (encoded : (reportPlayers playlist players : ListRequest ω).Encoded padding s.reader) :
    (reportPlayers playlist players : ListRequest ω).ReadWhole session s := by
  have starts := encoded.starts
  simp only [fixed, elements, List.flatMap_cons, List.flatMap_nil, List.append_nil,
    List.append_assoc, flatMap_users] at starts
  obtain ⟨h1, holding1, starts1, ran1⟩ := read_field (reads_u8 _) encoded.holding starts
  obtain ⟨h2, holding2, starts2, ran2⟩ := read_field (reads_u32 playlist) holding1 starts1
  have players_eq : PerformanceHandler.playerBits = MessagingHandler.recipientBits := rfl
  obtain ⟨reader, looped⟩ :=
    exec_collectWhile scans_recipients (wide_scalar (by decide)) holding2 starts2
  rw [← players_eq] at looped
  have task : PerformanceTaskId.fromU8 PerformanceTaskId.reportPlayers.toU8
      = some .reportPlayers := rfl
  refine ⟨reader, ?_, ?_⟩
  · rw [readElements, ran1, ran2, exec_bind_ok _ looped]
    rfl
  · rw [handler, LobbyHandler.answer, LobbyHandler.readTask, ran1, PerformanceHandler.handleTask,
      task]
    dsimp only
    rw [PerformanceHandler.reportPlayers, ran2, exec_bind_ok _ looped]
    rfl

theorem readWhole_getInfo {service : RichPresenceService ω} {users : List UInt64}
    (encoded : (getInfo service users : ListRequest ω).Encoded padding s.reader) :
    (getInfo service users : ListRequest ω).ReadWhole session s := by
  have starts := encoded.starts
  simp only [fixed, elements, List.flatMap_cons, List.flatMap_nil, List.append_nil,
    flatMap_users] at starts
  obtain ⟨h1, holding1, starts1, ran1⟩ := read_field (reads_u8 _) encoded.holding starts
  obtain ⟨reader, looped⟩ := exec_collectWhile (scans_tolerant (by decide) (by decide))
    (wide_scalar (by decide)) holding1 starts1
  have task : RichPresenceTaskId.fromU8 RichPresenceTaskId.getInfo.toU8 = some .getInfo := rfl
  refine ⟨reader, ?_, ?_⟩
  · rw [readElements, ran1, nextIsU64, readU64, exec_bind_ok _ looped]
    rfl
  · rw [handler, LobbyHandler.answer, LobbyHandler.readTask, ran1, RichPresenceHandler.handleTask,
      task]
    dsimp only
    rw [RichPresenceHandler.getInfo, nextIsU64, readU64, exec_bind_ok _ looped]
    refine congrArg (fun run => exec run _) (bind_congr fun result => ?_)
    cases result <;> rfl

theorem readWhole_getCounterTotals {service : CounterService ω} {counterIds : List UInt32}
    (encoded : (getCounterTotals service counterIds : ListRequest ω).Encoded padding s.reader) :
    (getCounterTotals service counterIds : ListRequest ω).ReadWhole session s := by
  have starts := encoded.starts
  simp only [fixed, elements, List.flatMap_cons, List.flatMap_nil, List.append_nil,
    flatMap_counterIds] at starts
  obtain ⟨h1, holding1, starts1, ran1⟩ := read_field (reads_u8 _) encoded.holding starts
  obtain ⟨reader, looped⟩ := exec_collectWhile (scans_tolerant (by decide) (by decide))
    (wide_scalar (by decide)) holding1 starts1
  have task : CounterTaskId.fromU8 CounterTaskId.getCounterTotals.toU8
      = some .getCounterTotals := rfl
  refine ⟨reader, ?_, ?_⟩
  · rw [readElements, ran1, nextIsU32, readU32, exec_bind_ok _ looped]
    rfl
  · rw [handler, LobbyHandler.answer, LobbyHandler.readTask, ran1, CounterHandler.handleTask,
      task]
    dsimp only
    rw [CounterHandler.getCounterTotals, nextIsU32, readU32, exec_bind_ok _ looped]
    rfl

theorem readWhole_incrementCounters {service : CounterService ω}
    {increments : List CounterValueResult}
    (encoded : (incrementCounters service increments : ListRequest ω).Encoded padding s.reader) :
    (incrementCounters service increments : ListRequest ω).ReadWhole session s := by
  have starts := encoded.starts
  simp only [fixed, elements, List.flatMap_cons, List.flatMap_nil, List.append_nil,
    flatMap_increments] at starts
  obtain ⟨h1, holding1, starts1, ran1⟩ := read_field (reads_u8 _) encoded.holding starts
  obtain ⟨reader, looped⟩ := exec_collectOk scans_increments wide_counterValue holding1 starts1
  have task : CounterTaskId.fromU8 CounterTaskId.incrementCounters.toU8
      = some .incrementCounters := rfl
  refine ⟨reader, ?_, ?_⟩
  · rw [readElements, ran1, exec_bind_ok _ looped]
    rfl
  · rw [handler, LobbyHandler.answer, LobbyHandler.readTask, ran1, CounterHandler.handleTask,
      task]
    dsimp only
    rw [CounterHandler.incrementCounters, exec_bind_ok _ looped,
      CounterHandler.toIncrements_eq]
    rfl

end Reading

/--
The handler hands on exactly the list that was encoded, however many zero bits
follow it.
-/
theorem lists_read_whole (request : ListRequest ω) (session : BdSession) (h : Handling ω)
    (padding : Nat) (fits : ∀ value ∈ request.fixed, value.Fits)
    (encoded : request.Encoded padding h.reader) : request.ReadWhole session h := by
  cases request with
  | sendMessage router lead payload unrecovered recipients =>
    exact readWhole_sendMessage (fits (.blob payload) (by simp [fixed])) encoded
  | reportInfo context entries => exact readWhole_reportInfo encoded
  | reportPlayers playlist players => exact readWhole_reportPlayers encoded
  | getInfo service users => exact readWhole_getInfo encoded
  | getCounterTotals service counterIds => exact readWhole_getCounterTotals encoded
  | incrementCounters service increments => exact readWhole_incrementCounters encoded

-- it keeps what it is called with
def recorder : CounterService (List (List CounterIncrement)) :=
  { getCounterTotals := fun _ _ => pure []
    incrementCounters := fun _ increments => modify fun calls => calls ++ [increments] }

def increments : ListRequest (List (List CounterIncrement)) :=
  .incrementCounters recorder [⟨0, 5⟩, ⟨7, -2⟩]

-- the values, and a byte of zeros after the last bits
def incrementsMessage : Handling (List (List CounterIncrement)) :=
  { reader := { BdReader.new (pack ((increments.fixed ++ increments.elements).flatMap
      (Value.code .bitMode true)) ++ [0]) with mode := .bitMode, typeChecked := true }
    demanded := [], transactionIdCounter := 1, world := [] }

theorem lists_read_whole_increments :
    (exec (increments.handler.answer { id := 1, authentication := none, peerAddr := none })
      incrementsMessage).2.world = [[⟨7, -2⟩]] := by
  have encoded : increments.Encoded 15 incrementsMessage.reader := by
    refine ⟨⟨rfl, rfl, rfl, by decide, by decide, fun byte => by cases byte⟩, ?_⟩
    have whole : incrementsMessage.reader.bitOffset = 8 := rfl
    have last : ofBytes [0] = List.replicate 8 false := by decide
    rw [bits_whole whole, incrementsMessage, BdReader.new, ofBytes_append, ofBytes_pack,
      List.append_assoc, last, List.replicate_append_replicate]
    exact congrArg (fun n => _ ++ List.replicate n false) (by decide +kernel)
  obtain ⟨reader, _, answered⟩ := lists_read_whole increments
    { id := 1, authentication := none, peerAddr := none } incrementsMessage 15
    (by simp [increments, fixed, Value.Fits]) encoded
  rw [answered]
  rfl

end ListRequest

end BitDemon
