import BitDemon.Library.Runs
import BitDemon.Messaging.Graceful
import BitDemon.Messaging.ReaderCalls

set_option autoImplicit false

/-!
# Reading bits

A reader in bit mode stands somewhere in the bit list of its buffer. A read
takes the bits that follow if there are enough of them, and fails otherwise.
-/

namespace BitDemon

open Machine Bits Runs

namespace BdReader

inductive WholeRead where
  | typed (k : TypedRead)
  | nextIs (n : NextIs)
  | bytes (n : Nat)
  | setTypeChecked (typeChecked : Bool)

def WholeRead.call : WholeRead → ReaderCall
  | .typed k => .typed k
  | .nextIs n => .nextIs n
  | .bytes n => .bytes n
  | .setTypeChecked typeChecked => .setTypeChecked typeChecked

def Whole (buf : List UInt8) (r : BdReader) : Prop :=
  r.mode = .byteMode ∧ r.bitOffset = 8 ∧ r.cursor <:+ buf

abbrev StaysWhole {α : Type} (buf : List UInt8) (m : ReadM α) : Prop :=
  Keeps (Whole buf) (fun _ => True) m

section StaysWhole

variable {buf : List UInt8} {α : Type}

theorem whole_fail (e : BdError) : StaysWhole buf (fail e : ReadM α) := keeps_throw trivial

theorem whole_ensure (condition : Bool) (e : BdError) : StaysWhole buf (ensure condition e) :=
  keeps_ite (fun _ => keeps_pure ()) fun _ => whole_fail e

theorem whole_cursorReadExact (n : Nat) : StaysWhole buf (cursorReadExact n) := by
  refine keeps_get_bind fun r ⟨inMode, aligned, inside⟩ => keeps_ite (fun _ => ?_) fun _ => ?_
  · have dropped : Whole buf { r with cursor := r.cursor.drop n } :=
      ⟨inMode, aligned, (List.drop_suffix n _).trans inside⟩
    exact keeps_bind (keeps_set dropped) fun _ => keeps_pure _
  · have empty : Whole buf { r with cursor := [] } := ⟨inMode, aligned, List.nil_suffix⟩
    exact keeps_bind (keeps_set empty) fun _ => whole_fail _

theorem whole_cursorRead (n : Nat) : StaysWhole buf (cursorRead n) := by
  refine keeps_get_bind fun r ⟨inMode, aligned, inside⟩ => ?_
  have dropped : Whole buf { r with cursor := r.cursor.drop n } :=
    ⟨inMode, aligned, (List.drop_suffix n _).trans inside⟩
  exact keeps_bind (keeps_set dropped) fun _ => keeps_pure _

theorem whole_cursorReadUntilZero : StaysWhole buf cursorReadUntilZero := by
  refine keeps_get_bind fun r ⟨inMode, aligned, inside⟩ => ?_
  exact keeps_bind (keeps_set ⟨inMode, aligned, (List.drop_suffix _ _).trans inside⟩) fun _ =>
    keeps_pure _

theorem whole_cursorReadU8 : StaysWhole buf cursorReadU8 := by
  refine keeps_bind (whole_cursorReadExact 1) fun bytes => ?_
  rw [index]
  split
  · exact keeps_pure _
  · exact keeps_throw trivial

theorem whole_fromUtf8 (bytes : List UInt8) : StaysWhole buf (fromUtf8 bytes) := by
  rw [fromUtf8]
  split
  · exact keeps_pure _
  · exact whole_fail _

theorem whole_ifByte {bytes bits : ReadM α} (byByte : StaysWhole buf bytes) :
    StaysWhole buf (get >>= fun r => if r.mode = .byteMode then bytes else bits) := by
  refine keeps_get_bind fun r whole => ?_
  rw [if_pos whole.1]
  exact byByte

theorem whole_ifBit {bits bytes : ReadM α} (byByte : StaysWhole buf bytes) :
    StaysWhole buf (get >>= fun r => if r.mode = .bitMode then bits else bytes) := by
  refine keeps_get_bind fun r whole => ?_
  rw [if_neg (by simp [whole.1])]
  exact byByte

theorem whole_readDataType : StaysWhole buf readDataType := by
  refine keeps_get_bind fun r whole => keeps_ite (fun _ => ?_) fun _ => ?_
  · exact keeps_bind (keeps_set whole) fun _ => keeps_pure _
  · rw [if_pos (by simp [whole.1])]
    refine keeps_bind whole_cursorReadU8 fun value => ?_
    rw [BufferDataType.fromValue]
    split
    · exact keeps_pure _
    · exact whole_fail _

theorem whole_nextIs (expected : BdDataType) : StaysWhole buf (nextIs expected) := by
  refine keeps_bind (keeps_get_bind fun r _ => ?_) fun _ => keeps_pure _
  refine keeps_ite (fun _ => keeps_pure _) fun _ => keeps_ite (fun _ => keeps_pure _) fun _ => ?_
  exact keeps_bind whole_readDataType fun _ =>
    keeps_bind (keeps_modify fun _ whole => whole) fun _ => keeps_pure _

theorem whole_expectNonArray (expected : BdDataType) : StaysWhole buf (expectNonArray expected) :=
  keeps_bind whole_readDataType fun _ => whole_ensure _ _

theorem whole_readTypeTag (expected : BdDataType) : StaysWhole buf (readTypeTag expected) :=
  keeps_get_bind fun _ _ => keeps_ite (fun _ => whole_expectNonArray _) fun _ => keeps_pure _

theorem whole_readScalar (dataType : BdDataType) (c : LeCodec α) :
    StaysWhole buf (readScalar dataType c) :=
  keeps_bind (whole_readTypeTag _) fun _ => whole_ifByte
    (keeps_bind (whole_cursorReadExact _) fun _ => keeps_pure _)

theorem whole_readBool : StaysWhole buf readBool :=
  keeps_bind (whole_readTypeTag _) fun _ => whole_ifByte
    (keeps_bind whole_cursorReadU8 fun _ => keeps_pure _)

theorem whole_strElement : StaysWhole buf strElement :=
  keeps_bind whole_cursorReadUntilZero fun _ => whole_fromUtf8 _

theorem whole_readStr : StaysWhole buf readStr :=
  keeps_bind (whole_readTypeTag _) fun _ => keeps_get_bind fun r whole => by
    rw [if_neg (by simp [whole.1])]
    exact whole_strElement

theorem whole_readAll (n : Nat) : StaysWhole buf (do
    let bytes ← cursorRead n
    ensure (bytes.length == n) .unexpectedEndOfMessage
    pure bytes) :=
  keeps_bind (whole_cursorRead n) fun _ => keeps_bind (whole_ensure _ _) fun _ => keeps_pure _

theorem whole_readBytes (n : Nat) : StaysWhole buf (readBytes n) := whole_ifBit (whole_readAll n)

theorem whole_readBlob : StaysWhole buf readBlob :=
  keeps_bind (whole_readTypeTag _) fun _ => keeps_bind (whole_readScalar _ _) fun _ =>
    whole_ifBit (whole_readAll _)

theorem whole_readArrayNumElements : StaysWhole buf readArrayNumElements :=
  keeps_bind (whole_expectNonArray _) fun _ => keeps_bind (whole_cursorReadExact _) fun _ =>
    keeps_bind (whole_cursorReadExact _) fun _ => keeps_pure _

theorem whole_readEach {element : ReadM α} (each : StaysWhole buf element) (n : Nat) :
    StaysWhole buf (Wire.readEach element n) := by
  induction n with
  | zero => exact keeps_pure _
  | succ n ih => exact keeps_bind each fun _ => keeps_bind ih fun _ => keeps_pure _

theorem whole_readArray (dataType : BdDataType) {element : ReadM α}
    (each : StaysWhole buf element) : StaysWhole buf (readArray dataType element) := by
  have expected : StaysWhole buf (expectArray dataType) :=
    keeps_bind whole_readDataType fun _ => whole_ensure _ _
  refine keeps_bind (keeps_get_bind fun _ _ => whole_ensure _ _) fun _ => keeps_bind expected fun _ => ?_
  exact keeps_bind whole_readArrayNumElements fun n => whole_readEach each n

theorem whole_elementOf (c : LeCodec α) : StaysWhole buf (elementOf c) :=
  keeps_bind (whole_cursorReadExact _) fun _ => keeps_pure _

theorem whole_typed (k : TypedRead) : StaysWhole buf k.read := by
  cases k with
  | bool => exact whole_readBool
  | str => exact whole_readStr
  | blob => exact whole_readBlob
  | i8 | u8 | i16 | u16 | i32 | u32 | i64 | u64 | f32 | f64 => exact whole_readScalar _ _
  | strArray => exact whole_readArray _ whole_strElement
  | _ => exact whole_readArray _ (whole_elementOf _)

theorem whole_call (c : WholeRead) : StaysWhole buf c.call.run := by
  cases c with
  | typed k => exact whole_typed k
  | nextIs n => cases n <;> exact whole_nextIs _
  | bytes n => exact whole_readBytes n
  | setTypeChecked typeChecked => exact keeps_modify fun _ whole => whole

end StaysWhole

structure BitRead where
  buf : List UInt8
  count : Nat
  fits : count ≤ buf.length * 8

namespace BitRead

def read (call : BitRead) : ReadM (List UInt8) := readBits call.buf call.count

/-- The destination with the first bits of a stream, packed; the bytes after them are as before. -/
def filled (call : BitRead) (stream : List Bool) : List UInt8 :=
  pack (stream.take call.count) ++ call.buf.drop ((call.count + 7) / 8)

def after (r : BdReader) (call : BitRead) : BdReader := (exec call.read r).2

end BitRead

structure Stands (buf : List UInt8) (r : BdReader) : Prop where
  inMode : r.mode = .bitMode
  positive : 0 < r.bitOffset
  offset : r.bitOffset ≤ 8
  stream : r.bits <:+ ofBytes buf

theorem Whole.stands {buf : List UInt8} {r : BdReader} (whole : Whole buf r) :
    Stands buf { r with mode := .bitMode } := by
  obtain ⟨-, aligned, front, rest⟩ := whole
  have left : BdReader.bits { r with mode := .bitMode } = ofBytes r.cursor := bits_whole aligned
  refine ⟨rfl, by simp [aligned], by simp [aligned], ?_⟩
  rw [left, ← rest, ofBytes_append]
  exact List.suffix_append _ _

-- the cache does not matter to a read of bits
def uncached (r : BdReader) : BdReader := { r with hasDataTypeCached := false }

def mark (r : BdReader) : Mark := ⟨r.hasDataTypeCached, r.cachedDataType, r.typeChecked⟩

theorem exec_uncached {α : Type} {m : ReadM α} (raw : Raw m) (r : BdReader) :
    exec m r = ((exec m r.uncached).1, r.mark.on (exec m r.uncached).2) :=
  raw r.mark r.uncached

section Bits

variable {typeChecked : Bool} {buf : List UInt8} {r : BdReader}

theorem Stands.ready (stands : Stands buf r) : r.uncached.Ready .bitMode r.typeChecked :=
  ⟨stands.inMode, rfl, rfl, stands.positive, stands.offset, by simp⟩

theorem exec_readBitsLoop_short (turns : Nat) :
    ∀ (r : BdReader) (dest : List UInt8) (destOffset bitsLeft : Nat),
      r.Ready .bitMode typeChecked → bitsLeft ≤ turns → bitsLeft ≤ 8 * (dest.length - destOffset) →
      r.bits.length < bitsLeft →
      ∃ t k, exec (readBitsLoop turns dest destOffset bitsLeft) r
          = (.error (.error .unexpectedEof), t)
        ∧ t.Ready .bitMode typeChecked ∧ t.bits = r.bits.drop k := by
  induction turns with
  | zero =>
    intro r dest destOffset bitsLeft ready enough fits short
    omega
  | succ turns ih =>
    intro r dest destOffset bitsLeft ready enough fits short
    rw [readBitsLoop, if_neg (by omega)]
    by_cases long : 8 ≤ r.bits.length
    next =>
      have eight : (r.bits.take 8).length = min bitsLeft 8 := by simp; omega
      obtain ⟨middle, ran, fine, left⟩ := reads_readBitsStep (by omega) eight r (r.bits.drop 8) ready
        (List.take_append_drop 8 _).symm
      have stored : exec (store dest destOffset (packByte (r.bits.take 8))) middle
          = (.ok (dest.set destOffset (packByte (r.bits.take 8))), middle) := by
        rw [store, if_pos (by omega)]
        rfl
      obtain ⟨t, k, failed, fineAfter, leftAfter⟩ :=
        ih middle (dest.set destOffset (packByte (r.bits.take 8))) (destOffset + 1)
          (bitsLeft - min bitsLeft 8) fine (by omega) (by simp; omega) (by rw [left]; simp; omega)
      refine ⟨t, 8 + k, ?_, fineAfter, ?_⟩
      · rw [exec_bind_ok _ ran, exec_bind_ok _ stored, failed]
      · rw [leftAfter, left, List.drop_drop]
    next =>
      refine ⟨r, 0, ?_, ready, rfl⟩
      rw [exec_bind_error _ (exec_readBitsStep_short ready.offset (Nat.lt_of_not_le long) short)]

theorem exec_read (stands : Stands buf r) (call : BitRead) :
    ∃ t, Stands buf t ∧
      if call.count ≤ r.bits.length then
        exec call.read r = (.ok (call.filled r.bits), t) ∧ t.bits = r.bits.drop call.count
      else exec call.read r = (.error (.error .unexpectedEof), t) := by
  have ready := stands.ready
  have same : r.uncached.bits = r.bits := rfl
  by_cases enough : call.count ≤ r.bits.length
  next =>
    have length : (r.uncached.bits.take call.count).length = call.count := by simp [same, enough]
    have short : (r.uncached.bits.take call.count).length ≤ call.buf.length * 8 := by
      rw [length]
      exact call.fits
    obtain ⟨t, ran, fine, left⟩ :=
      reads_readBits short r.uncached (r.bits.drop call.count) ready (List.take_append_drop _ _).symm
    rw [length] at ran
    have suffix : r.bits.drop call.count <:+ ofBytes buf :=
      (List.drop_suffix _ _).trans stands.stream
    refine ⟨r.mark.on t, ⟨fine.inMode, fine.positive, fine.offset, left ▸ suffix⟩, ?_⟩
    rw [if_pos enough]
    refine ⟨?_, left⟩
    rw [BitRead.read, exec_uncached (raw_readBits _ _), ran]
    rfl
  next =>
    have fits := call.fits
    have inMode : exec (ensureMode .bitMode) r.uncached = (.ok (), r.uncached) := by
      simp [ensureMode, exec_bind, ready.inMode]
    obtain ⟨t, k, failed, fine, left⟩ :=
      exec_readBitsLoop_short call.count r.uncached call.buf 0 call.count ready (Nat.le_refl _)
        (by simp; omega) (Nat.lt_of_not_le enough)
    have suffix : r.bits.drop k <:+ ofBytes buf := (List.drop_suffix _ _).trans stands.stream
    refine ⟨r.mark.on t, ⟨fine.inMode, fine.positive, fine.offset, left ▸ suffix⟩, ?_⟩
    rw [if_neg enough, BitRead.read, exec_uncached (raw_readBits _ _), readBits,
      if_neg (Nat.not_lt.mpr fits), exec_bind_ok _ inMode, failed]

theorem read_ok_iff (stands : Stands buf r) (call : BitRead) {out : List UInt8} {t : BdReader} :
    exec call.read r = (.ok out, t)
      ↔ call.count ≤ r.bits.length ∧ out = call.filled r.bits ∧ t = call.after r := by
  obtain ⟨u, -, ran⟩ := exec_read stands call
  by_cases enough : call.count ≤ r.bits.length
  next =>
    rw [if_pos enough] at ran
    simp [BitRead.after, ran.1, enough, eq_comm]
  next =>
    rw [if_neg enough] at ran
    simp [ran, enough]

theorem stands_after (stands : Stands buf r) (call : BitRead) : Stands buf (call.after r) := by
  obtain ⟨t, standsAfter, ran⟩ := exec_read stands call
  have reached : call.after r = t := by
    rw [BitRead.after]
    split at ran
    next => rw [ran.1]
    next => rw [ran]
  rwa [reached]

theorem bits_after (stands : Stands buf r) {call : BitRead} (enough : call.count ≤ r.bits.length) :
    (call.after r).bits = r.bits.drop call.count := by
  obtain ⟨t, -, ran⟩ := exec_read stands call
  rw [if_pos enough] at ran
  rw [BitRead.after, ran.1, ran.2]

theorem Stands.remaining (stands : Stands buf r) :
    exec remainingBits r = (.ok r.bits.length, r) :=
  exec_remainingBits_of_le stands.inMode stands.offset

theorem Stands.bits_eq (stands : Stands buf r) :
    r.bits = (ofBytes buf).drop (8 * buf.length - r.bits.length) := by
  have whole := List.suffix_iff_eq_drop.mp stands.stream
  rwa [length_ofBytes] at whole

theorem take_filled (call : BitRead) {stream : List Bool} (enough : call.count ≤ stream.length) :
    (ofBytes (call.filled stream)).take call.count = stream.take call.count := by
  have length : (stream.take call.count).length = call.count := by simp [enough]
  rw [BitRead.filled, ofBytes_append, ofBytes_pack, List.append_assoc,
    List.take_append_of_le_length (by omega), List.take_take, Nat.min_self]

end Bits

def reached (buf : List UInt8) (front : List WholeRead) (calls : List BitRead) : BdReader :=
  run BitRead.after
    { run ReaderCall.after (new buf) (front.map WholeRead.call) with mode := .bitMode } calls

theorem stands_reached (buf : List UInt8) (front : List WholeRead) (calls : List BitRead) :
    Stands buf (reached buf front calls) := by
  have start : Whole buf (run ReaderCall.after (new buf) (front.map WholeRead.call)) := by
    have begin : Whole buf (new buf) := ⟨rfl, rfl, List.suffix_rfl⟩
    have step : ∀ r (c : WholeRead), Whole buf r → Whole buf (ReaderCall.after r c.call) :=
      fun r c whole => (whole_call c r whole).1
    simpa [run, List.foldl_map] using run_keeps step begin
  have each : ∀ r (call : BitRead), Stands buf r → Stands buf (call.after r) :=
    fun r call stands => stands_after stands call
  exact run_keeps each start.stands

structure Takes (buf : List UInt8) (r : BdReader) (n : Nat) (call : BitRead) : Prop where
  succeeds : (∃ out t, exec call.read r = (.ok out, t)) ↔ call.count ≤ n
  fills : ∀ out t, exec call.read r = (.ok out, t) →
    out = call.filled ((ofBytes buf).drop (8 * buf.length - n))
  lowers : ∀ out t, exec call.read r = (.ok out, t) →
    exec remainingBits t = (.ok (n - call.count), t)

/-- Two reads after each other give the bits of one, and leave as many. -/
def Splits (r : BdReader) (n : Nat) : Prop :=
  ∀ first second both : BitRead, both.count = first.count + second.count → both.count ≤ n →
    ∃ out t more u all v, exec first.read r = (.ok out, t) ∧ exec second.read t = (.ok more, u)
      ∧ exec both.read r = (.ok all, v)
      ∧ (ofBytes all).take both.count
        = (ofBytes out).take first.count ++ (ofBytes more).take second.count
      ∧ u.bits = v.bits

theorem takes {buf : List UInt8} {r : BdReader} (stands : Stands buf r) (call : BitRead) :
    Takes buf r r.bits.length call := by
  refine ⟨⟨?_, ?_⟩, ?_, ?_⟩
  · rintro ⟨out, t, ran⟩
    exact ((read_ok_iff stands call).mp ran).1
  · intro enough
    exact ⟨_, _, (read_ok_iff stands call).mpr ⟨enough, rfl, rfl⟩⟩
  · intro out t ran
    rw [← stands.bits_eq]
    exact ((read_ok_iff stands call).mp ran).2.1
  · intro out t ran
    obtain ⟨enough, -, rfl⟩ := (read_ok_iff stands call).mp ran
    rw [(stands_after stands call).remaining, bits_after stands enough, List.length_drop]

theorem splits {buf : List UInt8} {r : BdReader} (stands : Stands buf r) :
    Splits r r.bits.length := by
  intro first second both total enough
  have left : (first.after r).bits = r.bits.drop first.count := bits_after stands (by omega)
  have later : second.count ≤ (first.after r).bits.length := by
    rw [left, List.length_drop]
    omega
  have standsAfter := stands_after stands first
  refine ⟨_, _, _, _, _, _, (read_ok_iff stands first).mpr ⟨by omega, rfl, rfl⟩,
    (read_ok_iff standsAfter second).mpr ⟨later, rfl, rfl⟩,
    (read_ok_iff stands both).mpr ⟨enough, rfl, rfl⟩, ?_, ?_⟩
  · rw [take_filled both enough, take_filled first (by omega), take_filled second later, left, total,
      List.take_add]
  · rw [bits_after standsAfter later, left, bits_after stands enough, List.drop_drop, total]

/--
Wherever a reader has come to, `remaining_bits` says how far it is from the end
of its buffer, and the next read takes the bits from there.
-/
theorem readBits_cursor (buf : List UInt8) (front : List WholeRead) (calls : List BitRead) :
    ∃ n ≤ 8 * buf.length, 0 < (reached buf front calls).bitOffset
      ∧ (reached buf front calls).bitOffset ≤ 8
      ∧ exec remainingBits (reached buf front calls) = (.ok n, reached buf front calls)
      ∧ (∀ call, Takes buf (reached buf front calls) n call)
      ∧ Splits (reached buf front calls) n := by
  have stands := stands_reached buf front calls
  have bound : (reached buf front calls).bits.length ≤ 8 * buf.length := by
    simpa using stands.stream.length_le
  exact ⟨_, bound, stands.positive, stands.offset, stands.remaining, takes stands, splits stands⟩

end BdReader

end BitDemon
