import BitDemon.Library.Frames
import BitDemon.Messaging.StreamMode

set_option autoImplicit false

/-!
# The calls of a reader

Only the tag of a value is looked for in the cache. What comes after the tag
depends neither on the cache nor on whether the reader is type checked.
-/

namespace BitDemon

open Machine

inductive TypedRead where
  | bool | i8 | u8 | i16 | u16 | i32 | u32 | i64 | u64 | f32 | f64 | str | blob
  | i8Array | u8Array | i16Array | u16Array | i32Array | u32Array | i64Array | u64Array
  | f32Array | f64Array | strArray
  deriving DecidableEq

namespace TypedRead

abbrev Out : TypedRead → Type
  | .bool => Bool
  | .i8 => Int8
  | .u8 => UInt8
  | .i16 => Int16
  | .u16 => UInt16
  | .i32 => Int32
  | .u32 => UInt32
  | .i64 => Int64
  | .u64 => UInt64
  | .f32 => UInt32
  | .f64 => UInt64
  | .str => String
  | .blob => List UInt8
  | .i8Array => List Int8
  | .u8Array => List UInt8
  | .i16Array => List Int16
  | .u16Array => List UInt16
  | .i32Array => List Int32
  | .u32Array => List UInt32
  | .i64Array => List Int64
  | .u64Array => List UInt64
  | .f32Array => List UInt32
  | .f64Array => List UInt64
  | .strArray => List String

open BdReader in
def read : (k : TypedRead) → ReadM k.Out
  | .bool => readBool
  | .i8 => readI8
  | .u8 => readU8
  | .i16 => readI16
  | .u16 => readU16
  | .i32 => readI32
  | .u32 => readU32
  | .i64 => readI64
  | .u64 => readU64
  | .f32 => readF32
  | .f64 => readF64
  | .str => readStr
  | .blob => readBlob
  | .i8Array => readI8Array
  | .u8Array => readU8Array
  | .i16Array => readI16Array
  | .u16Array => readU16Array
  | .i32Array => readI32Array
  | .u32Array => readU32Array
  | .i64Array => readI64Array
  | .u64Array => readU64Array
  | .f32Array => readF32Array
  | .f64Array => readF64Array
  | .strArray => readStrArray

end TypedRead

inductive NextIs where
  | bool | i8 | u8 | i16 | u16 | i32 | u32 | i64 | u64 | f32 | f64 | str | blob
  deriving DecidableEq

namespace NextIs

open BdReader in
def ask : NextIs → ReadM Bool
  | .bool => nextIsBool
  | .i8 => nextIsI8
  | .u8 => nextIsU8
  | .i16 => nextIsI16
  | .u16 => nextIsU16
  | .i32 => nextIsI32
  | .u32 => nextIsU32
  | .i64 => nextIsI64
  | .u64 => nextIsU64
  | .f32 => nextIsF32
  | .f64 => nextIsF64
  | .str => nextIsStr
  | .blob => nextIsBlob

def typed : NextIs → TypedRead
  | .bool => .bool
  | .i8 => .i8
  | .u8 => .u8
  | .i16 => .i16
  | .u16 => .u16
  | .i32 => .i32
  | .u32 => .u32
  | .i64 => .i64
  | .u64 => .u64
  | .f32 => .f32
  | .f64 => .f64
  | .str => .str
  | .blob => .blob

end NextIs

inductive ReaderCall where
  | typed (k : TypedRead)
  | nextIs (n : NextIs)
  | bits (buf : List UInt8) (count : Nat)
  | bytes (n : Nat)
  | typeCheckedBit
  | setMode (mode : StreamMode)
  | setTypeChecked (typeChecked : Bool)
  | remainingBytes
  | remainingBits

namespace ReaderCall

abbrev Out : ReaderCall → Type
  | .typed k => k.Out
  | .nextIs _ => Bool
  | .bits _ _ | .bytes _ => List UInt8
  | .typeCheckedBit | .setMode _ | .setTypeChecked _ => Unit
  | .remainingBytes | .remainingBits => Nat

open BdReader in
def run : (c : ReaderCall) → ReadM c.Out
  | .typed k => k.read
  | .nextIs n => n.ask
  | .bits buf count => readBits buf count
  | .bytes n => readBytes n
  | .typeCheckedBit => readTypeCheckedBit
  | .setMode mode => BdReader.setMode mode
  | .setTypeChecked typeChecked => BdReader.setTypeChecked typeChecked
  | .remainingBytes => BdReader.remainingBytes
  | .remainingBits => BdReader.remainingBits

/-- A call that fails leaves a reader behind as well. -/
def after (r : BdReader) (c : ReaderCall) : BdReader := (exec c.run r).2

end ReaderCall

namespace BdReader

structure Mark where
  hasDataTypeCached : Bool
  cachedDataType : BufferDataType
  typeChecked : Bool

def Mark.on (mark : Mark) (r : BdReader) : BdReader :=
  { r with
    hasDataTypeCached := mark.hasDataTypeCached
    cachedDataType := mark.cachedDataType
    typeChecked := mark.typeChecked }

abbrev Raw {α : Type} (m : ReadM α) : Prop := ∀ mark : Mark, Commutes mark.on m

section Raw

variable {α β : Type}

theorem raw_pure (a : α) : Raw (pure a : ReadM α) := fun _ => commutes_pure a

theorem raw_fail (e : BdError) : Raw (fail e : ReadM α) := fun _ => commutes_throw _

theorem raw_panicWith (p : Panic) : Raw (panicWith p : ReadM α) := fun _ => commutes_throw _

theorem raw_bind {m : ReadM α} {f : α → ReadM β} (first : Raw m) (next : ∀ a, Raw (f a)) :
    Raw (m >>= f) :=
  fun mark => commutes_bind (first mark) fun a => next a mark

theorem raw_get_bind {f : BdReader → ReadM β} (unseen : ∀ (mark : Mark) r, f (mark.on r) = f r)
    (next : ∀ r, Raw (f r)) : Raw (get >>= f) :=
  fun mark => commutes_get_bind (unseen mark) fun r => next r mark

theorem raw_ite {c : Prop} [Decidable c] {m n : ReadM α} (yes : Raw m) (no : Raw n) :
    Raw (if c then m else n) :=
  fun mark => commutes_ite (yes mark) (no mark)

theorem raw_ensure (condition : Bool) (e : BdError) : Raw (ensure condition e) :=
  raw_ite (raw_pure ()) (raw_fail e)

theorem raw_usizeSub (a b : Nat) : Raw (usizeSub a b) := raw_ite (raw_pure _) (raw_panicWith _)

theorem raw_u8Shl (value : UInt8) (amount : Nat) : Raw (u8Shl value amount) :=
  raw_ite (raw_pure _) (raw_panicWith _)

theorem raw_u8Shr (value : UInt8) (amount : Nat) : Raw (u8Shr value amount) :=
  raw_ite (raw_pure _) (raw_panicWith _)

theorem raw_index (buf : List UInt8) (i : Nat) : Raw (index buf i) := by
  rw [index]
  split
  · exact raw_pure _
  · exact raw_panicWith _

theorem raw_cursorReadExact (n : Nat) : Raw (cursorReadExact n) := by
  intro mark r
  by_cases enough : n ≤ r.cursor.length <;>
    simp [cursorReadExact, exec_bind, Mark.on, enough, fail]

theorem raw_cursorRead (n : Nat) : Raw (cursorRead n) := fun _ _ => rfl

theorem raw_cursorReadUntilZero : Raw cursorReadUntilZero := fun _ _ => rfl

theorem raw_cursorReadU8 : Raw cursorReadU8 :=
  raw_bind (raw_cursorReadExact 1) fun bytes => raw_index bytes 0

theorem raw_ensureMode (mode : StreamMode) : Raw (ensureMode mode) :=
  raw_get_bind (fun _ _ => rfl) fun _ => raw_ensure _ _

theorem raw_nextWindow (bitsLeft : Nat) : Raw (nextWindow bitsLeft) := by
  refine raw_get_bind (fun _ _ => rfl) fun r => raw_bind (raw_usizeSub 8 r.bitOffset) fun available => ?_
  refine raw_ite ?_ (raw_bind (raw_u8Shr _ _) fun _ => raw_pure _)
  refine raw_bind raw_cursorReadU8 fun inByte2 => ?_
  have combined (inByteShifted : UInt8) : Raw (do
      let above ← u8Shl inByte2 available
      modify fun r => { r with lastByte := inByte2 }
      pure (inByteShifted ||| above, 8)) :=
    raw_bind (raw_u8Shl _ _) fun _ =>
      raw_bind (fun _ => commutes_modify fun _ => rfl) fun _ => raw_pure _
  exact raw_ite (raw_bind (raw_u8Shr _ _) combined) (raw_bind (raw_pure 0) combined)

theorem raw_readBitsStep (bitsLeft : Nat) : Raw (readBitsStep bitsLeft) := by
  refine raw_bind (raw_nextWindow bitsLeft) fun (outByte, maxReadBits) => ?_
  refine raw_ite (raw_bind (raw_usizeSub _ _) fun _ => raw_pure _) ?_
  refine raw_bind (fun _ => commutes_modify fun _ => rfl) fun _ => ?_
  exact raw_bind (raw_u8Shr _ _) fun _ => raw_bind (raw_usizeSub _ _) fun _ => raw_pure _

theorem raw_store (buf : List UInt8) (destOffset : Nat) (outByte : UInt8) :
    Raw (store buf destOffset outByte) :=
  raw_ite (raw_pure _) (raw_panicWith _)

theorem raw_readBitsLoop (turns : Nat) :
    ∀ buf destOffset bitsLeft, Raw (readBitsLoop turns buf destOffset bitsLeft) := by
  induction turns with
  | zero =>
    intro buf destOffset bitsLeft
    exact raw_ite (raw_pure _) (raw_panicWith _)
  | succ turns ih =>
    intro buf destOffset bitsLeft
    refine raw_ite (raw_pure _) (raw_bind (raw_readBitsStep bitsLeft) fun (outByte, left) => ?_)
    exact raw_bind (raw_store buf destOffset outByte) fun buf => ih buf (destOffset + 1) left

theorem raw_readBits (buf : List UInt8) (count : Nat) : Raw (readBits buf count) :=
  raw_ite (raw_panicWith _) (raw_bind (raw_ensureMode _) fun _ => raw_readBitsLoop count buf 0 count)

theorem raw_readBytes (n : Nat) : Raw (readBytes n) :=
  raw_get_bind (fun _ _ => rfl) fun _ => raw_ite (raw_readBits _ _) (raw_bind (raw_cursorRead n)
    fun _ => raw_bind (raw_ensure _ _) fun _ => raw_pure _)

theorem raw_fromValue (value : UInt8) : Raw (BufferDataType.fromValue value) := by
  rw [BufferDataType.fromValue]
  split
  · exact raw_pure _
  · exact raw_fail _

theorem raw_fromUtf8 (bytes : List UInt8) : Raw (fromUtf8 bytes) := by
  rw [fromUtf8]
  split
  · exact raw_pure _
  · exact raw_fail _

theorem raw_readStrLoop (turns : Nat) : ∀ buf, Raw (readStrLoop turns buf) := by
  induction turns with
  | zero =>
    intro buf
    exact raw_panicWith _
  | succ turns ih =>
    intro buf
    refine raw_bind (raw_readBits [0] 8) fun bytes => raw_bind (raw_index bytes 0) fun _ => ?_
    exact raw_ite (raw_pure _) (ih _)

theorem raw_elementOf (c : Bits.LeCodec α) : Raw (elementOf c) :=
  raw_bind (raw_cursorReadExact _) fun _ => raw_pure _

theorem raw_strElement : Raw strElement :=
  raw_bind raw_cursorReadUntilZero fun _ => raw_fromUtf8 _

theorem raw_readEach {element : ReadM α} (each : Raw element) (n : Nat) :
    Raw (Wire.readEach element n) := by
  induction n with
  | zero => exact raw_pure _
  | succ n ih => exact raw_bind each fun _ => raw_bind ih fun _ => raw_pure _

theorem raw_remainingBytes : Raw remainingBytes :=
  raw_bind (raw_ensureMode _) fun _ => raw_get_bind (fun _ _ => rfl) fun _ => raw_pure _

theorem raw_remainingBits : Raw remainingBits :=
  raw_bind (raw_ensureMode _) fun _ => raw_get_bind (fun _ _ => rfl) fun _ =>
    raw_bind (raw_usizeSub _ _) fun _ => raw_pure _

end Raw

end BdReader

end BitDemon
