import BitDemon.Messaging.Reader

set_option autoImplicit false

/-!
# Reads and the mode of the stream

Some reads demand a mode and fail in the other one. A read is safe in a mode
when it keeps the mode and never fails with such an error.
-/

namespace BitDemon

open Machine

-- the mode a failed read asked for in vain
def Fault.demandedMode : Fault → Option StreamMode
  | .error (.readerMode expectedMode _) => some expectedMode
  | _ => none

namespace BdReader

abbrev SafeIn {α : Type} (mode : StreamMode) (m : ReadM α) : Prop :=
  Keeps (fun r : BdReader => r.mode = mode) (fun fault => fault.demandedMode = none) m

section Safe

variable {mode : StreamMode} {α β : Type}

theorem safe_fail {e : BdError} (other : (Fault.error e).demandedMode = none) :
    SafeIn mode (fail e : ReadM α) := keeps_throw other

theorem safe_panicWith (p : Panic) : SafeIn mode (panicWith p : ReadM α) := keeps_throw rfl

theorem safe_ensure (condition : Bool) {e : BdError} (other : (Fault.error e).demandedMode = none) :
    SafeIn mode (ensure condition e) :=
  keeps_ite (fun _ => keeps_pure ()) fun _ => safe_fail other

theorem safe_okOr (value : Option α) {e : BdError} (other : (Fault.error e).demandedMode = none) :
    SafeIn mode (okOr value e) := by
  cases value with
  | none => exact safe_fail other
  | some a => exact keeps_pure a

theorem safe_usizeSub (a b : Nat) : SafeIn mode (usizeSub a b) :=
  keeps_ite (fun _ => keeps_pure _) fun _ => safe_panicWith _

theorem safe_u8Shl (value : UInt8) (amount : Nat) : SafeIn mode (u8Shl value amount) :=
  keeps_ite (fun _ => keeps_pure _) fun _ => safe_panicWith _

theorem safe_u8Shr (value : UInt8) (amount : Nat) : SafeIn mode (u8Shr value amount) :=
  keeps_ite (fun _ => keeps_pure _) fun _ => safe_panicWith _

theorem safe_index (buf : List UInt8) (i : Nat) : SafeIn mode (index buf i) := by
  rw [index]
  split
  · exact keeps_pure _
  · exact safe_panicWith _

theorem safe_cursorReadExact (n : Nat) : SafeIn mode (cursorReadExact n) := by
  refine keeps_get_bind fun r inMode => keeps_ite (fun _ => ?_) fun _ => ?_
  · exact keeps_bind (keeps_set inMode) fun _ => keeps_pure _
  · exact keeps_bind (keeps_set inMode) fun _ => safe_fail rfl

theorem safe_cursorRead (n : Nat) : SafeIn mode (cursorRead n) :=
  keeps_get_bind fun _ inMode => keeps_bind (keeps_set inMode) fun _ => keeps_pure _

theorem safe_cursorReadU8 : SafeIn mode cursorReadU8 :=
  keeps_bind (safe_cursorReadExact 1) fun bytes => safe_index bytes 0

theorem safe_cursorReadUntilZero : SafeIn mode cursorReadUntilZero :=
  keeps_get_bind fun _ inMode => keeps_bind (keeps_set inMode) fun _ => keeps_pure _

theorem safe_ensureMode : SafeIn mode (ensureMode mode) := by
  refine keeps_get_bind fun r inMode => ?_
  rw [inMode, beq_self_eq_true]
  exact keeps_pure ()

theorem safe_nextWindow (bitsLeft : Nat) : SafeIn mode (nextWindow bitsLeft) := by
  refine keeps_get_bind fun r _ => keeps_bind (safe_usizeSub 8 r.bitOffset) fun available => ?_
  refine keeps_ite (fun _ => ?_) fun _ => ?_
  · refine keeps_bind safe_cursorReadU8 fun inByte2 => ?_
    have combined (inByteShifted : UInt8) : SafeIn mode (do
        let above ← u8Shl inByte2 available
        modify fun r => { r with lastByte := inByte2 }
        pure (inByteShifted ||| above, 8)) :=
      keeps_bind (safe_u8Shl _ _) fun _ =>
        keeps_bind (keeps_modify fun _ inMode => inMode) fun _ => keeps_pure _
    exact keeps_ite (fun _ => keeps_bind (safe_u8Shr _ _) combined) fun _ =>
      keeps_bind (keeps_pure 0) combined
  · exact keeps_bind (safe_u8Shr _ _) fun _ => keeps_pure _

theorem safe_readBitsStep (bitsLeft : Nat) : SafeIn mode (readBitsStep bitsLeft) := by
  refine keeps_bind (safe_nextWindow bitsLeft) fun (outByte, maxReadBits) => ?_
  refine keeps_ite (fun _ => ?_) fun _ => ?_
  · exact keeps_bind (safe_usizeSub _ _) fun _ => keeps_pure _
  · refine keeps_bind (keeps_modify fun _ inMode => inMode) fun _ => ?_
    exact keeps_bind (safe_u8Shr _ _) fun _ => keeps_bind (safe_usizeSub _ _) fun _ => keeps_pure _

theorem safe_store (buf : List UInt8) (destOffset : Nat) (outByte : UInt8) :
    SafeIn mode (store buf destOffset outByte) :=
  keeps_ite (fun _ => keeps_pure _) fun _ => safe_panicWith _

theorem safe_readBitsLoop (turns : Nat) :
    ∀ buf destOffset bitsLeft, SafeIn mode (readBitsLoop turns buf destOffset bitsLeft) := by
  induction turns with
  | zero =>
    intro buf destOffset bitsLeft
    exact keeps_ite (fun _ => keeps_pure _) fun _ => safe_panicWith _
  | succ turns ih =>
    intro buf destOffset bitsLeft
    refine keeps_ite (fun _ => keeps_pure _) fun _ => ?_
    exact keeps_bind (safe_readBitsStep bitsLeft) fun (outByte, left) =>
      keeps_bind (safe_store buf destOffset outByte) fun buf => ih buf (destOffset + 1) left

theorem safe_readBits (buf : List UInt8) (count : Nat) : SafeIn .bitMode (readBits buf count) :=
  keeps_ite (fun _ => safe_panicWith _) fun _ =>
    keeps_bind safe_ensureMode fun _ => safe_readBitsLoop count buf 0 count

theorem safe_readTypeCheckedBit : SafeIn .bitMode readTypeCheckedBit := by
  refine keeps_bind safe_ensureMode fun _ => keeps_bind (safe_readBits [0] 1) fun buf => ?_
  exact keeps_bind (safe_index buf 0) fun _ => keeps_modify fun _ inMode => inMode

theorem safe_fromValue (value : UInt8) : SafeIn mode (BufferDataType.fromValue value) := by
  rw [BufferDataType.fromValue]
  split
  · exact keeps_pure _
  · exact safe_fail rfl

theorem safe_ifByte {bytes bits : ReadM α} (byByte : SafeIn .byteMode bytes)
    (byBit : SafeIn .bitMode bits) :
    SafeIn mode (get >>= fun r => if r.mode = .byteMode then bytes else bits) := by
  refine keeps_get_bind fun r inMode => ?_
  rw [inMode]
  cases mode with
  | byteMode => exact byByte
  | bitMode => exact byBit

theorem safe_ifBit {bits bytes : ReadM α} (byBit : SafeIn .bitMode bits)
    (byByte : SafeIn .byteMode bytes) :
    SafeIn mode (get >>= fun r => if r.mode = .bitMode then bits else bytes) := by
  refine keeps_get_bind fun r inMode => ?_
  rw [inMode]
  cases mode with
  | byteMode => exact byByte
  | bitMode => exact byBit

theorem safe_readBytes (n : Nat) : SafeIn mode (BdReader.readBytes n) :=
  safe_ifBit (safe_readBits _ _) (keeps_bind (safe_cursorRead n) fun _ =>
    keeps_bind (safe_ensure _ rfl) fun _ => keeps_pure _)

theorem safe_readDataType : SafeIn mode readDataType := by
  refine keeps_get_bind fun r inMode => keeps_ite (fun _ => ?_) fun _ => ?_
  · exact keeps_bind (keeps_set inMode) fun _ => keeps_pure _
  · rw [inMode]
    cases mode with
    | byteMode => exact keeps_bind safe_cursorReadU8 fun _ => safe_fromValue _
    | bitMode =>
      exact keeps_bind (safe_readBits [0] 5) fun buf =>
        keeps_bind (safe_index buf 0) fun _ => safe_fromValue _

theorem safe_nextDataType : SafeIn mode nextDataType := by
  refine keeps_get_bind fun r _ => keeps_ite (fun _ => keeps_pure _) fun _ => ?_
  refine keeps_ite (fun _ => keeps_pure _) fun _ => keeps_bind safe_readDataType fun _ => ?_
  exact keeps_bind (keeps_modify fun _ inMode => inMode) fun _ => keeps_pure _

theorem safe_nextIs (expected : BdDataType) : SafeIn mode (nextIs expected) :=
  keeps_bind safe_nextDataType fun _ => keeps_pure _

theorem safe_remainingBytes : SafeIn .byteMode remainingBytes :=
  keeps_bind safe_ensureMode fun _ => keeps_get_bind fun _ _ => keeps_pure _

theorem safe_remainingBits : SafeIn .bitMode remainingBits :=
  keeps_bind safe_ensureMode fun _ => keeps_get_bind fun _ _ =>
    keeps_bind (safe_usizeSub _ _) fun _ => keeps_pure _

theorem safe_readTypeTag (expected : BdDataType) : SafeIn mode (readTypeTag expected) := by
  refine keeps_get_bind fun r _ => keeps_ite (fun _ => ?_) fun _ => keeps_pure ()
  exact keeps_bind safe_readDataType fun _ => safe_ensure _ rfl

theorem safe_readScalar (dataType : BdDataType) (c : Bits.LeCodec α) :
    SafeIn mode (readScalar dataType c) :=
  keeps_bind (safe_readTypeTag dataType) fun _ =>
    safe_ifByte (keeps_bind (safe_cursorReadExact _) fun _ => keeps_pure _)
      (keeps_bind (safe_readBits _ _) fun _ => keeps_pure _)

theorem safe_readBool : SafeIn mode readBool :=
  keeps_bind (safe_readTypeTag _) fun _ =>
    safe_ifByte (keeps_bind safe_cursorReadU8 fun _ => keeps_pure _)
      (keeps_bind (safe_readBits _ _) fun buf => keeps_bind (safe_index buf 0) fun _ => keeps_pure _)

theorem safe_fromUtf8 (bytes : List UInt8) : SafeIn mode (fromUtf8 bytes) := by
  rw [fromUtf8]
  split
  · exact keeps_pure _
  · exact safe_fail rfl

theorem safe_readStrLoop (turns : Nat) : ∀ buf, SafeIn .bitMode (readStrLoop turns buf) := by
  induction turns with
  | zero =>
    intro buf
    exact safe_panicWith _
  | succ turns ih =>
    intro buf
    refine keeps_bind (safe_readBits [0] 8) fun bytes => keeps_bind (safe_index bytes 0) fun _ => ?_
    exact keeps_ite (fun _ => keeps_pure _) fun _ => ih _

theorem safe_readStr : SafeIn mode readStr := by
  refine keeps_bind (safe_readTypeTag _) fun _ => keeps_get_bind fun r inMode => ?_
  rw [inMode]
  cases mode with
  | byteMode => exact keeps_bind safe_cursorReadUntilZero fun _ => safe_fromUtf8 _
  | bitMode => exact keeps_bind (safe_readStrLoop _ []) fun _ => safe_fromUtf8 _

theorem safe_readBlob : SafeIn mode readBlob := by
  refine keeps_bind (safe_readTypeTag _) fun _ => keeps_bind (safe_readScalar _ _) fun _ => ?_
  exact safe_ifBit (safe_readBits _ _) (keeps_bind (safe_cursorRead _) fun _ =>
    keeps_bind (safe_ensure _ rfl) fun _ => keeps_pure _)

theorem safe_readU8 : SafeIn mode readU8 := safe_readScalar _ _
theorem safe_readU16 : SafeIn mode readU16 := safe_readScalar _ _
theorem safe_readU32 : SafeIn mode readU32 := safe_readScalar _ _
theorem safe_readU64 : SafeIn mode readU64 := safe_readScalar _ _
theorem safe_readI32 : SafeIn mode readI32 := safe_readScalar _ _
theorem safe_readI64 : SafeIn mode readI64 := safe_readScalar _ _

theorem safe_setTypeChecked (typeChecked : Bool) : SafeIn mode (setTypeChecked typeChecked) :=
  keeps_modify fun _ inMode => inMode

theorem exec_ensureMode_refused {r : BdReader} (inMode : r.mode = .bitMode) :
    exec (ensureMode .byteMode) r = (.error (.error (.readerMode .byteMode .bitMode)), r) := by
  rw [ensureMode, exec_bind_ok _ (exec_get r), inMode]
  rfl

theorem exec_readArray_refused (dataType : BdDataType) (element : ReadM α) {r : BdReader}
    (inMode : r.mode = .bitMode) :
    exec (readArray dataType element) r
      = (.error (.error (.readerMode .byteMode .bitMode)), r) := by
  rw [readArray, exec_bind_error _ (exec_ensureMode_refused inMode)]

theorem exec_remainingBytes_refused {r : BdReader} (inMode : r.mode = .bitMode) :
    exec remainingBytes r = (.error (.error (.readerMode .byteMode .bitMode)), r) := by
  rw [remainingBytes, exec_bind_error _ (exec_ensureMode_refused inMode)]

end Safe

end BdReader

end BitDemon
