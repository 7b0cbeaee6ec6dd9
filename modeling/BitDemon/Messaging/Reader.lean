import BitDemon.Library.Utf8
import BitDemon.Library.Wire
import BitDemon.Messaging.Buffer

set_option autoImplicit false

/-!
# The bdBuffer reader

A read in bit mode looks at `lastByte` from `bitOffset` on and fetches the next
byte when that is not enough. Arrays and byte-mode values come from the cursor
directly.
-/

namespace BitDemon

open Machine Bits

structure BdReader where
  /-- What the cursor has not read yet. -/
  cursor : List UInt8
  bitOffset : Nat
  lastByte : UInt8
  hasDataTypeCached : Bool
  cachedDataType : BufferDataType
  mode : StreamMode
  typeChecked : Bool
  deriving DecidableEq

abbrev ReadM (α : Type) := Fallible BdReader α

namespace BdReader

def new (buf : List UInt8) : BdReader :=
  { cursor := buf
    bitOffset := 8
    lastByte := 0
    hasDataTypeCached := false
    cachedDataType := .noArray .noType
    mode := .byteMode
    typeChecked := false }

def setMode (mode : StreamMode) : ReadM Unit := modify fun r => { r with mode := mode }

def setTypeChecked (typeChecked : Bool) : ReadM Unit :=
  modify fun r => { r with typeChecked := typeChecked }

/-- `cursor.read_exact`: a cursor that holds too little is left at its end. -/
def cursorReadExact (n : Nat) : ReadM (List UInt8) := do
  let r ← get
  if n ≤ r.cursor.length then do
    set { r with cursor := r.cursor.drop n }
    pure (r.cursor.take n)
  else do
    set { r with cursor := [] }
    fail .unexpectedEof

/-- `cursor.read`: as much as there is. -/
def cursorRead (n : Nat) : ReadM (List UInt8) := do
  let r ← get
  set { r with cursor := r.cursor.drop n }
  pure (r.cursor.take n)

def cursorReadU8 : ReadM UInt8 := do
  let bytes ← cursorReadExact 1
  index bytes 0

/-- `cursor.read_until(0)`: up to the first zero byte and including it. -/
def cursorReadUntilZero : ReadM (List UInt8) := do
  let r ← get
  let before := r.cursor.takeWhile (· ≠ 0)
  let taken := r.cursor.take (before.length + 1)
  set { r with cursor := r.cursor.drop (before.length + 1) }
  pure taken

def ensureMode (expectedMode : StreamMode) : ReadM Unit := do
  let r ← get
  ensure (r.mode == expectedMode) (.readerMode expectedMode r.mode)

/-- The next byte of the window over `lastByte` and, if that is too short, the byte after it. -/
def nextWindow (bitsLeft : Nat) : ReadM (UInt8 × Nat) := do
  let r ← get
  let inByte := r.lastByte
  let available ← usizeSub 8 r.bitOffset
  if available < bitsLeft then do
    let inByte2 ← cursorReadU8
    let inByteShifted ← if r.bitOffset < 8 then u8Shr inByte r.bitOffset else pure 0
    let above ← u8Shl inByte2 available
    modify fun r => { r with lastByte := inByte2 }
    pure (inByteShifted ||| above, 8)
  else do
    let outByte ← u8Shr inByte r.bitOffset
    pure (outByte, available)

def readBitsStep (bitsLeft : Nat) : ReadM (UInt8 × Nat) := do
  let (outByte, maxReadBits) ← nextWindow bitsLeft
  if 8 ≤ bitsLeft then do
    let left ← usizeSub bitsLeft maxReadBits
    pure (outByte, left)
  else do
    let readBits := min bitsLeft maxReadBits
    modify fun r =>
      { r with
        bitOffset :=
          if 8 < r.bitOffset + readBits then r.bitOffset + readBits - 8
          else r.bitOffset + readBits }
    let mask ← u8Shr 0xFF (8 - readBits)
    let left ← usizeSub bitsLeft readBits
    pure (outByte &&& mask, left)

def store (buf : List UInt8) (destOffset : Nat) (outByte : UInt8) : ReadM (List UInt8) :=
  if destOffset < buf.length then pure (buf.set destOffset outByte)
  else panicWith .indexOutOfBounds

/-- The loop of `read_bits`, at most `turns` times round. -/
def readBitsLoop : Nat → List UInt8 → Nat → Nat → ReadM (List UInt8)
  | 0, buf, _, bitsLeft => if bitsLeft = 0 then pure buf else panicWith .loopDoesNotEnd
  | turns + 1, buf, destOffset, bitsLeft =>
    if bitsLeft = 0 then
      pure buf
    else do
      let (outByte, left) ← readBitsStep bitsLeft
      let buf ← store buf destOffset outByte
      readBitsLoop turns buf (destOffset + 1) left

def readBits (buf : List UInt8) (count : Nat) : ReadM (List UInt8) :=
  if buf.length * 8 < count then
    panicWith .bufferDoesNotFit
  else do
    ensureMode .bitMode
    readBitsLoop count buf 0 count

def zeros (n : Nat) : List UInt8 := List.replicate n 0

def readBytes (n : Nat) : ReadM (List UInt8) := do
  let r ← get
  if r.mode = .bitMode then
    readBits (zeros n) (n * 8)
  else do
    let bytes ← cursorRead n
    ensure (bytes.length == n) .unexpectedEndOfMessage
    pure bytes

def readTypeCheckedBit : ReadM Unit := do
  ensureMode .bitMode
  let buf ← readBits [0] 1
  let bit ← index buf 0
  modify fun r => { r with typeChecked := decide (0 < bit) }

def readDataType : ReadM BufferDataType := do
  let r ← get
  if r.hasDataTypeCached then do
    set { r with hasDataTypeCached := false }
    pure r.cachedDataType
  else if r.mode ≠ .bitMode then do
    let value ← cursorReadU8
    BufferDataType.fromValue value
  else do
    let buf ← readBits [0] 5
    let value ← index buf 0
    BufferDataType.fromValue value

def nextDataType : ReadM BufferDataType := do
  let r ← get
  if !r.typeChecked then
    pure (.noArray .noType)
  else if r.hasDataTypeCached then
    pure r.cachedDataType
  else do
    let dataType ← readDataType
    modify fun r => { r with cachedDataType := dataType, hasDataTypeCached := true }
    pure dataType

def nextIs (expected : BdDataType) : ReadM Bool := do
  let dataType ← nextDataType
  pure (dataType.eqNonArray expected)

def nextIsBool : ReadM Bool := nextIs .boolType
def nextIsI8 : ReadM Bool := nextIs .signedChar8Type
def nextIsU8 : ReadM Bool := nextIs .unsignedChar8Type
def nextIsI16 : ReadM Bool := nextIs .signedInteger16Type
def nextIsU16 : ReadM Bool := nextIs .unsignedInteger16Type
def nextIsI32 : ReadM Bool := nextIs .signedInteger32Type
def nextIsU32 : ReadM Bool := nextIs .unsignedInteger32Type
def nextIsI64 : ReadM Bool := nextIs .signedInteger64Type
def nextIsU64 : ReadM Bool := nextIs .unsignedInteger64Type
def nextIsF32 : ReadM Bool := nextIs .float32Type
def nextIsF64 : ReadM Bool := nextIs .float64Type
def nextIsStr : ReadM Bool := nextIs .signedChar8StringType
def nextIsBlob : ReadM Bool := nextIs .blobType

def remainingBytes : ReadM Nat := do
  ensureMode .byteMode
  let r ← get
  pure r.cursor.length

def remainingBits : ReadM Nat := do
  ensureMode .bitMode
  let r ← get
  let rest ← usizeSub 8 r.bitOffset
  pure (r.cursor.length * 8 + rest)

/-- A tag that is not the expected one is an error. -/
def expectNonArray (expected : BdDataType) : ReadM Unit := do
  let actualType ← readDataType
  ensure (actualType.eqNonArray expected) (.unexpectedDataType (.noArray expected) actualType)

def expectArray (expected : BdDataType) : ReadM Unit := do
  let actualType ← readDataType
  ensure (actualType.eqArray expected) (.unexpectedDataType (.array expected) actualType)

def readArrayNumElements : ReadM Nat := do
  -- always type checked
  expectNonArray .unsignedInteger32Type
  -- total size: clients ignore it
  let _totalSize ← cursorReadExact LeCodec.u32.size
  -- the count itself is never type checked
  let numElements ← cursorReadExact LeCodec.u32.size
  pure (LeCodec.u32.fromLeBytes numElements).toNat

def readTypeTag (expected : BdDataType) : ReadM Unit := do
  let r ← get
  if r.typeChecked then expectNonArray expected else pure ()

/-- The readers of whole-byte scalars differ in tag and number format only. -/
def readScalar {α : Type} (dataType : BdDataType) (c : LeCodec α) : ReadM α := do
  readTypeTag dataType
  let r ← get
  if r.mode = .byteMode then do
    let bytes ← cursorReadExact c.size
    pure (c.fromLeBytes bytes)
  else do
    let bytes ← readBits (zeros c.size) (c.size * 8)
    pure (c.fromLeBytes bytes)

def readBool : ReadM Bool := do
  readTypeTag .boolType
  let r ← get
  if r.mode = .byteMode then do
    let byte ← cursorReadU8
    pure (decide (0 < byte))
  else do
    let buf ← readBits [0] 1
    let byte ← index buf 0
    pure (decide (0 < byte))

def readI8 : ReadM Int8 := readScalar .signedChar8Type .i8
def readU8 : ReadM UInt8 := readScalar .unsignedChar8Type .u8
def readI16 : ReadM Int16 := readScalar .signedInteger16Type .i16
def readU16 : ReadM UInt16 := readScalar .unsignedInteger16Type .u16
def readI32 : ReadM Int32 := readScalar .signedInteger32Type .i32
def readU32 : ReadM UInt32 := readScalar .unsignedInteger32Type .u32
def readI64 : ReadM Int64 := readScalar .signedInteger64Type .i64
def readU64 : ReadM UInt64 := readScalar .unsignedInteger64Type .u64
def readF32 : ReadM UInt32 := readScalar .float32Type .u32
def readF64 : ReadM UInt64 := readScalar .float64Type .u64

/-- `String::from_utf8`. -/
def fromUtf8 (bytes : List UInt8) : ReadM String :=
  match Utf8.decode? bytes with
  | some value => pure value
  | none => fail .invalidUtf8

/-- The loop of `read_str` in bit mode, at most `turns` times round. -/
def readStrLoop : Nat → List UInt8 → ReadM (List UInt8)
  | 0, _ => panicWith .loopDoesNotEnd
  | turns + 1, buf => do
    let bytes ← readBits [0] 8
    let byte ← index bytes 0
    if byte = 0 then pure buf else readStrLoop turns (buf ++ [byte])

def dropZero (buf : List UInt8) : List UInt8 := buf.dropLast

def readStr : ReadM String := do
  readTypeTag .signedChar8StringType
  let r ← get
  if r.mode = .bitMode then do
    -- every turn but the last consumes eight of the bits that are left
    let buf ← readStrLoop (r.cursor.length + 2) []
    fromUtf8 buf
  else do
    let buf ← cursorReadUntilZero
    fromUtf8 (dropZero buf)

/-- The array readers differ in tag and in how one element is taken from the cursor. -/
def readArray {α : Type} (dataType : BdDataType) (element : ReadM α) : ReadM (List α) := do
  ensureMode .byteMode
  -- arrays are always type checked
  expectArray dataType
  let numElements ← readArrayNumElements
  Wire.readEach element numElements

def elementOf {α : Type} (c : LeCodec α) : ReadM α := do
  let bytes ← cursorReadExact c.size
  pure (c.fromLeBytes bytes)

def strElement : ReadM String := do
  let buf ← cursorReadUntilZero
  fromUtf8 (dropZero buf)

def readI8Array : ReadM (List Int8) := readArray .signedChar8Type (elementOf .i8)
def readU8Array : ReadM (List UInt8) := readArray .unsignedChar8Type (elementOf .u8)
def readI16Array : ReadM (List Int16) := readArray .signedInteger16Type (elementOf .i16)
def readU16Array : ReadM (List UInt16) := readArray .unsignedInteger16Type (elementOf .u16)
def readI32Array : ReadM (List Int32) := readArray .signedInteger32Type (elementOf .i32)
def readU32Array : ReadM (List UInt32) := readArray .unsignedInteger32Type (elementOf .u32)
def readI64Array : ReadM (List Int64) := readArray .signedInteger64Type (elementOf .i64)
def readU64Array : ReadM (List UInt64) := readArray .unsignedInteger64Type (elementOf .u64)
def readF32Array : ReadM (List UInt32) := readArray .float32Type (elementOf .u32)
def readF64Array : ReadM (List UInt64) := readArray .float64Type (elementOf .u64)
def readStrArray : ReadM (List String) := readArray .signedChar8StringType strElement

def readBlob : ReadM (List UInt8) := do
  readTypeTag .blobType
  let blobSize ← readU32
  let r ← get
  if r.mode = .bitMode then
    readBits (zeros blobSize.toNat) (blobSize.toNat * 8)
  else do
    let blob ← cursorRead blobSize.toNat
    ensure (blob.length == blobSize.toNat) .unexpectedEndOfMessage
    pure blob

/-- What is left of `lastByte` and all bytes after it. -/
def bits (r : BdReader) : List Bool := (ofByte r.lastByte).drop r.bitOffset ++ ofBytes r.cursor

/-- What every read leaves: in byte mode nothing is left of `lastByte`. -/
structure Ready (mode : StreamMode) (typeChecked : Bool) (r : BdReader) : Prop where
  inMode : r.mode = mode
  checked : r.typeChecked = typeChecked
  uncached : r.hasDataTypeCached = false
  positive : 0 < r.bitOffset
  offset : r.bitOffset ≤ 8
  aligned : mode = .byteMode → r.bitOffset = 8

abbrev Reads {α : Type} (mode : StreamMode) (typeChecked : Bool) (m : ReadM α)
    (code : List Bool) (a : α) : Prop :=
  Wire.Accepts (Ready mode typeChecked) bits m code a

theorem bits_whole {r : BdReader} (whole : r.bitOffset = 8) : r.bits = ofBytes r.cursor := by
  rw [bits, whole, List.drop_of_length_le (by simp), List.nil_append]

theorem exec_remainingBits_of_le {r : BdReader} (inMode : r.mode = .bitMode)
    (offset : r.bitOffset ≤ 8) : exec remainingBits r = (.ok r.bits.length, r) := by
  have total : r.bits.length = r.cursor.length * 8 + (8 - r.bitOffset) := by
    simp [bits]
    omega
  rw [total]
  simp [remainingBits, ensureMode, exec_bind, inMode, usizeSub_of_le offset]

theorem exec_cursorReadExact {r : BdReader} {n : Nat} (enough : n ≤ r.cursor.length) :
    exec (cursorReadExact n) r = (.ok (r.cursor.take n), { r with cursor := r.cursor.drop n }) := by
  simp only [cursorReadExact, exec_bind, exec_get, if_pos enough, exec_set, exec_pure]

theorem exec_cursorReadU8 {r : BdReader} {b : UInt8} {rest : List UInt8}
    (holds : r.cursor = b :: rest) :
    exec cursorReadU8 r = (.ok b, { r with cursor := rest }) := by
  rw [cursorReadU8, exec_bind_ok _ (exec_cursorReadExact (by simp [holds]))]
  rw [holds]
  rfl

theorem exec_cursorReadU8_empty {r : BdReader} (empty : r.cursor = []) :
    exec cursorReadU8 r = (.error (.error .unexpectedEof), r) := by
  have unchanged : { r with cursor := [] } = r := by rw [← empty]
  have short : exec (cursorReadExact 1) r
      = (.error (.error .unexpectedEof), { r with cursor := [] }) := by
    rw [cursorReadExact, exec_bind_ok _ (exec_get r), if_neg (by simp [empty])]
    rfl
  rw [cursorReadU8, exec_bind_error _ short, unchanged]

theorem exec_nextWindow_fetch {r : BdReader} (bitsLeft : Nat) {inByte2 : UInt8}
    {rest : List UInt8} (positive : 0 < r.bitOffset) (offset : r.bitOffset ≤ 8)
    (short : 8 - r.bitOffset < bitsLeft) (holds : r.cursor = inByte2 :: rest) :
    ∃ outByte, exec (nextWindow bitsLeft) r
        = (.ok (outByte, 8), { r with cursor := rest, lastByte := inByte2 })
      ∧ ofByte outByte = (ofByte r.lastByte).drop r.bitOffset ++ (ofByte inByte2).take r.bitOffset := by
  have shift : 8 - r.bitOffset < 8 := by omega
  have back : 8 - (8 - r.bitOffset) = r.bitOffset := by omega
  by_cases partly : r.bitOffset < 8
  · refine ⟨⟨r.lastByte.toBitVec >>> r.bitOffset⟩ ||| ⟨inByte2.toBitVec <<< (8 - r.bitOffset)⟩, ?_, ?_⟩
    · simp only [nextWindow, exec_bind, exec_get, usizeSub_of_le offset, exec_pure, if_pos short,
        exec_cursorReadU8 holds, if_pos partly, u8Shr_of_lt partly, u8Shl_of_lt shift, exec_modify]
    · rw [ofByte_or_shl (below_shr _ _) (by omega), ofByte_shr, back,
        List.take_left' (by simp)]
  · have whole : r.bitOffset = 8 := by omega
    refine ⟨inByte2, ?_, ?_⟩
    · have same : (0 ||| ⟨inByte2.toBitVec <<< (8 - r.bitOffset)⟩ : UInt8) = inByte2 := by
        simp [whole]
      simp only [nextWindow, exec_bind, exec_get, usizeSub_of_le offset, exec_pure, if_pos short,
        exec_cursorReadU8 holds, if_neg partly, u8Shl_of_lt shift, exec_modify, same]
    · rw [whole, List.drop_of_length_le (by simp), List.take_of_length_le (by simp), List.nil_append]

theorem exec_nextWindow_inside {r : BdReader} {bitsLeft : Nat} (some : 0 < bitsLeft)
    (long : bitsLeft ≤ 8 - r.bitOffset) :
    exec (nextWindow bitsLeft) r
      = (.ok (⟨r.lastByte.toBitVec >>> r.bitOffset⟩, 8 - r.bitOffset), r) := by
  have offset : r.bitOffset < 8 := by omega
  simp only [nextWindow, exec_bind, exec_get, usizeSub_of_le (Nat.le_of_lt offset), exec_pure,
    if_neg (Nat.not_lt.mpr long), u8Shr_of_lt offset]

theorem exec_nextWindow_empty {r : BdReader} {bitsLeft : Nat} (offset : r.bitOffset ≤ 8)
    (short : 8 - r.bitOffset < bitsLeft) (empty : r.cursor = []) :
    exec (nextWindow bitsLeft) r = (.error (.error .unexpectedEof), r) := by
  rw [nextWindow, exec_bind_ok _ (exec_get r), usizeSub_of_le offset, pure_bind, if_pos short,
    exec_bind_error _ (exec_cursorReadU8_empty empty)]

theorem exec_readBitsStep_whole {r t : BdReader} {bitsLeft : Nat} {outByte : UInt8}
    (long : 8 ≤ bitsLeft) (window : exec (nextWindow bitsLeft) r = (.ok (outByte, 8), t)) :
    exec (readBitsStep bitsLeft) r = (.ok (outByte, bitsLeft - 8), t) := by
  rw [readBitsStep, exec_bind_ok _ window]
  simp only [if_pos long, usizeSub_of_le long, exec_bind, exec_pure]

theorem exec_readBitsStep_last {r t : BdReader} {bitsLeft maxReadBits : Nat} {outByte : UInt8}
    (some : 0 < bitsLeft) (short : bitsLeft < 8) (room : bitsLeft ≤ maxReadBits)
    (window : exec (nextWindow bitsLeft) r = (.ok (outByte, maxReadBits), t)) :
    exec (readBitsStep bitsLeft) r
      = (.ok (packByte ((ofByte outByte).take bitsLeft), 0),
          { t with bitOffset :=
              if 8 < t.bitOffset + bitsLeft then t.bitOffset + bitsLeft - 8
              else t.bitOffset + bitsLeft }) := by
  have shift : 8 - bitsLeft < 8 := by omega
  rw [readBitsStep, exec_bind_ok _ window]
  simp only [if_neg (Nat.not_le.mpr short), Nat.min_eq_left room, exec_bind, exec_modify,
    u8Shr_of_lt shift, usizeSub_of_le (Nat.le_refl bitsLeft), exec_pure, Nat.sub_self,
    mask_eq_packByte outByte (Nat.le_of_lt short)]

theorem cursor_of_few {r : BdReader} (few : r.bits.length < 8) : r.cursor = [] := by
  have total : r.bits.length = 8 - r.bitOffset + 8 * r.cursor.length := by simp [bits]
  exact List.length_eq_zero_iff.mp (by omega)

theorem exec_readBitsStep {r : BdReader} {bitsLeft : Nat} (positive : 0 < r.bitOffset)
    (offset : r.bitOffset ≤ 8) (some : 0 < bitsLeft) (enough : min bitsLeft 8 ≤ r.bits.length) :
    ∃ (cursor : List UInt8) (lastByte : UInt8) (bitOffset : Nat),
      exec (readBitsStep bitsLeft) r
        = (.ok (packByte (r.bits.take (min bitsLeft 8)), bitsLeft - min bitsLeft 8),
            { r with cursor := cursor, lastByte := lastByte, bitOffset := bitOffset })
      ∧ 0 < bitOffset ∧ bitOffset ≤ 8
      ∧ (ofByte lastByte).drop bitOffset ++ ofBytes cursor = r.bits.drop (min bitsLeft 8) := by
  have front : ((ofByte r.lastByte).drop r.bitOffset).length = 8 - r.bitOffset := by simp
  by_cases inside : bitsLeft ≤ 8 - r.bitOffset
  next =>
    -- `lastByte` still holds enough
    have short : bitsLeft < 8 := by omega
    have least : min bitsLeft 8 = bitsLeft := by omega
    have window := exec_nextWindow_inside some inside
    have stays : ¬8 < r.bitOffset + bitsLeft := by omega
    have shown : (ofByte ⟨r.lastByte.toBitVec >>> r.bitOffset⟩).take bitsLeft
        = r.bits.take bitsLeft := by
      rw [bits, ofByte_shr, List.take_append_of_le_length (by omega),
        List.take_append_of_le_length (by omega)]
    refine ⟨r.cursor, r.lastByte, r.bitOffset + bitsLeft, ?_, by omega, by omega, ?_⟩
    · rw [exec_readBitsStep_last some short inside window, shown, least, Nat.sub_self, if_neg stays]
    · rw [least, bits, List.drop_append_of_le_length (by omega), List.drop_drop]
  next =>
    have notEmpty : r.cursor ≠ [] := by
      intro gone
      rw [bits, gone] at enough
      simp only [ofBytes_nil, List.append_nil, front] at enough
      omega
    obtain ⟨inByte2, after, holds⟩ := List.exists_cons_of_ne_nil notEmpty
    obtain ⟨outByte, window, shown⟩ :=
      exec_nextWindow_fetch bitsLeft positive offset (by omega) holds
    have whole : r.bits = ofByte outByte ++ ((ofByte inByte2).drop r.bitOffset ++ ofBytes after) := by
      rw [bits, holds, shown, ofBytes_cons, List.append_assoc, ← List.append_assoc (List.take _ _),
        List.take_append_drop]
    by_cases long : 8 ≤ bitsLeft
    next =>
      have least : min bitsLeft 8 = 8 := by omega
      refine ⟨after, inByte2, r.bitOffset, ?_, positive, offset, ?_⟩
      · rw [exec_readBitsStep_whole long window, least, whole, List.take_left' (by simp),
          packByte_ofByte]
      · rw [least, whole, List.drop_left' (by simp)]
    next =>
      have short : bitsLeft < 8 := by omega
      have least : min bitsLeft 8 = bitsLeft := by omega
      have crosses : 8 < r.bitOffset + bitsLeft := by omega
      have shownByte : (ofByte outByte).take bitsLeft = r.bits.take bitsLeft := by
        rw [whole, List.take_append_of_le_length (by simp; omega)]
      refine ⟨after, inByte2, r.bitOffset + bitsLeft - 8, ?_, by omega, by omega, ?_⟩
      · rw [exec_readBitsStep_last some short (by omega) window, shownByte, least, Nat.sub_self,
          if_pos crosses]
      · have beyond : bitsLeft = (8 - r.bitOffset) + (r.bitOffset + bitsLeft - 8) := by omega
        have bound : r.bitOffset + bitsLeft - 8 ≤ (ofByte inByte2).length := by simp; omega
        rw [least, beyond, ← List.drop_drop, bits, List.drop_left' front, holds, ofBytes_cons,
          ← beyond, List.drop_append_of_le_length bound]

theorem exec_readBitsStep_short {r : BdReader} {bitsLeft : Nat} (offset : r.bitOffset ≤ 8)
    (few : r.bits.length < 8) (short : r.bits.length < bitsLeft) :
    exec (readBitsStep bitsLeft) r = (.error (.error .unexpectedEof), r) := by
  have empty : r.cursor = [] := cursor_of_few few
  have outside : 8 - r.bitOffset < bitsLeft := by
    rw [bits, empty, ofBytes_nil, List.append_nil, List.length_drop, length_ofByte] at short
    exact short
  rw [readBitsStep, exec_bind_error _ (exec_nextWindow_empty offset outside empty)]

theorem reads_readBitsStep {typeChecked : Bool} {bitsLeft : Nat} {code : List Bool}
    (some : 0 < bitsLeft) (length : code.length = min bitsLeft 8) :
    Reads .bitMode typeChecked (readBitsStep bitsLeft) code
      (packByte code, bitsLeft - min bitsLeft 8) := by
  intro r rest ready starts
  have enough : min bitsLeft 8 ≤ r.bits.length := by
    rw [starts, List.length_append, length]
    exact Nat.le_add_right _ _
  have codeIs : r.bits.take (min bitsLeft 8) = code := by rw [starts, ← length, List.take_left]
  have restIs : r.bits.drop (min bitsLeft 8) = rest := by rw [starts, ← length, List.drop_left]
  obtain ⟨_, _, _, ran, positive, offset, left⟩ :=
    exec_readBitsStep ready.positive ready.offset some enough
  rw [codeIs] at ran
  rw [restIs] at left
  exact ⟨_, ran, ⟨ready.inMode, ready.checked, ready.uncached, positive, offset, by simp⟩, left⟩

theorem reads_store {typeChecked : Bool} {buf : List UInt8} {destOffset : Nat} {outByte : UInt8}
    (inside : destOffset < buf.length) :
    Reads .bitMode typeChecked (store buf destOffset outByte) [] (buf.set destOffset outByte) := by
  rw [store, if_pos inside]
  exact Wire.accepts_pure _

theorem reads_readBitsLoop {typeChecked : Bool} (turns : Nat) :
    ∀ (buf : List UInt8) (destOffset bitsLeft : Nat) (code : List Bool), bitsLeft ≤ turns →
      code.length = bitsLeft → bitsLeft ≤ 8 * (buf.length - destOffset) →
      Reads .bitMode typeChecked (readBitsLoop turns buf destOffset bitsLeft) code
        (buf.take destOffset ++ pack code ++ buf.drop (destOffset + (bitsLeft + 7) / 8)) := by
  have finished : ∀ (buf : List UInt8) (destOffset : Nat) (code : List Bool), code.length = 0 →
      Reads .bitMode typeChecked (pure buf) code
        (buf.take destOffset ++ pack code ++ buf.drop (destOffset + (0 + 7) / 8)) := by
    intro buf destOffset code length
    obtain rfl := List.length_eq_zero_iff.mp length
    simpa using Wire.accepts_pure buf
  induction turns with
  | zero =>
    intro buf destOffset bitsLeft code enough length fits
    obtain rfl : bitsLeft = 0 := by omega
    exact finished buf destOffset code length
  | succ turns ih =>
    intro buf destOffset bitsLeft code enough length fits
    rw [readBitsLoop]
    split
    next done =>
      subst done
      exact finished buf destOffset code length
    next more =>
      have inside : destOffset < buf.length := by omega
      have front : (code.take 8).length = min bitsLeft 8 := by simp [length, Nat.min_comm]
      have back : (code.drop 8).length = bitsLeft - min bitsLeft 8 := by simp; omega
      have step : Reads .bitMode typeChecked _ _ _ :=
        reads_readBitsStep (Nat.pos_of_ne_zero more) front
      have rest := ih (buf.set destOffset (packByte (code.take 8))) (destOffset + 1)
        (bitsLeft - min bitsLeft 8) (code.drop 8) (by omega) back (by simp; omega)
      have whole := Wire.accepts_bind step (f := fun next => do
        let buf ← store buf destOffset next.1
        readBitsLoop turns buf (destOffset + 1) next.2) (Wire.accepts_bind (reads_store inside) rest)
      have some : code ≠ [] := by
        intro none
        simp [none] at length
        omega
      have turn : destOffset + (bitsLeft + 7) / 8
          = destOffset + 1 + (bitsLeft - min bitsLeft 8 + 7) / 8 := by omega
      rw [pack_cons_byte code some, turn]
      rw [List.nil_append, List.take_append_drop] at whole
      have stored : (buf.set destOffset (packByte (code.take 8))).take (destOffset + 1)
          = buf.take destOffset ++ [packByte (code.take 8)] := by
        rw [List.set_eq_take_append_cons_drop, if_pos inside, List.take_append,
          List.length_take, Nat.min_eq_left (Nat.le_of_lt inside), Nat.add_sub_cancel_left,
          List.take_of_length_le (by rw [List.length_take]; omega)]
        rfl
      rw [stored, List.drop_set_of_lt (by omega)] at whole
      simpa using whole

theorem ensureMode_bitMode {typeChecked : Bool} :
    Reads .bitMode typeChecked (ensureMode .bitMode) [] () := by
  refine Wire.accepts_get_bind fun r ready => ?_
  rw [ready.inMode]
  exact Wire.accepts_pure ()

theorem ensureMode_byteMode {typeChecked : Bool} :
    Reads .byteMode typeChecked (ensureMode .byteMode) [] () := by
  refine Wire.accepts_get_bind fun r ready => ?_
  rw [ready.inMode]
  exact Wire.accepts_pure ()

theorem reads_readBits {typeChecked : Bool} {buf : List UInt8} {code : List Bool}
    (fits : code.length ≤ buf.length * 8) :
    Reads .bitMode typeChecked (readBits buf code.length) code
      (pack code ++ buf.drop ((code.length + 7) / 8)) := by
  rw [readBits, if_neg (by omega)]
  have loop : Reads .bitMode typeChecked _ code _ :=
    reads_readBitsLoop code.length buf 0 code.length code (Nat.le_refl _) rfl (by simp; omega)
  rw [List.take_zero, List.nil_append, Nat.zero_add] at loop
  exact Wire.accepts_guard ensureMode_bitMode loop

theorem reads_readBits_whole {typeChecked : Bool} (bytes : List UInt8) :
    Reads .bitMode typeChecked (readBits (zeros bytes.length) (bytes.length * 8)) (ofBytes bytes)
      bytes := by
  have read : Reads .bitMode typeChecked (readBits (zeros bytes.length) _) (ofBytes bytes) _ :=
    reads_readBits (by simp [zeros]; omega)
  have size : (ofBytes bytes).length = bytes.length * 8 := by simp; omega
  have gone : (zeros bytes.length).drop ((bytes.length * 8 + 7) / 8) = [] :=
    List.drop_of_length_le (by simp [zeros]; omega)
  rwa [size, gone, pack_ofBytes, List.append_nil] at read

theorem reads_readBits_few {typeChecked : Bool} {code : List Bool} (some : code ≠ [])
    (few : code.length ≤ 8) :
    Reads .bitMode typeChecked (readBits [0] code.length) code [packByte code] := by
  have read : Reads .bitMode typeChecked (readBits [0] _) code _ := reads_readBits (by simp; omega)
  have size : 0 < code.length := List.length_pos_of_ne_nil some
  have packed : pack code = [packByte code] := by
    rw [pack_cons_byte code some, List.take_of_length_le few, List.drop_of_length_le few, pack_nil]
  have gone : ([0] : List UInt8).drop ((code.length + 7) / 8) = [] :=
    List.drop_of_length_le (by simp; omega)
  rwa [packed, gone, List.append_nil] at read

theorem cursor_of_starts {typeChecked : Bool} {r : BdReader} {bytes : List UInt8} {rest : List Bool}
    (ready : Ready .byteMode typeChecked r) (starts : r.bits = ofBytes bytes ++ rest) :
    ∃ back, r.cursor = bytes ++ back ∧ rest = ofBytes back := by
  rw [bits_whole (ready.aligned rfl)] at starts
  exact ofBytes_eq_append starts

theorem ready_cursor {mode : StreamMode} {typeChecked : Bool} {r : BdReader}
    (ready : Ready mode typeChecked r) (cursor : List UInt8) :
    Ready mode typeChecked { r with cursor := cursor } :=
  ⟨ready.inMode, ready.checked, ready.uncached, ready.positive, ready.offset, ready.aligned⟩

theorem reads_cursorReadExact {typeChecked : Bool} {n : Nat} {bytes : List UInt8}
    (length : bytes.length = n) :
    Reads .byteMode typeChecked (cursorReadExact n) (ofBytes bytes) bytes := by
  intro r rest ready starts
  obtain ⟨back, holds, restIs⟩ := cursor_of_starts ready starts
  refine ⟨{ r with cursor := back }, ?_, ready_cursor ready _, ?_⟩
  · rw [exec_cursorReadExact (by simp [holds]; omega), holds, List.take_left' length,
      List.drop_left' length]
  · rw [restIs]
    exact bits_whole (ready.aligned rfl)

theorem reads_cursorReadU8 {typeChecked : Bool} (b : UInt8) :
    Reads .byteMode typeChecked cursorReadU8 (ofByte b) b := by
  intro r rest ready starts
  have alone : r.bits = ofBytes [b] ++ rest := by simpa using starts
  obtain ⟨back, holds, restIs⟩ := cursor_of_starts ready alone
  refine ⟨_, exec_cursorReadU8 holds, ready_cursor ready _, ?_⟩
  rw [restIs]
  exact bits_whole (ready.aligned rfl)

theorem reads_cursorRead {typeChecked : Bool} (bytes : List UInt8) :
    Reads .byteMode typeChecked (cursorRead bytes.length) (ofBytes bytes) bytes := by
  intro r rest ready starts
  obtain ⟨back, holds, restIs⟩ := cursor_of_starts ready starts
  refine ⟨{ r with cursor := back }, ?_, ready_cursor ready _, ?_⟩
  · simp only [cursorRead, exec_bind, exec_get, exec_set, exec_pure, holds, List.take_left,
      List.drop_left]
  · rw [restIs]
    exact bits_whole (ready.aligned rfl)

theorem reads_cursorReadUntilZero {typeChecked : Bool} {bytes : List UInt8} (noZero : 0 ∉ bytes) :
    Reads .byteMode typeChecked cursorReadUntilZero (ofBytes (bytes ++ [0])) (bytes ++ [0]) := by
  intro r rest ready starts
  obtain ⟨back, holds, restIs⟩ := cursor_of_starts ready starts
  have before : r.cursor.takeWhile (· ≠ 0) = bytes := by
    rw [holds, List.append_assoc, List.takeWhile_append_of_pos]
    · simp
    · intro b member
      simpa using fun zero : b = 0 => noZero (zero ▸ member)
  have size : bytes.length + 1 = (bytes ++ [0]).length := by simp
  refine ⟨{ r with cursor := back }, ?_, ready_cursor ready _, ?_⟩
  · simp only [cursorReadUntilZero, exec_bind, exec_get, exec_set, exec_pure, before, size]
    rw [holds, List.take_left, List.drop_left]
  · rw [restIs]
    exact bits_whole (ready.aligned rfl)

end BdReader

end BitDemon
