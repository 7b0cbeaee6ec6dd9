import BitDemon.Library.Utf8
import BitDemon.Library.Wire
import BitDemon.Messaging.Buffer

set_option autoImplicit false

/-!
# The bdBuffer writer

A write in bit mode leaves up to seven bits in `lastByte` until they fill a
byte. Arrays and byte-mode values go to the cursor directly.
-/

namespace BitDemon

open Machine Bits

structure BdWriter where
  out : List UInt8
  bitOffset : Nat
  lastByte : UInt8
  mode : StreamMode
  typeChecked : Bool
  deriving DecidableEq

namespace BdWriter

def new : BdWriter :=
  { out := [], bitOffset := 8, lastByte := 0, mode := .byteMode, typeChecked := false }

end BdWriter

abbrev WriteM (α : Type) := Fallible BdWriter α

namespace BdWriter

def setMode (mode : StreamMode) : WriteM Unit := modify fun w => { w with mode := mode }

def setTypeChecked (typeChecked : Bool) : WriteM Unit :=
  modify fun w => { w with typeChecked := typeChecked }

/-- `cursor.write_all`: the cursor stands at the end of its vector. -/
def cursorWriteAll (bytes : List UInt8) : WriteM Unit :=
  modify fun w => { w with out := w.out ++ bytes }

def flush : WriteM Unit := do
  let w ← get
  if 8 ≤ w.bitOffset then
    pure ()
  else do
    cursorWriteAll [w.lastByte]
    modify fun w => { w with bitOffset := 8 }

def ensureMode (expectedMode : StreamMode) : WriteM Unit := do
  let w ← get
  ensure (w.mode == expectedMode) (.writerMode expectedMode w.mode)

def maskBits (inByte : UInt8) (bitsLeft : Nat) : WriteM UInt8 := do
  let mask ← u8Shr 0xFF (8 - bitsLeft)
  pure (inByte &&& mask)

def placeBits (inByte : UInt8) (inBits : Nat) : WriteM Unit := do
  let w ← get
  if w.bitOffset < 8 then do
    let shifted ← u8Shl inByte w.bitOffset
    modify fun w => { w with lastByte := w.lastByte ||| shifted }
    let w ← get
    match compare (w.bitOffset + inBits) 8 with
    | .gt => do
      let usedBits ← usizeSub 8 w.bitOffset
      cursorWriteAll [w.lastByte]
      let spilled ← u8Shr inByte usedBits
      modify fun w =>
        { w with
          bitOffset := ((w.bitOffset : Int) + ((inBits : Int) - 8)).toNat
          lastByte := spilled }
    | .eq => do
      cursorWriteAll [w.lastByte]
      modify fun w => { w with lastByte := 0, bitOffset := 8 }
    | .lt => modify fun w => { w with bitOffset := w.bitOffset + inBits }
  else if inBits = 8 then
    cursorWriteAll [inByte]
  else
    modify fun w => { w with lastByte := inByte, bitOffset := inBits }

/-- One turn of the loop of `write_bits`: it returns how many bits it wrote. -/
def writeBitsStep (buf : List UInt8) (srcOffset bitsLeft : Nat) : WriteM Nat := do
  let inByte ← index buf srcOffset
  if bitsLeft < 8 then do
    let masked ← maskBits inByte bitsLeft
    placeBits masked bitsLeft
    pure bitsLeft
  else do
    placeBits inByte 8
    pure 8

/-- The loop of `write_bits`, at most `turns` times round. -/
def writeBitsLoop (buf : List UInt8) : Nat → Nat → Nat → WriteM Unit
  | 0, _, bitsLeft => if bitsLeft = 0 then pure () else panicWith .loopDoesNotEnd
  | turns + 1, srcOffset, bitsLeft =>
    if bitsLeft = 0 then
      pure ()
    else do
      let inBits ← writeBitsStep buf srcOffset bitsLeft
      writeBitsLoop buf turns (srcOffset + 1) (bitsLeft - inBits)

def writeBits (buf : List UInt8) (count : Nat) : WriteM Unit :=
  if buf.length * 8 < count then
    panicWith .bufferDoesNotFit
  else do
    ensureMode .bitMode
    writeBitsLoop buf count 0 count

def writeBytes (buffer : List UInt8) : WriteM Unit := do
  let w ← get
  if w.mode = .bitMode then
    writeBits buffer (buffer.length * 8)
  else
    cursorWriteAll buffer

def writeTypeCheckedBit : WriteM Unit := do
  ensureMode .bitMode
  let w ← get
  writeBits (if w.typeChecked then [0x01] else [0x00]) 1

def writeDataType (bufferDataType : BufferDataType) : WriteM Unit := do
  let value := bufferDataType.toValue
  let w ← get
  if w.mode = .byteMode then
    cursorWriteAll [value]
  else
    writeBits [value] 5

def writeArrayNumElements (numElements : Nat) : WriteM Unit := do
  -- always type checked
  writeDataType (.noArray .unsignedInteger32Type)
  -- total size: clients ignore it
  cursorWriteAll (LeCodec.u32.toLeBytes 0)
  -- the count itself is never type checked
  cursorWriteAll (LeCodec.u32.toLeBytes (UInt32.ofNat numElements))

def writeTypeTag (dataType : BdDataType) : WriteM Unit := do
  let w ← get
  if w.typeChecked then
    writeDataType (.noArray dataType)
  else
    pure ()

/-- The writers of whole-byte scalars differ in tag and number format only. -/
def writeScalar {α : Type} (dataType : BdDataType) (c : LeCodec α) (value : α) : WriteM Unit := do
  writeTypeTag dataType
  let w ← get
  if w.mode = .byteMode then
    cursorWriteAll (c.toLeBytes value)
  else
    writeBits (c.toLeBytes value) (c.size * 8)

def writeBool (value : Bool) : WriteM Unit := do
  writeTypeTag .boolType
  let w ← get
  if w.mode = .byteMode then
    cursorWriteAll [if value then 1 else 0]
  else
    writeBits (if value then [0x01] else [0x00]) 1

def writeI8 (value : Int8) : WriteM Unit := writeScalar .signedChar8Type .i8 value
def writeU8 (value : UInt8) : WriteM Unit := writeScalar .unsignedChar8Type .u8 value
def writeI16 (value : Int16) : WriteM Unit := writeScalar .signedInteger16Type .i16 value
def writeU16 (value : UInt16) : WriteM Unit := writeScalar .unsignedInteger16Type .u16 value
def writeI32 (value : Int32) : WriteM Unit := writeScalar .signedInteger32Type .i32 value
def writeU32 (value : UInt32) : WriteM Unit := writeScalar .unsignedInteger32Type .u32 value
def writeI64 (value : Int64) : WriteM Unit := writeScalar .signedInteger64Type .i64 value
def writeU64 (value : UInt64) : WriteM Unit := writeScalar .unsignedInteger64Type .u64 value

/-- Floats are their bit patterns here. -/
def writeF32 (value : UInt32) : WriteM Unit := writeScalar .float32Type .u32 value
def writeF64 (value : UInt64) : WriteM Unit := writeScalar .float64Type .u64 value

def writeStr (value : String) : WriteM Unit := do
  writeTypeTag .signedChar8StringType
  let w ← get
  if w.mode = .bitMode then do
    writeBits (Utf8.encode value) ((Utf8.encode value).length * 8)
    writeBits [0] 8
  else do
    cursorWriteAll (Utf8.encode value)
    cursorWriteAll [0]

/-- The array writers differ in tag and in how one element goes to the cursor. -/
def writeArray {α : Type} (dataType : BdDataType) (element : α → List UInt8) (value : List α) :
    WriteM Unit := do
  ensureMode .byteMode
  -- arrays are always type checked
  writeDataType (.array dataType)
  writeArrayNumElements value.length
  Wire.writeEach (fun el => cursorWriteAll (element el)) value

def writeI8Array (value : List Int8) := writeArray .signedChar8Type LeCodec.i8.toLeBytes value
def writeU8Array (value : List UInt8) := writeArray .unsignedChar8Type LeCodec.u8.toLeBytes value
def writeI16Array (value : List Int16) :=
  writeArray .signedInteger16Type LeCodec.i16.toLeBytes value
def writeU16Array (value : List UInt16) :=
  writeArray .unsignedInteger16Type LeCodec.u16.toLeBytes value
def writeI32Array (value : List Int32) :=
  writeArray .signedInteger32Type LeCodec.i32.toLeBytes value
def writeU32Array (value : List UInt32) :=
  writeArray .unsignedInteger32Type LeCodec.u32.toLeBytes value
def writeI64Array (value : List Int64) :=
  writeArray .signedInteger64Type LeCodec.i64.toLeBytes value
def writeU64Array (value : List UInt64) :=
  writeArray .unsignedInteger64Type LeCodec.u64.toLeBytes value
def writeStrArray (value : List String) :=
  writeArray .signedChar8StringType (fun el => Utf8.encode el ++ [0]) value

def writeBlob (value : List UInt8) : WriteM Unit := do
  writeTypeTag .blobType
  writeU32 (UInt32.ofNat value.length)
  let w ← get
  if w.mode = .bitMode then
    writeBits value (value.length * 8)
  else
    cursorWriteAll value

def pending (w : BdWriter) : List Bool :=
  if w.bitOffset < 8 then (ofByte w.lastByte).take w.bitOffset else []

def bits (w : BdWriter) : List Bool := ofBytes w.out ++ w.pending

/-- What every write leaves: in byte mode nothing is pending, and above the pending bits is zero. -/
structure Ready (mode : StreamMode) (typeChecked : Bool) (w : BdWriter) : Prop where
  inMode : w.mode = mode
  checked : w.typeChecked = typeChecked
  positive : 0 < w.bitOffset
  offset : w.bitOffset ≤ 8
  clean : w.bitOffset < 8 → Below w.lastByte w.bitOffset
  aligned : mode = .byteMode → w.bitOffset = 8

abbrev Writes {α : Type} (mode : StreamMode) (typeChecked : Bool) (m : WriteM α)
    (code : List Bool) (a : α) : Prop :=
  Wire.Emits (Ready mode typeChecked) bits m code a

theorem pending_whole {w : BdWriter} (whole : w.bitOffset = 8) : w.pending = [] := by
  simp [pending, whole]

theorem exec_cursorWriteAll (bytes : List UInt8) (w : BdWriter) :
    exec (cursorWriteAll bytes) w = (.ok (), { w with out := w.out ++ bytes }) := rfl

def merged (w : BdWriter) (inByte : UInt8) : UInt8 :=
  w.lastByte ||| ⟨inByte.toBitVec <<< w.bitOffset⟩

theorem ofByte_merged {w : BdWriter} (inByte : UInt8) (clean : Below w.lastByte w.bitOffset)
    (partly : w.bitOffset < 8) :
    ofByte (w.merged inByte)
      = (ofByte w.lastByte).take w.bitOffset ++ (ofByte inByte).take (8 - w.bitOffset) :=
  ofByte_or_shl clean (by omega)

theorem exec_placeBits_less {w : BdWriter} {inByte : UInt8} {n : Nat} (room : w.bitOffset + n < 8) :
    exec (placeBits inByte n) w
      = (.ok (), { w with lastByte := w.merged inByte, bitOffset := w.bitOffset + n }) := by
  have partly : w.bitOffset < 8 := by omega
  have order : compare (w.bitOffset + n) 8 = .lt := Nat.compare_eq_lt.mpr room
  simp only [placeBits, exec_bind, exec_get, exec_modify, if_pos partly, u8Shl_of_lt partly,
    exec_pure, order]
  rfl

theorem exec_placeBits_equal {w : BdWriter} {inByte : UInt8} {n : Nat} (partly : w.bitOffset < 8)
    (full : w.bitOffset + n = 8) :
    exec (placeBits inByte n) w
      = (.ok (), { w with out := w.out ++ [w.merged inByte], lastByte := 0, bitOffset := 8 }) := by
  have order : compare (w.bitOffset + n) 8 = .eq := Nat.compare_eq_eq.mpr full
  simp only [placeBits, exec_bind, exec_get, exec_modify, if_pos partly, u8Shl_of_lt partly,
    exec_pure, order, exec_cursorWriteAll]
  rfl

theorem exec_placeBits_greater {w : BdWriter} {inByte : UInt8} {n : Nat} (positive : 0 < w.bitOffset)
    (partly : w.bitOffset < 8) (spill : 8 < w.bitOffset + n) :
    exec (placeBits inByte n) w
      = (.ok (), { w with
          out := w.out ++ [w.merged inByte]
          lastByte := ⟨inByte.toBitVec >>> (8 - w.bitOffset)⟩
          bitOffset := w.bitOffset + n - 8 }) := by
  have order : compare (w.bitOffset + n) 8 = .gt := Nat.compare_eq_gt.mpr spill
  have used : 8 - w.bitOffset < 8 := by omega
  have offset : ((w.bitOffset : Int) + ((n : Int) - 8)).toNat = w.bitOffset + n - 8 := by omega
  simp only [placeBits, exec_bind, exec_get, exec_modify, if_pos partly, u8Shl_of_lt partly,
    exec_pure, order, exec_cursorWriteAll, usizeSub_of_le (Nat.le_of_lt partly), u8Shr_of_lt used,
    offset]
  rfl

theorem exec_placeBits_whole {w : BdWriter} {inByte : UInt8} (whole : w.bitOffset = 8) :
    exec (placeBits inByte 8) w = (.ok (), { w with out := w.out ++ [inByte] }) := by
  simp [placeBits, exec_bind, whole, exec_cursorWriteAll]

theorem exec_placeBits_fresh {w : BdWriter} {inByte : UInt8} {n : Nat} (whole : w.bitOffset = 8)
    (short : n < 8) :
    exec (placeBits inByte n) w = (.ok (), { w with lastByte := inByte, bitOffset := n }) := by
  simp [placeBits, exec_bind, whole, Nat.ne_of_lt short]

theorem writes_placeBits {typeChecked : Bool} {inByte : UInt8} {n : Nat} (some : 0 < n)
    (inside : n ≤ 8) (small : Below inByte n) :
    Writes .bitMode typeChecked (placeBits inByte n) ((ofByte inByte).take n) () := by
  intro w ready
  have positive := ready.positive
  by_cases partly : w.bitOffset < 8
  · have clean := ready.clean partly
    have waiting : w.pending = (ofByte w.lastByte).take w.bitOffset := if_pos partly
    have start : ((ofByte w.lastByte).take w.bitOffset).length = w.bitOffset := by
      simp; omega
    have joined := ofByte_merged inByte clean partly
    rcases Nat.lt_trichotomy (w.bitOffset + n) 8 with room | full | spill
    · refine ⟨_, exec_placeBits_less room, ⟨ready.inMode, ready.checked, by simp; omega,
        by simp; omega, fun _ => ?_, by simp⟩, ?_⟩
      · exact below_or_shl clean small
      · simp only [bits, pending, if_pos room, if_pos partly]
        rw [joined, List.take_append, start, List.take_of_length_le (by omega),
          Nat.add_sub_cancel_left, List.take_take, Nat.min_eq_left (by omega), List.append_assoc]
    · refine ⟨_, exec_placeBits_equal partly full, ⟨ready.inMode, ready.checked, by simp,
        by simp, by simp, by simp⟩, ?_⟩
      have taken : 8 - w.bitOffset = n := by omega
      simp only [bits, waiting]
      rw [pending_whole rfl, ofBytes_append, ofBytes_cons, joined, taken]
      simp
    · refine ⟨_, exec_placeBits_greater positive partly spill, ⟨ready.inMode, ready.checked,
        by simp; omega, by simp; omega, fun _ => ?_, by simp⟩, ?_⟩
      · intro i high
        rw [BitVec.getLsbD_ushiftRight]
        exact small _ (by simp at high; omega)
      · have short : w.bitOffset + n - 8 < 8 := by omega
        simp only [bits, pending, if_pos short, if_pos partly]
        have split : (ofByte inByte).take n = (ofByte inByte).take (8 - w.bitOffset)
            ++ ((ofByte inByte).drop (8 - w.bitOffset)).take (w.bitOffset + n - 8) := by
          rw [← List.take_add]
          congr 1
          omega
        rw [ofBytes_append, ofBytes_cons, joined, ofByte_shr,
          List.take_append_of_le_length (by simp; omega), split]
        simp
  · have whole : w.bitOffset = 8 := by have := ready.offset; omega
    by_cases eight : n = 8
    · subst eight
      refine ⟨_, exec_placeBits_whole whole, ⟨ready.inMode, ready.checked, ready.positive,
        ready.offset, ready.clean, ready.aligned⟩, ?_⟩
      have waiting : w.pending = [] := pending_whole whole
      simp only [bits]
      rw [waiting, pending_whole (by exact whole), List.take_of_length_le (by simp)]
      simp
    · have short : n < 8 := by omega
      refine ⟨_, exec_placeBits_fresh whole short, ⟨ready.inMode, ready.checked, some, inside,
        fun _ => small, by simp⟩, ?_⟩
      simp only [bits]
      rw [pending_whole whole]
      simp [pending, short]

theorem writes_maskBits {typeChecked : Bool} (inByte : UInt8) {n : Nat} (some : 0 < n) :
    Writes .bitMode typeChecked (maskBits inByte n) []
      (inByte &&& ⟨(0xFF : UInt8).toBitVec >>> (8 - n)⟩) := by
  have small : 8 - n < 8 := by omega
  rw [maskBits, u8Shr_of_lt small]
  exact Wire.emits_pure _

theorem writes_writeBitsStep {typeChecked : Bool} {buf : List UInt8} {srcOffset bitsLeft : Nat}
    (inside : srcOffset < buf.length) (some : 0 < bitsLeft) :
    Writes .bitMode typeChecked (writeBitsStep buf srcOffset bitsLeft)
      ((ofByte buf[srcOffset]).take bitsLeft) (min bitsLeft 8) := by
  rw [writeBitsStep, index_of_lt inside]
  change Writes .bitMode typeChecked (if bitsLeft < 8 then _ else _) _ _
  split
  next short =>
    have low := below_mask buf[srcOffset] (Nat.le_of_lt short)
    have placed : Writes .bitMode typeChecked _ _ () :=
      writes_placeBits some (Nat.le_of_lt short) low
    rw [take_ofByte_mask _ (Nat.le_of_lt short)] at placed
    rw [Nat.min_eq_left (Nat.le_of_lt short)]
    exact Wire.emits_guard (writes_maskBits _ some)
      (Wire.emits_finish placed (Wire.emits_pure bitsLeft))
  next long =>
    have placed : Writes .bitMode typeChecked _ _ () :=
      writes_placeBits (by omega) (Nat.le_refl 8) (below_eight buf[srcOffset])
    rw [Nat.min_eq_right (by omega), List.take_of_length_le (by simp; omega)]
    rw [List.take_of_length_le (by simp)] at placed
    exact Wire.emits_finish placed (Wire.emits_pure 8)

theorem writes_writeBitsLoop {typeChecked : Bool} {buf : List UInt8} (turns : Nat) :
    ∀ srcOffset bitsLeft, bitsLeft ≤ turns → bitsLeft ≤ 8 * (buf.length - srcOffset) →
      Writes .bitMode typeChecked (writeBitsLoop buf turns srcOffset bitsLeft)
        ((ofBytes (buf.drop srcOffset)).take bitsLeft) () := by
  induction turns with
  | zero =>
    intro srcOffset bitsLeft enough fits
    have done : bitsLeft = 0 := by omega
    subst done
    exact Wire.emits_pure ()
  | succ turns ih =>
    intro srcOffset bitsLeft enough fits
    rw [writeBitsLoop]
    split
    next done =>
      subst done
      exact Wire.emits_pure ()
    next more =>
      have inside : srcOffset < buf.length := by omega
      have step : Writes .bitMode typeChecked _ _ _ :=
        writes_writeBitsStep inside (Nat.pos_of_ne_zero more)
      have rest := ih (srcOffset + 1) (bitsLeft - min bitsLeft 8) (by omega) (by omega)
      refine Wire.emits_congr (Wire.emits_bind step rest) ?_
      rw [List.drop_eq_getElem_cons inside, ofBytes_cons, List.take_append, length_ofByte]
      congr 2
      omega

theorem ensureMode_bitMode {typeChecked : Bool} :
    Writes .bitMode typeChecked (ensureMode .bitMode) [] () := by
  refine Wire.emits_get_bind fun w ready => ?_
  rw [ready.inMode]
  exact Wire.emits_pure ()

theorem writes_writeBits {typeChecked : Bool} {buf : List UInt8} {count : Nat}
    (fits : count ≤ buf.length * 8) :
    Writes .bitMode typeChecked (writeBits buf count) ((ofBytes buf).take count) () := by
  rw [writeBits, if_neg (by omega)]
  exact Wire.emits_bind ensureMode_bitMode
    (writes_writeBitsLoop count 0 count (Nat.le_refl _) (by simp; omega))

theorem writes_writeBits_whole {typeChecked : Bool} {buf : List UInt8} {count : Nat}
    (whole : count = buf.length * 8) :
    Writes .bitMode typeChecked (writeBits buf count) (ofBytes buf) () := by
  have taken : Writes .bitMode typeChecked _ _ () := writes_writeBits (Nat.le_of_eq whole)
  rwa [List.take_of_length_le (by simp; omega)] at taken

theorem writes_cursorWriteAll {typeChecked : Bool} (bytes : List UInt8) :
    Writes .byteMode typeChecked (cursorWriteAll bytes) (ofBytes bytes) () := by
  intro w ready
  have whole := ready.aligned rfl
  refine ⟨_, exec_cursorWriteAll bytes w, ⟨ready.inMode, ready.checked, ready.positive,
    ready.offset, ready.clean, ready.aligned⟩, ?_⟩
  have waiting : w.pending = [] := pending_whole whole
  simp only [bits]
  rw [waiting, pending_whole (by exact whole)]
  simp

theorem writes_setTypeChecked (mode : StreamMode) (typeChecked now : Bool) (w : BdWriter)
    (ready : Ready mode typeChecked w) :
    exec (setTypeChecked now) w = (.ok (), { w with typeChecked := now })
      ∧ Ready mode now { w with typeChecked := now }
      ∧ bits { w with typeChecked := now } = bits w :=
  ⟨rfl, ⟨ready.inMode, rfl, ready.positive, ready.offset, ready.clean, ready.aligned⟩, rfl⟩

theorem ready_setMode {typeChecked : Bool} {w : BdWriter} (ready : Ready .byteMode typeChecked w) :
    Ready .bitMode typeChecked { w with mode := .bitMode } :=
  ⟨rfl, ready.checked, ready.positive, ready.offset, ready.clean, by simp⟩

theorem ready_new : Ready .byteMode false new :=
  ⟨rfl, rfl, by decide, by decide, fun short => absurd short (by decide), fun _ => rfl⟩

theorem exec_flush {mode : StreamMode} {typeChecked : Bool} {w : BdWriter}
    (ready : Ready mode typeChecked w) :
    ∃ t, exec flush w = (.ok (), t) ∧ ∃ n < 8, ofBytes t.out = bits w ++ List.replicate n false := by
  by_cases whole : 8 ≤ w.bitOffset
  · refine ⟨w, by simp [flush, exec_bind, whole], 0, by decide, ?_⟩
    have waiting : w.pending = [] := if_neg (by omega)
    simp [bits, waiting]
  · have positive := ready.positive
    refine ⟨{ w with out := w.out ++ [w.lastByte], bitOffset := 8 }, ?_, 8 - w.bitOffset, by omega, ?_⟩
    · simp [flush, exec_bind, whole, exec_cursorWriteAll]
    · have waiting : w.pending = (ofByte w.lastByte).take w.bitOffset := if_pos (by omega)
      have filled := ofByte_of_below (ready.clean (by omega)) (by omega)
      simp only [bits, waiting, ofBytes_append, ofBytes_cons, ofBytes_nil, List.append_nil,
        List.append_assoc]
      rw [← filled]

end BdWriter

end BitDemon
