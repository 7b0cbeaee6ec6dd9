import BitDemon.Messaging.Format

set_option autoImplicit false

/-!
# Reading back what was written

A program of writes has a byte-mode part and a bit-mode part. The matching
program of reads has the same shape and knows nothing of the written values.
-/

namespace BitDemon

open Machine Bits Format

inductive Value where
  | bool (value : Bool)
  | i8 (value : Int8)
  | u8 (value : UInt8)
  | i16 (value : Int16)
  | u16 (value : UInt16)
  | i32 (value : Int32)
  | u32 (value : UInt32)
  | i64 (value : Int64)
  | u64 (value : UInt64)
  | f32 (value : UInt32)
  | f64 (value : UInt64)
  | str (value : String)
  | blob (value : List UInt8)
  | bytes (value : List UInt8)
  deriving DecidableEq

inductive ArrayValue where
  | i8 (value : List Int8)
  | u8 (value : List UInt8)
  | i16 (value : List Int16)
  | u16 (value : List UInt16)
  | i32 (value : List Int32)
  | u32 (value : List UInt32)
  | i64 (value : List Int64)
  | u64 (value : List UInt64)
  | str (value : List String)
  deriving DecidableEq

/-- What a read asks for: `read_bytes` is told how many. -/
inductive ValueKind where
  | bool | i8 | u8 | i16 | u16 | i32 | u32 | i64 | u64 | f32 | f64 | str | blob
  | bytes (length : Nat)
  deriving DecidableEq

inductive ArrayKind where
  | i8 | u8 | i16 | u16 | i32 | u32 | i64 | u64 | str
  deriving DecidableEq

namespace Value

def kind : Value → ValueKind
  | .bool _ => .bool
  | .i8 _ => .i8
  | .u8 _ => .u8
  | .i16 _ => .i16
  | .u16 _ => .u16
  | .i32 _ => .i32
  | .u32 _ => .u32
  | .i64 _ => .i64
  | .u64 _ => .u64
  | .f32 _ => .f32
  | .f64 _ => .f64
  | .str _ => .str
  | .blob _ => .blob
  | .bytes value => .bytes value.length

def write : Value → WriteM Unit
  | .bool value => BdWriter.writeBool value
  | .i8 value => BdWriter.writeI8 value
  | .u8 value => BdWriter.writeU8 value
  | .i16 value => BdWriter.writeI16 value
  | .u16 value => BdWriter.writeU16 value
  | .i32 value => BdWriter.writeI32 value
  | .u32 value => BdWriter.writeU32 value
  | .i64 value => BdWriter.writeI64 value
  | .u64 value => BdWriter.writeU64 value
  | .f32 value => BdWriter.writeF32 value
  | .f64 value => BdWriter.writeF64 value
  | .str value => BdWriter.writeStr value
  | .blob value => BdWriter.writeBlob value
  | .bytes value => BdWriter.writeBytes value

def code (mode : StreamMode) (typeChecked : Bool) : Value → List Bool
  | .bool value => boolCode mode typeChecked value
  | .i8 value => scalarCode mode typeChecked .signedChar8Type .i8 value
  | .u8 value => scalarCode mode typeChecked .unsignedChar8Type .u8 value
  | .i16 value => scalarCode mode typeChecked .signedInteger16Type .i16 value
  | .u16 value => scalarCode mode typeChecked .unsignedInteger16Type .u16 value
  | .i32 value => scalarCode mode typeChecked .signedInteger32Type .i32 value
  | .u32 value => scalarCode mode typeChecked .unsignedInteger32Type .u32 value
  | .i64 value => scalarCode mode typeChecked .signedInteger64Type .i64 value
  | .u64 value => scalarCode mode typeChecked .unsignedInteger64Type .u64 value
  | .f32 value => scalarCode mode typeChecked .float32Type .u32 value
  | .f64 value => scalarCode mode typeChecked .float64Type .u64 value
  | .str value => strCode mode typeChecked value
  | .blob value => blobCode mode typeChecked value
  | .bytes value => ofBytes value

/-- Strings have no NUL and lengths fit the 32 bits they are sent in. -/
def Fits : Value → Prop
  | .str value => '\x00' ∉ value.toList
  | .blob value => value.length < 2 ^ 32
  | _ => True

end Value

def ValueKind.read : ValueKind → ReadM Value
  | .bool => Value.bool <$> BdReader.readBool
  | .i8 => Value.i8 <$> BdReader.readI8
  | .u8 => Value.u8 <$> BdReader.readU8
  | .i16 => Value.i16 <$> BdReader.readI16
  | .u16 => Value.u16 <$> BdReader.readU16
  | .i32 => Value.i32 <$> BdReader.readI32
  | .u32 => Value.u32 <$> BdReader.readU32
  | .i64 => Value.i64 <$> BdReader.readI64
  | .u64 => Value.u64 <$> BdReader.readU64
  | .f32 => Value.f32 <$> BdReader.readF32
  | .f64 => Value.f64 <$> BdReader.readF64
  | .str => Value.str <$> BdReader.readStr
  | .blob => Value.blob <$> BdReader.readBlob
  | .bytes length => Value.bytes <$> BdReader.readBytes length

namespace ArrayValue

def kind : ArrayValue → ArrayKind
  | .i8 _ => .i8
  | .u8 _ => .u8
  | .i16 _ => .i16
  | .u16 _ => .u16
  | .i32 _ => .i32
  | .u32 _ => .u32
  | .i64 _ => .i64
  | .u64 _ => .u64
  | .str _ => .str

def write : ArrayValue → WriteM Unit
  | .i8 value => BdWriter.writeI8Array value
  | .u8 value => BdWriter.writeU8Array value
  | .i16 value => BdWriter.writeI16Array value
  | .u16 value => BdWriter.writeU16Array value
  | .i32 value => BdWriter.writeI32Array value
  | .u32 value => BdWriter.writeU32Array value
  | .i64 value => BdWriter.writeI64Array value
  | .u64 value => BdWriter.writeU64Array value
  | .str value => BdWriter.writeStrArray value

def code : ArrayValue → List Bool
  | .i8 value => arrayCode .signedChar8Type LeCodec.i8.toLeBytes value
  | .u8 value => arrayCode .unsignedChar8Type LeCodec.u8.toLeBytes value
  | .i16 value => arrayCode .signedInteger16Type LeCodec.i16.toLeBytes value
  | .u16 value => arrayCode .unsignedInteger16Type LeCodec.u16.toLeBytes value
  | .i32 value => arrayCode .signedInteger32Type LeCodec.i32.toLeBytes value
  | .u32 value => arrayCode .unsignedInteger32Type LeCodec.u32.toLeBytes value
  | .i64 value => arrayCode .signedInteger64Type LeCodec.i64.toLeBytes value
  | .u64 value => arrayCode .unsignedInteger64Type LeCodec.u64.toLeBytes value
  | .str value => arrayCode .signedChar8StringType (fun el => Utf8.encode el ++ [0]) value

def Fits : ArrayValue → Prop
  | .i8 value => value.length < 2 ^ 32
  | .u8 value => value.length < 2 ^ 32
  | .i16 value => value.length < 2 ^ 32
  | .u16 value => value.length < 2 ^ 32
  | .i32 value => value.length < 2 ^ 32
  | .u32 value => value.length < 2 ^ 32
  | .i64 value => value.length < 2 ^ 32
  | .u64 value => value.length < 2 ^ 32
  | .str value => value.length < 2 ^ 32 ∧ ∀ el ∈ value, '\x00' ∉ el.toList

end ArrayValue

def ArrayKind.read : ArrayKind → ReadM ArrayValue
  | .i8 => ArrayValue.i8 <$> BdReader.readI8Array
  | .u8 => ArrayValue.u8 <$> BdReader.readU8Array
  | .i16 => ArrayValue.i16 <$> BdReader.readI16Array
  | .u16 => ArrayValue.u16 <$> BdReader.readU16Array
  | .i32 => ArrayValue.i32 <$> BdReader.readI32Array
  | .u32 => ArrayValue.u32 <$> BdReader.readU32Array
  | .i64 => ArrayValue.i64 <$> BdReader.readI64Array
  | .u64 => ArrayValue.u64 <$> BdReader.readU64Array
  | .str => ArrayValue.str <$> BdReader.readStrArray

inductive WriteOp : StreamMode → Type where
  | value {mode : StreamMode} (v : Value) : WriteOp mode
  | array (a : ArrayValue) : WriteOp .byteMode
  | typeCheckedBit : WriteOp .bitMode
  | setTypeChecked {mode : StreamMode} (typeChecked : Bool) : WriteOp mode

inductive ReadOp : StreamMode → Type where
  | value {mode : StreamMode} (k : ValueKind) : ReadOp mode
  | array (k : ArrayKind) : ReadOp .byteMode
  | typeCheckedBit : ReadOp .bitMode
  | setTypeChecked {mode : StreamMode} (typeChecked : Bool) : ReadOp mode

inductive Item where
  | value (v : Value)
  | array (a : ArrayValue)
  | typeChecked (flag : Bool)
  deriving DecidableEq

namespace WriteOp

variable {mode : StreamMode}

def write : WriteOp mode → WriteM Unit
  | .value v => v.write
  | .array a => a.write
  | .typeCheckedBit => BdWriter.writeTypeCheckedBit
  | .setTypeChecked typeChecked => BdWriter.setTypeChecked typeChecked

def matching : WriteOp mode → ReadOp mode
  | .value v => .value v.kind
  | .array a => .array a.kind
  | .typeCheckedBit => .typeCheckedBit
  | .setTypeChecked typeChecked => .setTypeChecked typeChecked

def Fits : WriteOp mode → Prop
  | .value v => v.Fits
  | .array a => a.Fits
  | .typeCheckedBit => True
  | .setTypeChecked _ => True

def flagAfter (flag : Bool) : WriteOp mode → Bool
  | .setTypeChecked typeChecked => typeChecked
  | .value _ => flag
  | .array _ => flag
  | .typeCheckedBit => flag

def written (flag : Bool) : WriteOp mode → List Item
  | .value v => [.value v]
  | .array a => [.array a]
  | .typeCheckedBit => [.typeChecked flag]
  | .setTypeChecked _ => []

def code (flag : Bool) : WriteOp mode → List Bool
  | .value v => v.code mode flag
  | .array a => a.code
  | .typeCheckedBit => [flag]
  | .setTypeChecked _ => []

end WriteOp

def ReadOp.read {mode : StreamMode} : ReadOp mode → ReadM (List Item)
  | .value k => do
    let v ← k.read
    pure [.value v]
  | .array k => do
    let a ← k.read
    pure [.array a]
  | .typeCheckedBit => do
    BdReader.readTypeCheckedBit
    let r ← get
    pure [.typeChecked r.typeChecked]
  | .setTypeChecked typeChecked => do
    BdReader.setTypeChecked typeChecked
    pure []

def readOps {mode : StreamMode} : List (ReadOp mode) → ReadM (List Item)
  | [] => pure []
  | op :: ops => do
    let item ← op.read
    let rest ← readOps ops
    pure (item ++ rest)

def encode (front : List (WriteOp .byteMode)) (back : List (WriteOp .bitMode)) : WriteM Unit := do
  Wire.writeEach WriteOp.write front
  BdWriter.setMode .bitMode
  Wire.writeEach WriteOp.write back
  BdWriter.flush

def decode (front : List (ReadOp .byteMode)) (back : List (ReadOp .bitMode)) :
    ReadM (List Item) := do
  let items ← readOps front
  BdReader.setMode .bitMode
  let rest ← readOps back
  pure (items ++ rest)

def flagAfterAll {mode : StreamMode} (flag : Bool) (ops : List (WriteOp mode)) : Bool :=
  ops.foldl WriteOp.flagAfter flag

def writtenAll {mode : StreamMode} (flag : Bool) : List (WriteOp mode) → List Item
  | [] => []
  | op :: ops => op.written flag ++ writtenAll (op.flagAfter flag) ops

def codeAll {mode : StreamMode} (flag : Bool) : List (WriteOp mode) → List Bool
  | [] => []
  | op :: ops => op.code flag ++ codeAll (op.flagAfter flag) ops

section Operations

variable {mode : StreamMode} {typeChecked : Bool}

open BdWriter (Writes) in
theorem Value.writes (v : Value) : Writes mode typeChecked v.write (v.code mode typeChecked) () := by
  cases v with
  | bool value => exact writes_bool value
  | str value => exact writes_str value
  | blob value => exact writes_blob value
  | bytes value => exact writes_bytes value
  | _ => exact writes_scalar _ _ _

open BdReader (Reads) in
theorem Value.reads {v : Value} (fits : v.Fits) :
    Reads mode typeChecked v.kind.read (v.code mode typeChecked) v := by
  cases v with
  | bool value => exact Wire.accepts_map _ (reads_bool value)
  | str value => exact Wire.accepts_map _ (reads_str fits)
  | blob value => exact Wire.accepts_map _ (reads_blob fits)
  | bytes value => exact Wire.accepts_map _ (reads_bytes value)
  | _ => exact Wire.accepts_map _ (reads_scalar (by decide) _ _)

open BdWriter (Writes) in
theorem ArrayValue.writes (a : ArrayValue) : Writes .byteMode typeChecked a.write a.code () := by
  cases a <;> exact writes_array _ _ _

open BdReader (Reads) in
theorem ArrayValue.reads {a : ArrayValue} (fits : a.Fits) :
    Reads .byteMode typeChecked a.kind.read a.code a := by
  cases a with
  | str value =>
    exact Wire.accepts_map _ (reads_array _ fits.1 fun el member => reads_strElement (fits.2 el member))
  | _ =>
    exact Wire.accepts_map _ (reads_array _ fits fun el _ => reads_elementOf _ el)

theorem WriteOp.writes (op : WriteOp mode) (w : BdWriter) (ready : w.Ready mode typeChecked) :
    ∃ t, exec op.write w = (.ok (), t) ∧ t.Ready mode (op.flagAfter typeChecked)
      ∧ t.bits = w.bits ++ op.code typeChecked := by
  cases op with
  | value v => exact v.writes w ready
  | array a => exact a.writes w ready
  | typeCheckedBit => exact writes_typeCheckedBit w ready
  | setTypeChecked now =>
    obtain ⟨ran, fine, same⟩ := BdWriter.writes_setTypeChecked mode typeChecked now w ready
    exact ⟨_, ran, fine, by simpa [code] using same⟩

theorem WriteOp.reads {op : WriteOp mode} (fits : op.Fits) (r : BdReader) (rest : List Bool)
    (ready : r.Ready mode typeChecked) (starts : r.bits = op.code typeChecked ++ rest) :
    ∃ t, exec op.matching.read r = (.ok (op.written typeChecked), t)
      ∧ t.Ready mode (op.flagAfter typeChecked) ∧ t.bits = rest := by
  cases op with
  | value v =>
    obtain ⟨t, ran, fine, left⟩ := Value.reads fits r rest ready starts
    exact ⟨t, by rw [matching, ReadOp.read, exec_bind_ok _ ran]; rfl, fine, left⟩
  | array a =>
    obtain ⟨t, ran, fine, left⟩ := ArrayValue.reads fits r rest ready starts
    exact ⟨t, by rw [matching, ReadOp.read, exec_bind_ok _ ran]; rfl, fine, left⟩
  | typeCheckedBit =>
    obtain ⟨t, ran, fine, left⟩ := reads_typeCheckedBit r typeChecked rest ready starts
    refine ⟨t, ?_, fine, left⟩
    rw [matching, ReadOp.read, exec_bind_ok _ ran, exec_bind_ok _ (exec_get t), fine.checked]
    rfl
  | setTypeChecked now =>
    exact ⟨{ r with typeChecked := now }, rfl,
      ⟨ready.inMode, rfl, ready.uncached, ready.positive, ready.offset, ready.aligned⟩, starts⟩

theorem writes_ops (ops : List (WriteOp mode)) :
    ∀ (flag : Bool) (w : BdWriter), w.Ready mode flag →
      ∃ t, exec (Wire.writeEach WriteOp.write ops) w = (.ok (), t)
        ∧ t.Ready mode (flagAfterAll flag ops) ∧ t.bits = w.bits ++ codeAll flag ops := by
  induction ops with
  | nil =>
    intro flag w ready
    exact ⟨w, rfl, ready, by simp [codeAll]⟩
  | cons op ops ih =>
    intro flag w ready
    obtain ⟨middle, ran, fine, wrote⟩ := op.writes w ready
    obtain ⟨last, ranRest, fineRest, wroteRest⟩ := ih (op.flagAfter flag) middle fine
    refine ⟨last, ?_, fineRest, ?_⟩
    · rw [Wire.writeEach, exec_bind_ok _ ran, ranRest]
    · rw [wroteRest, wrote, codeAll, List.append_assoc]

theorem reads_ops {ops : List (WriteOp mode)} (fits : ∀ op ∈ ops, op.Fits) :
    ∀ (flag : Bool) (r : BdReader) (rest : List Bool), r.Ready mode flag →
      r.bits = codeAll flag ops ++ rest →
      ∃ t, exec (readOps (ops.map WriteOp.matching)) r = (.ok (writtenAll flag ops), t)
        ∧ t.Ready mode (flagAfterAll flag ops) ∧ t.bits = rest := by
  induction ops with
  | nil =>
    intro flag r rest ready starts
    exact ⟨r, rfl, ready, starts⟩
  | cons op ops ih =>
    intro flag r rest ready starts
    rw [codeAll, List.append_assoc] at starts
    obtain ⟨middle, ran, fine, left⟩ :=
      WriteOp.reads (fits op List.mem_cons_self) r _ ready starts
    obtain ⟨last, ranRest, fineRest, leftRest⟩ :=
      ih (fun o member => fits o (List.mem_cons_of_mem op member)) _ middle rest fine left
    refine ⟨last, ?_, fineRest, leftRest⟩
    rw [List.map_cons, readOps, exec_bind_ok _ ran, exec_bind_ok _ ranRest]
    rfl

end Operations

theorem encode_bits (front : List (WriteOp .byteMode)) (back : List (WriteOp .bitMode)) :
    ∃ w n, exec (encode front back) BdWriter.new = (.ok (), w) ∧ n < 8
      ∧ ofBytes w.out = codeAll false front ++ codeAll (flagAfterAll false front) back
        ++ List.replicate n false := by
  obtain ⟨first, ranFirst, readyFirst, bitsFirst⟩ :=
    writes_ops front false BdWriter.new BdWriter.ready_new
  obtain ⟨second, ranSecond, readySecond, bitsSecond⟩ :=
    writes_ops back _ _ (BdWriter.ready_setMode readyFirst)
  obtain ⟨last, flushed, n, few, filled⟩ := BdWriter.exec_flush readySecond
  refine ⟨last, n, ?_, few, ?_⟩
  · have switched : exec (BdWriter.setMode .bitMode) first
        = (.ok (), { first with mode := .bitMode }) := rfl
    rw [encode, exec_bind_ok _ ranFirst, exec_bind_ok _ switched, exec_bind_ok _ ranSecond, flushed]
  · have start : BdWriter.bits { first with mode := .bitMode } = codeAll false front := bitsFirst
    rw [filled, bitsSecond, start]

theorem BdReader.ready_new (buf : List UInt8) : (BdReader.new buf).Ready .byteMode false :=
  ⟨rfl, rfl, rfl, Nat.zero_lt_succ 7, Nat.le_refl 8, fun _ => rfl⟩

theorem BdReader.ready_setMode {typeChecked : Bool} {r : BdReader}
    (ready : r.Ready .byteMode typeChecked) :
    BdReader.Ready .bitMode typeChecked { r with mode := .bitMode } :=
  ⟨rfl, ready.checked, ready.uncached, ready.positive, ready.offset, by simp⟩

theorem BdReader.exec_remainingBits {typeChecked : Bool} {r : BdReader}
    (ready : r.Ready .bitMode typeChecked) :
    exec BdReader.remainingBits r = (.ok r.bits.length, r) :=
  BdReader.exec_remainingBits_of_le ready.inMode ready.offset

/-- Reading with the matching calls gives back every written value and leaves only zero bits. -/
theorem decode_encode (front : List (WriteOp .byteMode)) (back : List (WriteOp .bitMode))
    (frontFits : ∀ op ∈ front, op.Fits) (backFits : ∀ op ∈ back, op.Fits) :
    ∃ w r n, exec (encode front back) BdWriter.new = (.ok (), w)
      ∧ exec (decode (front.map WriteOp.matching) (back.map WriteOp.matching)) (BdReader.new w.out)
        = (.ok (writtenAll false front ++ writtenAll (flagAfterAll false front) back), r)
      ∧ n < 8 ∧ exec BdReader.remainingBits r = (.ok n, r) ∧ r.bits = List.replicate n false := by
  obtain ⟨w, n, ran, few, bytes⟩ := encode_bits front back
  have start : (BdReader.new w.out).bits = codeAll false front
      ++ (codeAll (flagAfterAll false front) back ++ List.replicate n false) := by
    rw [BdReader.bits_whole rfl, ← List.append_assoc]
    exact bytes
  obtain ⟨first, ranFirst, readyFirst, leftFirst⟩ :=
    reads_ops frontFits false _ _ (BdReader.ready_new w.out) start
  have readySwitched := BdReader.ready_setMode readyFirst
  have leftSwitched : BdReader.bits { first with mode := .bitMode }
      = codeAll (flagAfterAll false front) back ++ List.replicate n false := leftFirst
  obtain ⟨last, ranLast, readyLast, leftLast⟩ :=
    reads_ops backFits _ _ _ readySwitched leftSwitched
  refine ⟨w, last, n, ran, ?_, few, ?_, leftLast⟩
  · have switched : exec (BdReader.setMode .bitMode) first
        = (.ok (), { first with mode := .bitMode }) := rfl
    rw [decode, exec_bind_ok _ ranFirst, exec_bind_ok _ switched, exec_bind_ok _ ranLast]
    rfl
  · rw [BdReader.exec_remainingBits readyLast, leftLast, List.length_replicate]

theorem decode_encode_mixed :
    ∃ w r n, exec (encode
        [.setTypeChecked true, .value (.str "obe"), .array (.u32 [2010, 18409])]
        [.typeCheckedBit, .value (.bool true), .setTypeChecked false, .value (.i16 (-2))])
        BdWriter.new = (.ok (), w)
      ∧ exec (decode [.setTypeChecked true, .value .str, .array .u32]
          [.typeCheckedBit, .value .bool, .setTypeChecked false, .value .i16]) (BdReader.new w.out)
        = (.ok [.value (.str "obe"), .array (.u32 [2010, 18409]), .typeChecked true,
            .value (.bool true), .value (.i16 (-2))], r)
      ∧ n < 8 ∧ exec BdReader.remainingBits r = (.ok n, r) ∧ r.bits = List.replicate n false :=
  decode_encode
    [.setTypeChecked true, .value (.str "obe"), .array (.u32 [2010, 18409])]
    [.typeCheckedBit, .value (.bool true), .setTypeChecked false, .value (.i16 (-2))]
    (by simp [WriteOp.Fits, Value.Fits, ArrayValue.Fits])
    (by simp [WriteOp.Fits, Value.Fits])

end BitDemon
