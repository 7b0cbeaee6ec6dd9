import BitDemon.Messaging.Writer
import BitDemon.Messaging.Reader

set_option autoImplicit false

/-!
# The bdBuffer format

The code of a value is the stretch of bits it takes in the stream. The writer
emits it and the reader accepts it, whatever comes before and after.
-/

namespace BitDemon

open Machine Bits BdWriter BdReader

namespace Format

def dataTypeCode (mode : StreamMode) (dataType : BufferDataType) : List Bool :=
  match mode with
  | .byteMode => ofByte dataType.toValue
  | .bitMode => (ofByte dataType.toValue).take 5

def tagCode (mode : StreamMode) (typeChecked : Bool) (dataType : BdDataType) : List Bool :=
  if typeChecked then dataTypeCode mode (.noArray dataType) else []

def scalarCode {α : Type} (mode : StreamMode) (typeChecked : Bool) (dataType : BdDataType)
    (c : LeCodec α) (value : α) : List Bool :=
  tagCode mode typeChecked dataType ++ ofBytes (c.toLeBytes value)

def boolCode (mode : StreamMode) (typeChecked value : Bool) : List Bool :=
  tagCode mode typeChecked .boolType ++
    match mode with
    | .byteMode => ofByte (if value then 1 else 0)
    | .bitMode => [value]

def strCode (mode : StreamMode) (typeChecked : Bool) (value : String) : List Bool :=
  tagCode mode typeChecked .signedChar8StringType ++ ofBytes (Utf8.encode value ++ [0])

def blobCode (mode : StreamMode) (typeChecked : Bool) (value : List UInt8) : List Bool :=
  tagCode mode typeChecked .blobType ++
    (scalarCode mode typeChecked .unsignedInteger32Type .u32 (UInt32.ofNat value.length) ++
      ofBytes value)

def numElementsCode (numElements : Nat) : List Bool :=
  dataTypeCode .byteMode (.noArray .unsignedInteger32Type) ++
    (ofBytes (LeCodec.u32.toLeBytes 0) ++
      ofBytes (LeCodec.u32.toLeBytes (UInt32.ofNat numElements)))

def arrayCode {α : Type} (dataType : BdDataType) (element : α → List UInt8) (value : List α) :
    List Bool :=
  dataTypeCode .byteMode (.array dataType) ++
    (numElementsCode value.length ++ value.flatMap fun el => ofBytes (element el))

section Writing

variable {mode : StreamMode} {typeChecked : Bool}

theorem writes_dataType (dataType : BufferDataType) :
    Writes mode typeChecked (writeDataType dataType) (dataTypeCode mode dataType) () := by
  refine Wire.emits_get_bind fun w ready => ?_
  rw [ready.inMode]
  cases mode with
  | byteMode =>
    have wrote : Writes .byteMode typeChecked _ _ () := writes_cursorWriteAll [dataType.toValue]
    simpa [dataTypeCode] using wrote
  | bitMode =>
    have wrote : Writes .bitMode typeChecked (writeBits [dataType.toValue] 5) _ () :=
      writes_writeBits (by simp)
    simpa [dataTypeCode] using wrote

theorem writes_typeTag (dataType : BdDataType) :
    Writes mode typeChecked (writeTypeTag dataType) (tagCode mode typeChecked dataType) () := by
  refine Wire.emits_get_bind fun w ready => ?_
  rw [ready.checked]
  cases typeChecked with
  | true => exact writes_dataType _
  | false => exact Wire.emits_pure ()

theorem writes_payload (bytes : List UInt8) (count : Nat) (whole : count = bytes.length * 8) :
    Writes mode typeChecked
      (get >>= fun w => if w.mode = .byteMode then cursorWriteAll bytes else writeBits bytes count)
      (ofBytes bytes) () := by
  refine Wire.emits_get_bind fun w ready => ?_
  rw [ready.inMode]
  cases mode with
  | byteMode => exact writes_cursorWriteAll bytes
  | bitMode => exact writes_writeBits_whole whole

theorem writes_scalar {α : Type} (dataType : BdDataType) (c : LeCodec α) (value : α) :
    Writes mode typeChecked (writeScalar dataType c value)
      (scalarCode mode typeChecked dataType c value) () :=
  Wire.emits_bind (writes_typeTag dataType) (writes_payload _ _ (by simp))

theorem writes_bool (value : Bool) :
    Writes mode typeChecked (writeBool value) (boolCode mode typeChecked value) () := by
  refine Wire.emits_bind (writes_typeTag _) (Wire.emits_get_bind fun w ready => ?_)
  rw [ready.inMode]
  cases mode with
  | byteMode =>
    have wrote : Writes .byteMode typeChecked _ _ () :=
      writes_cursorWriteAll [if value then 1 else 0]
    simpa using wrote
  | bitMode =>
    have wrote : Writes .bitMode typeChecked (writeBits (if value then [0x01] else [0x00]) 1) _ () :=
      writes_writeBits (by cases value <;> simp)
    have first : (ofBytes (if value then [0x01] else [0x00])).take 1 = [value] := by
      cases value <;> rfl
    rwa [first] at wrote

theorem writes_str (value : String) :
    Writes mode typeChecked (writeStr value) (strCode mode typeChecked value) () := by
  refine Wire.emits_bind (writes_typeTag _) (Wire.emits_get_bind fun w ready => ?_)
  rw [ready.inMode, ofBytes_append]
  cases mode with
  | byteMode => exact Wire.emits_bind (writes_cursorWriteAll _) (writes_cursorWriteAll _)
  | bitMode =>
    exact Wire.emits_bind (writes_writeBits_whole rfl) (writes_writeBits_whole (by simp))

theorem writes_blob (value : List UInt8) :
    Writes mode typeChecked (writeBlob value) (blobCode mode typeChecked value) () := by
  refine Wire.emits_bind (writes_typeTag _) (Wire.emits_bind (writes_scalar _ _ _) ?_)
  refine Wire.emits_get_bind fun w ready => ?_
  rw [ready.inMode]
  cases mode with
  | byteMode => exact writes_cursorWriteAll _
  | bitMode => exact writes_writeBits_whole rfl

theorem writes_bytes (buffer : List UInt8) :
    Writes mode typeChecked (BdWriter.writeBytes buffer) (ofBytes buffer) () := by
  refine Wire.emits_get_bind fun w ready => ?_
  rw [ready.inMode]
  cases mode with
  | byteMode => exact writes_cursorWriteAll _
  | bitMode => exact writes_writeBits_whole rfl

theorem writes_typeCheckedBit :
    Writes .bitMode typeChecked writeTypeCheckedBit [typeChecked] () := by
  refine Wire.emits_guard BdWriter.ensureMode_bitMode ?_
  refine Wire.emits_get_bind fun w ready => ?_
  rw [ready.checked]
  have wrote : Writes .bitMode typeChecked (writeBits (if typeChecked then [0x01] else [0x00]) 1)
      _ () := writes_writeBits (by cases typeChecked <;> simp)
  have first : (ofBytes (if typeChecked then [0x01] else [0x00])).take 1 = [typeChecked] := by
    cases typeChecked <;> rfl
  rwa [first] at wrote

theorem writes_array {α : Type} (dataType : BdDataType) (element : α → List UInt8)
    (value : List α) :
    Writes .byteMode typeChecked (writeArray dataType element value)
      (arrayCode dataType element value) () := by
  have guarded : Writes .byteMode typeChecked (BdWriter.ensureMode .byteMode) [] () := by
    refine Wire.emits_get_bind fun w ready => ?_
    rw [ready.inMode]
    exact Wire.emits_pure ()
  have counted : Writes .byteMode typeChecked (writeArrayNumElements value.length)
      (numElementsCode value.length) () :=
    Wire.emits_bind (writes_dataType _)
      (Wire.emits_bind (writes_cursorWriteAll _) (writes_cursorWriteAll _))
  have each : Writes .byteMode typeChecked
      (Wire.writeEach (fun el => cursorWriteAll (element el)) value)
      (value.flatMap fun el => ofBytes (element el)) () :=
    Wire.emits_writeEach value fun el _ => writes_cursorWriteAll _
  exact Wire.emits_guard guarded
    (Wire.emits_bind (writes_dataType _) (Wire.emits_bind counted each))

end Writing

section Reading

variable {mode : StreamMode} {typeChecked : Bool}

/-- Five bits are enough for every tag outside an array. -/
def Tag (mode : StreamMode) (dataType : BufferDataType) : Prop :=
  mode = .bitMode → dataType.toValue.toNat < 2 ^ 5

theorem tag_byteMode (dataType : BufferDataType) : Tag .byteMode dataType := by
  intro bit
  cases bit

theorem tag_noArray {dataType : BdDataType} (common : dataType ≠ .maxType) :
    Tag mode (.noArray dataType) :=
  fun _ => BufferDataType.toValue_noArray_lt dataType common

theorem reads_fromValue (dataType : BufferDataType) :
    Reads mode typeChecked (BufferDataType.fromValue dataType.toValue) [] dataType := by
  rw [BufferDataType.fromValue_toValue]
  exact Wire.accepts_pure dataType

theorem reads_dataType {dataType : BufferDataType} (tag : Tag mode dataType) :
    Reads mode typeChecked readDataType (dataTypeCode mode dataType) dataType := by
  refine Wire.accepts_get_bind fun r ready => ?_
  rw [ready.inMode, ready.uncached]
  cases mode with
  | byteMode => exact Wire.accepts_finish (reads_cursorReadU8 _) (reads_fromValue dataType)
  | bitMode =>
    have five : (dataTypeCode .bitMode dataType).length = 5 := by simp [dataTypeCode]
    have some : dataTypeCode .bitMode dataType ≠ [] := by
      intro none
      simp [none] at five
    have read : Reads .bitMode typeChecked _ (dataTypeCode .bitMode dataType) _ :=
      reads_readBits_few some (by omega)
    rw [five] at read
    have low : Below dataType.toValue 5 := below_of_lt (tag rfl)
    have packed : packByte (dataTypeCode .bitMode dataType) = dataType.toValue := by
      rw [dataTypeCode, packByte_take low (by omega)]
    rw [packed] at read
    exact Wire.accepts_finish read (reads_fromValue dataType)

theorem reads_expectNonArray {expected : BdDataType} (common : expected ≠ .maxType) :
    Reads mode typeChecked (expectNonArray expected) (dataTypeCode mode (.noArray expected)) () := by
  refine Wire.accepts_finish (reads_dataType (tag_noArray common)) ?_
  rw [BufferDataType.eqNonArray_noArray, decide_eq_true rfl]
  exact Wire.accepts_pure ()

theorem reads_expectArray (expected : BdDataType) :
    Reads .byteMode typeChecked (expectArray expected)
      (dataTypeCode .byteMode (.array expected)) () := by
  refine Wire.accepts_finish (reads_dataType (tag_byteMode _)) ?_
  rw [BufferDataType.eqArray_array, decide_eq_true rfl]
  exact Wire.accepts_pure ()

theorem reads_typeTag {expected : BdDataType} (common : expected ≠ .maxType) :
    Reads mode typeChecked (readTypeTag expected) (tagCode mode typeChecked expected) () := by
  refine Wire.accepts_get_bind fun r ready => ?_
  rw [ready.checked]
  cases typeChecked with
  | true => exact reads_expectNonArray common
  | false => exact Wire.accepts_pure ()

theorem reads_scalarBytes {α : Type} (c : LeCodec α) (value : α) :
    Reads mode typeChecked (get >>= fun r => if r.mode = .byteMode then do
        let bytes ← cursorReadExact c.size
        pure (c.fromLeBytes bytes)
      else do
        let bytes ← readBits (zeros c.size) (c.size * 8)
        pure (c.fromLeBytes bytes)) (ofBytes (c.toLeBytes value)) value := by
  have back : Reads mode typeChecked (pure (c.fromLeBytes (c.toLeBytes value))) [] value := by
    rw [c.fromLeBytes_toLeBytes]
    exact Wire.accepts_pure value
  have size := c.length_toLeBytes value
  refine Wire.accepts_get_bind fun r ready => ?_
  rw [ready.inMode]
  cases mode with
  | byteMode => exact Wire.accepts_finish (reads_cursorReadExact size) back
  | bitMode =>
    have read : Reads .bitMode typeChecked _ _ _ := reads_readBits_whole (c.toLeBytes value)
    rw [size] at read
    exact Wire.accepts_finish read back

theorem reads_scalar {α : Type} {dataType : BdDataType} (common : dataType ≠ .maxType)
    (c : LeCodec α) (value : α) :
    Reads mode typeChecked (readScalar dataType c) (scalarCode mode typeChecked dataType c value)
      value :=
  Wire.accepts_bind (reads_typeTag common) (reads_scalarBytes c value)

theorem reads_bool (value : Bool) :
    Reads mode typeChecked readBool (boolCode mode typeChecked value) value := by
  refine Wire.accepts_bind (reads_typeTag (by decide)) (Wire.accepts_get_bind fun r ready => ?_)
  rw [ready.inMode]
  cases mode with
  | byteMode =>
    refine Wire.accepts_finish (reads_cursorReadU8 _) ?_
    cases value <;> exact Wire.accepts_pure _
  | bitMode =>
    have read : Reads .bitMode typeChecked (readBits [0] 1) [value] _ :=
      reads_readBits_few (by simp) (by simp)
    refine Wire.accepts_finish read ?_
    cases value <;> exact Wire.accepts_pure _

theorem reads_typeCheckedBit (r : BdReader) (now : Bool) (rest : List Bool)
    (ready : BdReader.Ready .bitMode typeChecked r) (starts : r.bits = now :: rest) :
    ∃ t, exec readTypeCheckedBit r = (.ok (), t) ∧ BdReader.Ready .bitMode now t
      ∧ t.bits = rest := by
  have read : Reads .bitMode typeChecked (readBits [0] 1) [now] _ :=
    reads_readBits_few (by simp) (by simp)
  have guarded := Wire.accepts_bind BdReader.ensureMode_bitMode (f := fun _ => readBits [0] 1) read
  obtain ⟨t, ran, fine, left⟩ := guarded r rest ready starts
  have flag : decide (0 < packByte [now]) = now := by cases now <;> rfl
  refine ⟨{ t with typeChecked := now }, ?_, ?_, left⟩
  · have first : exec (BdReader.ensureMode .bitMode) r = (.ok (), r) := by
      simp [BdReader.ensureMode, exec_bind, ready.inMode]
    rw [exec_bind_ok _ first] at ran
    rw [readTypeCheckedBit, exec_bind_ok _ first, exec_bind_ok _ ran]
    rw [exec_bind_ok _ (show exec (index [packByte [now]] 0) t = (.ok (packByte [now]), t) from rfl),
      exec_modify, flag]
  · exact ⟨fine.inMode, rfl, fine.uncached, fine.positive, fine.offset, fine.aligned⟩

theorem reads_strLoop {bytes : List UInt8} (noZero : 0 ∉ bytes) :
    ∀ (turns : Nat) (buf : List UInt8), bytes.length < turns →
      Reads .bitMode typeChecked (readStrLoop turns buf) (ofBytes (bytes ++ [0])) (buf ++ bytes) := by
  have readByte (b : UInt8) :
      Reads .bitMode typeChecked (readBits [0] 8) (ofByte b) [b] := by
    have some : ofByte b ≠ [] := List.ne_nil_of_length_pos (by simp)
    have read : Reads .bitMode typeChecked _ (ofByte b) _ := reads_readBits_few some (by simp)
    rwa [packByte_ofByte, length_ofByte] at read
  induction bytes with
  | nil =>
    intro turns buf enough
    obtain ⟨more, rfl⟩ : ∃ more, turns = more + 1 := ⟨turns - 1, by simp at enough; omega⟩
    rw [readStrLoop, List.append_nil]
    exact Wire.accepts_bind (readByte 0) (Wire.accepts_pure buf)
  | cons b bytes ih =>
    intro turns buf enough
    obtain ⟨more, rfl⟩ : ∃ more, turns = more + 1 := ⟨turns - 1, by simp at enough; omega⟩
    have notZero : b ≠ 0 := fun zero => noZero (zero ▸ List.mem_cons_self)
    have rest := ih (fun zero => noZero (List.mem_cons_of_mem b zero)) more (buf ++ [b])
      (by simp at enough; omega)
    rw [readStrLoop]
    refine Wire.accepts_bind (readByte b) (Wire.accepts_guard (Wire.accepts_pure b) ?_)
    rw [if_neg notZero, List.append_cons buf b bytes]
    exact rest

theorem reads_fromUtf8 (value : String) :
    Reads mode typeChecked (fromUtf8 (Utf8.encode value)) [] value := by
  rw [fromUtf8, Utf8.decode?_encode]
  exact Wire.accepts_pure value

theorem reads_strElement {value : String} (noNul : '\x00' ∉ value.toList) :
    Reads .byteMode typeChecked strElement (ofBytes (Utf8.encode value ++ [0])) value := by
  refine Wire.accepts_finish (reads_cursorReadUntilZero (Utf8.zero_not_mem_encode noNul)) ?_
  rw [dropZero, List.dropLast_concat]
  exact reads_fromUtf8 value

theorem reads_str {value : String} (noNul : '\x00' ∉ value.toList) :
    Reads mode typeChecked readStr (strCode mode typeChecked value) value := by
  have noZero := Utf8.zero_not_mem_encode noNul
  refine Wire.accepts_bind (reads_typeTag (by decide)) ?_
  intro r rest ready starts
  rw [exec_bind_ok _ (exec_get r), ready.inMode]
  cases mode with
  | byteMode => exact reads_strElement noNul r rest ready starts
  | bitMode =>
    -- the terminated string is still unread, so the turns suffice
    have enough : (Utf8.encode value).length < r.cursor.length + 2 := by
      have total := congrArg List.length starts
      simp [BdReader.bits] at total
      omega
    have loop : Reads .bitMode typeChecked _ _ _ :=
      reads_strLoop noZero (r.cursor.length + 2) [] enough
    rw [List.nil_append] at loop
    exact Wire.accepts_finish loop (reads_fromUtf8 value) r rest ready starts

theorem toNat_ofNat_of_lt {n : Nat} (bound : n < 2 ^ 32) : (UInt32.ofNat n).toNat = n :=
  UInt32.toNat_ofNat_of_lt' bound

theorem reads_blob {value : List UInt8} (bound : value.length < 2 ^ 32) :
    Reads mode typeChecked readBlob (blobCode mode typeChecked value) value := by
  refine Wire.accepts_bind (reads_typeTag (by decide)) ?_
  refine Wire.accepts_bind (reads_scalar (by decide) .u32 (UInt32.ofNat value.length)) ?_
  refine Wire.accepts_get_bind fun r ready => ?_
  rw [ready.inMode, toNat_ofNat_of_lt bound]
  cases mode with
  | byteMode =>
    refine Wire.accepts_finish (reads_cursorRead value) ?_
    rw [beq_self_eq_true]
    exact Wire.accepts_pure value
  | bitMode => exact reads_readBits_whole value

theorem reads_bytes (buffer : List UInt8) :
    Reads mode typeChecked (BdReader.readBytes buffer.length) (ofBytes buffer) buffer := by
  refine Wire.accepts_get_bind fun r ready => ?_
  rw [ready.inMode]
  cases mode with
  | byteMode =>
    refine Wire.accepts_finish (reads_cursorRead buffer) ?_
    rw [beq_self_eq_true]
    exact Wire.accepts_pure buffer
  | bitMode => exact reads_readBits_whole buffer

theorem reads_numElements {n : Nat} (bound : n < 2 ^ 32) :
    Reads .byteMode typeChecked readArrayNumElements (numElementsCode n) n := by
  refine Wire.accepts_bind (reads_expectNonArray (by decide)) ?_
  refine Wire.accepts_bind (reads_cursorReadExact (by simp)) ?_
  refine Wire.accepts_finish (reads_cursorReadExact (by simp)) ?_
  rw [LeCodec.fromLeBytes_toLeBytes, toNat_ofNat_of_lt bound]
  exact Wire.accepts_pure n

theorem reads_array {α : Type} (dataType : BdDataType) {element : α → List UInt8}
    {read : ReadM α} {value : List α} (bound : value.length < 2 ^ 32)
    (each : ∀ el ∈ value, Reads .byteMode typeChecked read (ofBytes (element el)) el) :
    Reads .byteMode typeChecked (readArray dataType read) (arrayCode dataType element value)
      value :=
  Wire.accepts_guard BdReader.ensureMode_byteMode
    (Wire.accepts_bind (reads_expectArray dataType)
      (Wire.accepts_bind (reads_numElements bound) (Wire.accepts_readEach value each)))

theorem reads_elementOf {α : Type} (c : LeCodec α) (value : α) :
    Reads .byteMode typeChecked (elementOf c) (ofBytes (c.toLeBytes value)) value := by
  refine Wire.accepts_finish (reads_cursorReadExact (c.length_toLeBytes value)) ?_
  rw [c.fromLeBytes_toLeBytes]
  exact Wire.accepts_pure value

end Reading

end Format

end BitDemon
