import BitDemon.Domain
import BitDemon.Library.Machine
import BitDemon.Library.Bits

set_option autoImplicit false

namespace BitDemon

inductive StreamMode where
  | byteMode | bitMode
  deriving DecidableEq, Repr

inductive BdDataType where
  | noType | boolType | signedChar8Type | unsignedChar8Type | wChar16Type
  | signedInteger16Type | unsignedInteger16Type | signedInteger32Type | unsignedInteger32Type
  | signedInteger64Type | unsignedInteger64Type | rangedSignedInteger32Type
  | rangedUnsignedInteger32Type | float32Type | float64Type | rangedFloat32Type
  | signedChar8StringType | unsignedChar8StringType | mbStringType | blobType | nanType
  | fullType | maxType
  deriving DecidableEq, Repr

def BdDataType.toU8 : BdDataType → UInt8
  | .noType => 0x0
  | .boolType => 0x1
  | .signedChar8Type => 0x2
  | .unsignedChar8Type => 0x3
  | .wChar16Type => 0x4
  | .signedInteger16Type => 0x5
  | .unsignedInteger16Type => 0x6
  | .signedInteger32Type => 0x7
  | .unsignedInteger32Type => 0x8
  | .signedInteger64Type => 0x9
  | .unsignedInteger64Type => 0xA
  | .rangedSignedInteger32Type => 0xB
  | .rangedUnsignedInteger32Type => 0xC
  | .float32Type => 0xD
  | .float64Type => 0xE
  | .rangedFloat32Type => 0xF
  | .signedChar8StringType => 0x10
  | .unsignedChar8StringType => 0x11
  | .mbStringType => 0x12
  | .blobType => 0x13
  | .nanType => 0x14
  | .fullType => 0x15
  | .maxType => 0x20

def BdDataType.all : List BdDataType :=
  [.noType, .boolType, .signedChar8Type, .unsignedChar8Type, .wChar16Type,
    .signedInteger16Type, .unsignedInteger16Type, .signedInteger32Type, .unsignedInteger32Type,
    .signedInteger64Type, .unsignedInteger64Type, .rangedSignedInteger32Type,
    .rangedUnsignedInteger32Type, .float32Type, .float64Type, .rangedFloat32Type,
    .signedChar8StringType, .unsignedChar8StringType, .mbStringType, .blobType, .nanType,
    .fullType, .maxType]

def BdDataType.fromU8 (value : UInt8) : Option BdDataType :=
  BdDataType.all.find? (fun dataType => dataType.toU8 == value)

structure BufferDataType where
  primitiveType : BdDataType
  isArray : Bool
  deriving DecidableEq, Repr

inductive BdError where
  | unexpectedDataType (expectedType actualType : BufferDataType)
  | readerMode (expectedMode actualMode : StreamMode)
  | unexpectedEndOfMessage
  | writerMode (expectedMode actualMode : StreamMode)
  | illegalDataType (value : UInt8)
  | unexpectedEof
  | invalidUtf8
  | illegalServiceId (serviceIdInput : UInt8)
  | invalidOrderType (value : UInt8)
  | malformedAdvertisement (address host key : Nat)
  | unknownTitle (titleId : UInt32)
  | invalidTitle (specifiedTitle authenticatedTitle : Title)
  | authenticationExpired (expires now : Int)
  | unknownKey
  | usernameTooLong (nameLen : Nat)
  | bufferSize
  | requestDataTooLong (dataLen : Nat)
  | signatureMismatch (actual expected : UInt32)
  | unexpectedSecretLength (actual expected : Nat)
  | usernameInvalidLength (actual expected : Nat)
  | noSessionKey
  | truncatedMessage (len : Nat)
  | invalidHmac (expected actual : UInt32)
  | decryption
  | illegalMessageType (messageTypeInput : UInt8)
  | writeFailed
  | invalidVote (value : UInt8)
  | invalidUpdateType (value : UInt8)
  deriving DecidableEq, Repr

inductive Panic where
  | indexOutOfBounds | subtractWithOverflow | shiftWithOverflow | bufferDoesNotFit
  | unwrapOnNone | unwrapOnError | loopDoesNotEnd | addWithOverflow
  deriving DecidableEq, Repr

/-- A call ends in an error it returns or in a panic that unwinds through its callers. -/
inductive Fault where
  | error (e : BdError)
  | panic (p : Panic)
  deriving DecidableEq, Repr

abbrev Fallible (σ α : Type) := Machine Fault σ α

section Checked

variable {σ α : Type}

def fail (e : BdError) : Fallible σ α := throw (.error e)

def panicWith (p : Panic) : Fallible σ α := throw (.panic p)

def ensure (condition : Bool) (e : BdError) : Fallible σ Unit :=
  if condition then pure () else fail e

def okOr (value : Option α) (e : BdError) : Fallible σ α :=
  match value with
  | some a => pure a
  | none => fail e

-- `Option::unwrap` and `Option::expect`
def unwrap (value : Option α) : Fallible σ α :=
  match value with
  | some a => pure a
  | none => panicWith .unwrapOnNone

-- `Result::expect`
def expect (result : Except BdError α) : Fallible σ α :=
  match result with
  | .ok a => pure a
  | .error _ => panicWith .unwrapOnError

/-- `a - b` on `usize`. -/
def usizeSub (a b : Nat) : Fallible σ Nat :=
  if b ≤ a then pure (a - b) else panicWith .subtractWithOverflow

/-- `value << amount` on `u8`. -/
def u8Shl (value : UInt8) (amount : Nat) : Fallible σ UInt8 :=
  if amount < 8 then pure ⟨value.toBitVec <<< amount⟩ else panicWith .shiftWithOverflow

/-- `value >> amount` on `u8`. -/
def u8Shr (value : UInt8) (amount : Nat) : Fallible σ UInt8 :=
  if amount < 8 then pure ⟨value.toBitVec >>> amount⟩ else panicWith .shiftWithOverflow

def index (buf : List UInt8) (i : Nat) : Fallible σ UInt8 :=
  match buf[i]? with
  | some b => pure b
  | none => panicWith .indexOutOfBounds

/-- `&buf[first..last]`. -/
def slice (buf : List UInt8) (first last : Nat) : Fallible σ (List UInt8) :=
  if first ≤ last ∧ last ≤ buf.length then pure ((buf.take last).drop first)
  else panicWith .indexOutOfBounds

theorem usizeSub_of_le {a b : Nat} (enough : b ≤ a) :
    (usizeSub a b : Fallible σ Nat) = pure (a - b) := if_pos enough

theorem u8Shl_of_lt {value : UInt8} {amount : Nat} (small : amount < 8) :
    (u8Shl value amount : Fallible σ UInt8) = pure ⟨value.toBitVec <<< amount⟩ := if_pos small

theorem u8Shr_of_lt {value : UInt8} {amount : Nat} (small : amount < 8) :
    (u8Shr value amount : Fallible σ UInt8) = pure ⟨value.toBitVec >>> amount⟩ := if_pos small

theorem index_of_lt {buf : List UInt8} {i : Nat} (inside : i < buf.length) :
    (index buf i : Fallible σ UInt8) = pure buf[i] := by
  simp [index, inside]

@[simp] theorem ensure_true (e : BdError) : (ensure true e : Fallible σ Unit) = pure () := rfl

@[simp] theorem unwrap_some (a : α) : (unwrap (some a) : Fallible σ α) = pure a := rfl

@[simp] theorem okOr_some (a : α) (e : BdError) : (okOr (some a) e : Fallible σ α) = pure a := rfl

end Checked

namespace BufferDataType

def noArray (primitiveType : BdDataType) : BufferDataType := ⟨primitiveType, false⟩

def array (primitiveType : BdDataType) : BufferDataType := ⟨primitiveType, true⟩

def eqNonArray (dataType : BufferDataType) (primitiveType : BdDataType) : Bool :=
  !dataType.isArray && dataType.primitiveType == primitiveType

def eqArray (dataType : BufferDataType) (primitiveType : BdDataType) : Bool :=
  dataType.isArray && dataType.primitiveType == primitiveType

def arrayTypeOffset : UInt8 := 100

def fromValue {σ : Type} (value : UInt8) : Fallible σ BufferDataType :=
  let isArray := arrayTypeOffset ≤ value
  let nonArrayValue := if isArray then value - arrayTypeOffset else value
  match BdDataType.fromU8 nonArrayValue with
  | some primitiveType => pure ⟨primitiveType, isArray⟩
  | none => fail (.illegalDataType value)

def toValue (dataType : BufferDataType) : UInt8 :=
  let value := dataType.primitiveType.toU8
  if dataType.isArray then value + arrayTypeOffset else value

@[simp] theorem fromValue_toValue {σ : Type} (dataType : BufferDataType) :
    (fromValue dataType.toValue : Fallible σ BufferDataType) = pure dataType := by
  rcases dataType with ⟨primitiveType, isArray⟩
  cases primitiveType <;> cases isArray <;> rfl

theorem toValue_noArray_lt (primitiveType : BdDataType) (common : primitiveType ≠ .maxType) :
    (noArray primitiveType).toValue.toNat < 2 ^ 5 := by
  cases primitiveType <;> first | decide | contradiction

@[simp] theorem eqNonArray_noArray (a b : BdDataType) :
    (noArray a).eqNonArray b = decide (a = b) := by
  simp [eqNonArray, noArray]
  rfl

@[simp] theorem eqArray_array (a b : BdDataType) : (array a).eqArray b = decide (a = b) := by
  simp [eqArray, array]
  rfl

end BufferDataType

end BitDemon
