import BitDemon.Messaging.StreamMode

set_option autoImplicit false

/-!
# Reads that never panic

Every index, shift and subtraction of a reader stays in its range as long as
`bitOffset` lies between one and eight, and every read keeps it there.
-/

namespace BitDemon

open Machine Bits

def Fault.isError : Fault → Bool
  | .error _ => true
  | .panic _ => false

/-- Whatever it fails with is an error that it returns. -/
abbrev Graceful {σ α : Type} (kept : σ → Prop) (m : Fallible σ α) : Prop :=
  Keeps kept (fun fault => fault.isError = true) m

section Checks

variable {σ α : Type} {kept : σ → Prop}

theorem graceful_fail (e : BdError) : Graceful kept (fail e : Fallible σ α) := keeps_throw rfl

theorem graceful_ensure (condition : Bool) (e : BdError) : Graceful kept (ensure condition e) :=
  keeps_ite (fun _ => keeps_pure ()) fun _ => graceful_fail e

theorem yields_ensure {condition : Bool} (e : BdError) :
    Yields kept (fun fault => fault.isError = true) (fun _ => condition = true)
      (ensure condition e : Fallible σ Unit) := by
  cases condition with
  | true => exact yields_pure rfl
  | false => exact yields_throw rfl

theorem graceful_okOr (value : Option α) (e : BdError) : Graceful kept (okOr value e) := by
  cases value with
  | none => exact graceful_fail e
  | some a => exact keeps_pure a

theorem graceful_index {buf : List UInt8} {i : Nat} (inside : i < buf.length) :
    Graceful kept (index buf i : Fallible σ UInt8) := by
  rw [index_of_lt inside]
  exact keeps_pure _

theorem yields_slice {buf : List UInt8} {first last : Nat} (ordered : first ≤ last)
    (inside : last ≤ buf.length) :
    Yields kept (fun fault => fault.isError = true) (fun taken => taken.length = last - first)
      (slice buf first last : Fallible σ (List UInt8)) := by
  rw [slice, if_pos ⟨ordered, inside⟩]
  refine yields_pure ?_
  rw [List.length_drop, List.length_take, Nat.min_eq_left inside]

theorem graceful_ofExcept {outcome : Except Fault α}
    (fine : ∀ fault, outcome = .error fault → fault.isError = true) :
    Graceful kept (MonadExcept.ofExcept outcome : Fallible σ α) := by
  intro s holds
  rw [exec_ofExcept]
  exact ⟨holds, fine⟩

end Checks

namespace BdReader

def Sound (r : BdReader) : Prop := 0 < r.bitOffset ∧ r.bitOffset ≤ 8

theorem sound_new (buf : List UInt8) : Sound (new buf) := ⟨Nat.zero_lt_succ 7, Nat.le_refl 8⟩

theorem yields_readBitsStep {bitsLeft : Nat} (some : 0 < bitsLeft) :
    Yields Sound (fun fault => fault.isError = true)
      (fun taken => taken.2 = bitsLeft - min bitsLeft 8) (readBitsStep bitsLeft) := by
  rintro r ⟨positive, offset⟩
  by_cases enough : min bitsLeft 8 ≤ r.bits.length
  next =>
    obtain ⟨_, _, _, ran, within, most, _⟩ := exec_readBitsStep positive offset some enough
    rw [ran]
    exact ⟨⟨within, most⟩, by simp, by simp⟩
  next =>
    have few : r.bits.length < 8 := by omega
    have short : r.bits.length < bitsLeft := by omega
    rw [exec_readBitsStep_short offset few short]
    exact ⟨⟨positive, offset⟩, by simp, by simp [Fault.isError]⟩

theorem yields_store {buf : List UInt8} {destOffset : Nat} (inside : destOffset < buf.length)
    (outByte : UInt8) :
    Yields Sound (fun fault => fault.isError = true) (fun stored => stored.length = buf.length)
      (store buf destOffset outByte) := by
  rw [store, if_pos inside]
  exact yields_pure List.length_set

theorem yields_readBitsLoop (turns : Nat) :
    ∀ (buf : List UInt8) (destOffset bitsLeft : Nat), bitsLeft ≤ turns →
      destOffset * 8 + bitsLeft ≤ buf.length * 8 →
      Yields Sound (fun fault => fault.isError = true) (fun read => read.length = buf.length)
        (readBitsLoop turns buf destOffset bitsLeft) := by
  induction turns with
  | zero =>
    intro buf destOffset bitsLeft enough fits
    rw [readBitsLoop, if_pos (Nat.le_zero.mp enough)]
    exact yields_pure rfl
  | succ turns ih =>
    intro buf destOffset bitsLeft enough fits
    rw [readBitsLoop]
    refine yields_ite (fun _ => yields_pure rfl) fun some => ?_
    refine yields_bind (yields_readBitsStep (Nat.pos_of_ne_zero some)) fun taken left => ?_
    refine yields_bind (yields_store (by omega : destOffset < buf.length) taken.1) ?_
    intro stored length
    rw [left]
    have later := ih stored (destOffset + 1) (bitsLeft - min bitsLeft 8) (by omega)
      (by rw [length]; omega)
    rwa [length] at later

theorem graceful_ensureMode (mode : StreamMode) : Graceful Sound (ensureMode mode) :=
  keeps_get_bind fun _ _ => graceful_ensure _ _

theorem yields_readBits {buf : List UInt8} {count : Nat} (fits : count ≤ buf.length * 8) :
    Yields Sound (fun fault => fault.isError = true) (fun read => read.length = buf.length)
      (readBits buf count) := by
  rw [readBits, if_neg (Nat.not_lt.mpr fits)]
  refine yields_bind (graceful_ensureMode _).yields fun _ _ => ?_
  exact yields_readBitsLoop count buf 0 count (Nat.le_refl _) (by omega)

theorem graceful_cursorReadExact (n : Nat) : Graceful Sound (cursorReadExact n) := by
  refine keeps_get_bind fun r sound => keeps_ite (fun _ => ?_) fun _ => ?_
  · exact keeps_bind (keeps_set sound) fun _ => keeps_pure _
  · exact keeps_bind (keeps_set sound) fun _ => graceful_fail _

theorem yields_cursorReadExact (n : Nat) :
    Yields Sound (fun fault => fault.isError = true) (fun bytes => bytes.length = n)
      (cursorReadExact n) := by
  refine yields_get_bind fun r sound => yields_ite (fun enough => ?_) fun _ => ?_
  · refine yields_bind (keeps_set sound).yields fun _ _ => yields_pure ?_
    rw [List.length_take]
    exact Nat.min_eq_left enough
  · exact yields_bind (keeps_set sound).yields fun _ _ => yields_throw rfl

theorem graceful_cursorRead (n : Nat) : Graceful Sound (cursorRead n) :=
  keeps_get_bind fun _ sound => keeps_bind (keeps_set sound) fun _ => keeps_pure _

theorem graceful_cursorReadUntilZero : Graceful Sound cursorReadUntilZero :=
  keeps_get_bind fun _ sound => keeps_bind (keeps_set sound) fun _ => keeps_pure _

theorem graceful_cursorReadU8 : Graceful Sound cursorReadU8 :=
  keeps_bind_yields (yields_cursorReadExact 1) fun bytes length =>
    graceful_index (by rw [length]; decide)

theorem graceful_fromValue (value : UInt8) : Graceful Sound (BufferDataType.fromValue value) := by
  rw [BufferDataType.fromValue]
  split
  next => exact keeps_pure _
  next => exact graceful_fail _

theorem graceful_readOne {α : Type} {count : Nat} (few : count ≤ 8) {f : UInt8 → ReadM α}
    (next : ∀ byte, Graceful Sound (f byte)) :
    Graceful Sound (do
      let buf ← readBits [0] count
      let byte ← index buf 0
      f byte) := by
  refine keeps_bind_yields (yields_readBits (by simpa using few)) fun buf length => ?_
  exact keeps_bind (graceful_index (by rw [length]; decide)) next

theorem graceful_readDataType : Graceful Sound readDataType := by
  refine keeps_get_bind fun r sound => keeps_ite (fun _ => ?_) fun _ => ?_
  · exact keeps_bind (keeps_set sound) fun _ => keeps_pure _
  · refine keeps_ite (fun _ => ?_) fun _ => ?_
    · exact keeps_bind graceful_cursorReadU8 graceful_fromValue
    · exact graceful_readOne (by decide) graceful_fromValue

theorem graceful_readTypeTag (expected : BdDataType) : Graceful Sound (readTypeTag expected) := by
  refine keeps_get_bind fun r _ => keeps_ite (fun _ => ?_) fun _ => keeps_pure ()
  exact keeps_bind graceful_readDataType fun _ => graceful_ensure _ _

theorem graceful_readTypeCheckedBit : Graceful Sound readTypeCheckedBit :=
  keeps_bind (graceful_ensureMode _) fun _ =>
    graceful_readOne (by decide) fun _ => keeps_modify fun _ sound => sound

theorem graceful_setMode (mode : StreamMode) : Graceful Sound (setMode mode) :=
  keeps_modify fun _ sound => sound

theorem graceful_setTypeChecked (typeChecked : Bool) :
    Graceful Sound (setTypeChecked typeChecked) :=
  keeps_modify fun _ sound => sound

theorem yields_readBits_zeros (n : Nat) :
    Yields Sound (fun fault => fault.isError = true) (fun read => read.length = n)
      (readBits (zeros n) (n * 8)) := by
  have read := @yields_readBits (zeros n) (n * 8) (by rw [zeros, List.length_replicate])
  rwa [zeros, List.length_replicate] at read

theorem graceful_readBits_zeros (n : Nat) : Graceful Sound (readBits (zeros n) (n * 8)) :=
  (yields_readBits_zeros n).keeps

theorem graceful_readScalar {α : Type} (dataType : BdDataType) (c : LeCodec α) :
    Graceful Sound (readScalar dataType c) := by
  refine keeps_bind (graceful_readTypeTag dataType) fun _ => keeps_get_bind fun r _ => ?_
  refine keeps_ite (fun _ => ?_) fun _ => ?_
  · exact keeps_bind (graceful_cursorReadExact _) fun _ => keeps_pure _
  · exact keeps_bind (graceful_readBits_zeros _) fun _ => keeps_pure _

theorem yields_readBytes (n : Nat) :
    Yields Sound (fun fault => fault.isError = true) (fun read => read.length = n)
      (readBytes n) := by
  refine yields_get_bind fun r _ => yields_ite (fun _ => yields_readBits_zeros n) fun _ => ?_
  refine yields_bind (graceful_cursorRead n).yields fun bytes _ => ?_
  refine yields_bind (yields_ensure _) fun _ whole => yields_pure ?_
  exact beq_iff_eq.mp whole

theorem graceful_readBytes (n : Nat) : Graceful Sound (readBytes n) := (yields_readBytes n).keeps

theorem graceful_fromUtf8 (bytes : List UInt8) : Graceful Sound (fromUtf8 bytes) := by
  rw [fromUtf8]
  split
  next => exact keeps_pure _
  next => exact graceful_fail _

/-- The mode stays as well, which a string in byte mode relies on. -/
abbrev GracefulIn {α : Type} (mode : StreamMode) (m : ReadM α) : Prop :=
  Graceful (fun r => Sound r ∧ r.mode = mode) m

theorem gracefulIn {α : Type} {mode : StreamMode} {m : ReadM α} (graceful : Graceful Sound m)
    (safe : SafeIn mode m) : GracefulIn mode m :=
  keeps_imp (graceful.and safe) fun _ both => both.1

theorem graceful_readStr : GracefulIn .byteMode readStr := by
  refine keeps_bind (gracefulIn (graceful_readTypeTag _) (safe_readTypeTag _)) fun _ => ?_
  refine keeps_get_bind fun r kept => ?_
  rw [kept.2, if_neg (by decide)]
  refine keeps_bind (gracefulIn graceful_cursorReadUntilZero safe_cursorReadUntilZero) fun buf => ?_
  exact gracefulIn (graceful_fromUtf8 _) (safe_fromUtf8 _)

end BdReader

end BitDemon
