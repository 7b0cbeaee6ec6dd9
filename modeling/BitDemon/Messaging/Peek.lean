import BitDemon.Messaging.Format
import BitDemon.Messaging.Graceful

set_option autoImplicit false

/-!
# Looking at the next tag

A reader that has looked at a tag keeps it for the read that follows. What is
left of a message past its last value are zero bits, and no tag of a value is
zero.
-/

namespace BitDemon

open Machine Bits Format

namespace BdReader

theorem exec_readBits_short {typeChecked : Bool} {r : BdReader} {count : Nat}
    (ready : r.Ready .bitMode typeChecked) (few : count ≤ 8) (short : r.bits.length < count) :
    exec (readBits [0] count) r = (.error (.error .unexpectedEof), r) := by
  have inMode : exec (ensureMode .bitMode) r = (.ok (), r) := by
    simp [ensureMode, exec_bind, ready.inMode]
  obtain ⟨more, rfl⟩ : ∃ more, count = more + 1 := ⟨count - 1, by omega⟩
  have step : exec (readBitsStep (more + 1)) r = (.error (.error .unexpectedEof), r) :=
    exec_readBitsStep_short ready.offset (Nat.lt_of_lt_of_le short few) short
  rw [readBits, if_neg (by simp; omega), exec_bind_ok _ inMode, readBitsLoop,
    if_neg (Nat.succ_ne_zero more), exec_bind_error _ step]

section Tags

variable {r : BdReader} {expected : BdDataType} {n : Nat}

theorem dataTypeCode_noType :
    dataTypeCode .bitMode (.noArray .noType) = List.replicate 5 false := by decide

theorem exec_readDataType_zeros (ready : r.Ready .bitMode true)
    (zero : r.bits = List.replicate n false) (enough : 5 ≤ n) :
    ∃ t, exec readDataType r = (.ok (.noArray .noType), t) ∧ t.Ready .bitMode true
      ∧ t.bits = List.replicate (n - 5) false := by
  refine reads_dataType (tag_noArray (by decide)) r _ ready ?_
  rw [zero, dataTypeCode_noType, List.replicate_append_replicate]
  congr 1
  omega

theorem exec_readDataType_short (ready : r.Ready .bitMode true) (short : r.bits.length < 5) :
    exec readDataType r = (.error (.error .unexpectedEof), r) := by
  have few := exec_readBits_short ready (by decide : 5 ≤ 8) short
  rw [readDataType, exec_bind_ok _ (exec_get r), if_neg (by simp [ready.uncached]),
    if_neg (by simp [ready.inMode]), exec_bind_error _ few]

theorem exec_nextIs_ok {dataType : BufferDataType} {t : BdReader} (ready : r.Ready .bitMode true)
    (read : exec readDataType r = (.ok dataType, t)) :
    exec (nextIs expected) r = (.ok (dataType.eqNonArray expected),
      { t with cachedDataType := dataType, hasDataTypeCached := true }) := by
  have next : exec nextDataType r
      = (.ok dataType, { t with cachedDataType := dataType, hasDataTypeCached := true }) := by
    rw [nextDataType, exec_bind_ok _ (exec_get r), if_neg (by simp [ready.checked]),
      if_neg (by simp [ready.uncached]), exec_bind_ok _ read]
    rfl
  rw [nextIs, exec_bind_ok _ next]
  rfl

theorem exec_nextIs_zeros (common : expected ≠ .noType) (ready : r.Ready .bitMode true)
    (zero : r.bits = List.replicate n false) (enough : 5 ≤ n) :
    ∃ t, exec (nextIs expected) r = (.ok false, t) := by
  obtain ⟨t, read, _⟩ := exec_readDataType_zeros ready zero enough
  have looked := @exec_nextIs_ok r expected _ t ready read
  rw [BufferDataType.eqNonArray_noArray, decide_eq_false (Ne.symm common)] at looked
  exact ⟨_, looked⟩

theorem exec_nextIs_short (ready : r.Ready .bitMode true) (short : r.bits.length < 5) :
    exec (nextIs expected) r = (.error (.error .unexpectedEof), r) := by
  have few := exec_readDataType_short ready short
  have next : exec nextDataType r = (.error (.error .unexpectedEof), r) := by
    rw [nextDataType, exec_bind_ok _ (exec_get r), if_neg (by simp [ready.checked]),
      if_neg (by simp [ready.uncached]), exec_bind_error _ few]
  rw [nextIs, exec_bind_error _ next]

/-- The tag that was looked at is not read again. -/
theorem exec_readScalar_peeked {α : Type} (c : LeCodec α) {t : BdReader}
    (ready : t.Ready .bitMode true) :
    exec (readScalar expected c)
        { t with cachedDataType := .noArray expected, hasDataTypeCached := true }
      = exec (get >>= fun r => if r.mode = .byteMode then do
          let bytes ← cursorReadExact c.size
          pure (c.fromLeBytes bytes)
        else do
          let bytes ← readBits (zeros c.size) (c.size * 8)
          pure (c.fromLeBytes bytes)) { t with cachedDataType := .noArray expected } := by
  have tag : exec (readTypeTag expected)
      { t with cachedDataType := .noArray expected, hasDataTypeCached := true }
      = (.ok (), { t with cachedDataType := .noArray expected }) := by
    simp only [readTypeTag, exec_bind, exec_get, ready.checked, if_true, expectNonArray, readDataType,
      exec_set, exec_pure, BufferDataType.eqNonArray_noArray, decide_true, ensure_true,
      ready.uncached]
  rw [readScalar, exec_bind_ok _ tag]

theorem exec_nextIs_value {α : Type} (common : expected ≠ .maxType) (c : LeCodec α) (value : α)
    {rest : List Bool} (ready : r.Ready .bitMode true)
    (starts : r.bits = scalarCode .bitMode true expected c value ++ rest) :
    ∃ peeked t, exec (nextIs expected) r = (.ok true, peeked)
      ∧ exec (readScalar expected c) peeked = (.ok value, t) ∧ t.Ready .bitMode true
      ∧ t.bits = rest := by
  rw [scalarCode, List.append_assoc] at starts
  obtain ⟨t, read, fine, left⟩ := reads_dataType (tag_noArray common) r _ ready starts
  have looked := @exec_nextIs_ok r expected _ t ready read
  rw [BufferDataType.eqNonArray_noArray, decide_eq_true rfl] at looked
  have kept : BdReader.Ready .bitMode true { t with cachedDataType := .noArray expected } :=
    ⟨fine.inMode, fine.checked, fine.uncached, fine.positive, fine.offset, fine.aligned⟩
  obtain ⟨u, bytes, readyAfter, leftAfter⟩ := reads_scalarBytes c value _ rest kept left
  refine ⟨_, u, looked, ?_, readyAfter, leftAfter⟩
  rw [exec_readScalar_peeked c fine, bytes]

theorem exec_readScalar_zeros {α : Type} (common : expected ≠ .noType) (c : LeCodec α)
    (ready : r.Ready .bitMode true) (zero : r.bits = List.replicate n false) :
    ∃ e t, exec (readScalar expected c) r = (.error (.error e), t)
      ∧ (Fault.error e).demandedMode = none := by
  obtain ⟨e, t, failed, silent⟩ : ∃ e t, exec (expectNonArray expected) r = (.error (.error e), t)
      ∧ (Fault.error e).demandedMode = none := by
    by_cases enough : 5 ≤ n
    · obtain ⟨t, read, _⟩ := exec_readDataType_zeros ready zero enough
      refine ⟨.unexpectedDataType (.noArray expected) (.noArray .noType), t, ?_, rfl⟩
      rw [expectNonArray, exec_bind_ok _ read, BufferDataType.eqNonArray_noArray,
        decide_eq_false (Ne.symm common)]
      rfl
    · have short : r.bits.length < 5 := by
        rw [zero, List.length_replicate]
        omega
      exact ⟨.unexpectedEof, _, exec_bind_error _ (exec_readDataType_short ready short), rfl⟩
  have tag : exec (readTypeTag expected) r = (.error (.error e), t) := by
    rw [readTypeTag, exec_bind_ok _ (exec_get r), ready.checked]
    exact failed
  exact ⟨e, t, by rw [readScalar, exec_bind_error _ tag], silent⟩

end Tags

end BdReader

end BitDemon
