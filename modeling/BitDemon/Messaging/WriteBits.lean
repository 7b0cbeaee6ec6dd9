import BitDemon.Messaging.Writer

set_option autoImplicit false

/-!
# Writing bits

Calls of `write_bits` append to one bit list, whatever lies above the bits of a
call in its last byte. The bytes are that list, packed.
-/

namespace BitDemon

open Machine Bits

namespace BdWriter

/-- `Drop`: a flush whose result is unwrapped. -/
def drop : WriteM Unit := do
  match ← attempt flush with
  | .ok () => pure ()
  | .error (.error _) => panicWith .unwrapOnError
  | .error (.panic p) => panicWith p

structure BitWrite where
  buf : List UInt8
  count : Nat
  fits : count ≤ buf.length * 8

namespace BitWrite

def write (call : BitWrite) : WriteM Unit := writeBits call.buf call.count

def bits (call : BitWrite) : List Bool := (ofBytes call.buf).take call.count

theorem writes {typeChecked : Bool} (call : BitWrite) :
    Writes .bitMode typeChecked call.write call.bits () :=
  writes_writeBits call.fits

end BitWrite

-- no bit waits in `lastByte`, which still holds an old one
def whole (out : List UInt8) (lastByte : UInt8) (typeChecked : Bool) : BdWriter :=
  { out, bitOffset := 8, lastByte, mode := .bitMode, typeChecked }

/-- Or-ing more bits into `lastByte` changes none that is there. -/
structure Packed (w : BdWriter) : Prop where
  positive : 0 < w.bitOffset
  offset : w.bitOffset ≤ 8
  clean : w.bitOffset < 8 → Below w.lastByte w.bitOffset

theorem Ready.packed {mode : StreamMode} {typeChecked : Bool} {w : BdWriter}
    (ready : w.Ready mode typeChecked) : w.Packed :=
  ⟨ready.positive, ready.offset, ready.clean⟩

section Whole

variable (out : List UInt8) (lastByte : UInt8) (typeChecked : Bool)

theorem ready_whole : (whole out lastByte typeChecked).Ready .bitMode typeChecked :=
  ⟨rfl, rfl, by simp [whole], by simp [whole], by simp [whole], by simp⟩

theorem bits_whole : (whole out lastByte typeChecked).bits = ofBytes out := by
  simp [bits, pending, whole]

end Whole

theorem exec_flush_whole {w : BdWriter} (aligned : w.bitOffset = 8) :
    exec flush w = (.ok (), w) := by
  simp [flush, exec_bind, aligned]

theorem exec_drop {w t : BdWriter} (flushed : exec flush w = (.ok (), t)) :
    exec drop w = (.ok (), t) := by
  simp [drop, exec_bind, flushed]

theorem exec_flush_packed {w : BdWriter} (packed : w.Packed) :
    exec flush w = (.ok (), { w with out := w.out ++ pack w.pending, bitOffset := 8 }) := by
  by_cases partly : w.bitOffset < 8
  next =>
    have waiting : w.pending = (ofByte w.lastByte).take w.bitOffset := if_pos partly
    have some : (ofByte w.lastByte).take w.bitOffset ≠ [] := by
      have positive := packed.positive
      intro none
      have length := congrArg List.length none
      simp at length
      omega
    have short : ((ofByte w.lastByte).take w.bitOffset).length ≤ 8 := by
      rw [List.length_take, length_ofByte]
      exact Nat.min_le_right _ _
    have byte : pack w.pending = [w.lastByte] := by
      rw [waiting, pack_cons_byte _ some, List.take_of_length_le short,
        List.drop_of_length_le short, packByte_take (packed.clean partly) packed.offset, pack_nil]
    simp [flush, exec_bind, Nat.not_le.mpr partly, exec_cursorWriteAll, byte]
  next =>
    have aligned : w.bitOffset = 8 := Nat.le_antisymm packed.offset (Nat.le_of_not_lt partly)
    rw [exec_flush_whole aligned, pending_whole aligned, pack_nil, List.append_nil, ← aligned]

theorem exec_writes (out : List UInt8) (lastByte : UInt8) (typeChecked : Bool)
    (calls : List BitWrite) :
    ∃ w, exec (Wire.writeEach BitWrite.write calls) (whole out lastByte typeChecked) = (.ok (), w)
      ∧ w.Packed ∧ w.out ++ pack w.pending = out ++ pack (calls.flatMap BitWrite.bits) := by
  have each : ∀ call ∈ calls, Writes .bitMode typeChecked call.write call.bits () :=
    fun call _ => call.writes
  obtain ⟨w, ran, ready, wrote⟩ :=
    Wire.emits_writeEach calls each _ (ready_whole out lastByte typeChecked)
  refine ⟨w, ran, ready.packed, ?_⟩
  rw [bits_whole, bits] at wrote
  rw [← pack_ofBytes_append, wrote, pack_ofBytes_append]

/--
Whole bytes are followed by the bits of the calls, packed. After every call no
stale bit waits, and there is nothing left for a second flush or for the drop.
-/
theorem writeBits_appends (out : List UInt8) (lastByte : UInt8) (typeChecked : Bool)
    (calls : List BitWrite) :
    (∀ first, first <+: calls →
      ∃ w, exec (Wire.writeEach BitWrite.write first) (whole out lastByte typeChecked) = (.ok (), w)
        ∧ w.Packed)
      ∧ ∃ w t, exec (Wire.writeEach BitWrite.write calls) (whole out lastByte typeChecked)
          = (.ok (), w)
        ∧ exec flush w = (.ok (), t) ∧ t.Packed
        ∧ t.out = out ++ pack (calls.flatMap BitWrite.bits)
        ∧ exec flush t = (.ok (), t) ∧ exec drop t = (.ok (), t) ∧ exec drop w = (.ok (), t) := by
  constructor
  · intro first _
    obtain ⟨w, ran, packed, _⟩ := exec_writes out lastByte typeChecked first
    exact ⟨w, ran, packed⟩
  · obtain ⟨w, ran, packed, bytes⟩ := exec_writes out lastByte typeChecked calls
    have flushed := exec_flush_packed packed
    have again : exec flush { w with out := w.out ++ pack w.pending, bitOffset := 8 } = _ :=
      exec_flush_whole rfl
    exact ⟨w, _, ran, flushed, ⟨by simp, by simp, by simp⟩, bytes, again, exec_drop again,
      exec_drop flushed⟩

end BdWriter

end BitDemon
