import Mathlib.Data.List.TakeWhile

set_option autoImplicit false

/-! # Strings as UTF-8 bytes -/

namespace Utf8

def encode (s : String) : List UInt8 := s.toUTF8.data.toList

def decode? (bytes : List UInt8) : Option String := String.fromUTF8? ⟨bytes.toArray⟩

@[simp] theorem decode?_encode (s : String) : decode? (encode s) = some s := by
  have same : (⟨(encode s).toArray⟩ : ByteArray) = s.toUTF8 := rfl
  rw [decode?, same, String.fromUTF8?]
  exact dif_pos s.isValidUTF8

theorem decode?_eq_some_iff {bytes : List UInt8} {s : String} :
    decode? bytes = some s ↔ bytes = encode s := by
  constructor
  · intro decoded
    rw [decode?, String.fromUTF8?] at decoded
    split at decoded
    next valid =>
      obtain rfl := Option.some.inj decoded
      rfl
    next => cases decoded
  · intro same
    rw [same, decode?_encode]

theorem zero_not_mem_utf8EncodeChar {c : Char} (notNul : c ≠ '\x00') :
    0 ∉ String.utf8EncodeChar c := by
  rcases c.utf8Size_eq with one | two | three | four
  · rw [String.utf8EncodeChar_eq_singleton one, List.mem_singleton]
    intro zero
    have low := Char.utf8Size_eq_one_iff.mp one
    have small : c.val.toNat ≤ 127 := by simpa [UInt32.le_iff_toNat_le] using low
    have gone : c.val.toNat % 256 = 0 := by
      rw [← UInt32.toNat_toUInt8, ← zero]
      rfl
    apply notNul
    apply Char.ext
    apply UInt32.toNat_inj.mp
    change c.val.toNat = 0
    omega
  · rw [String.utf8EncodeChar_eq_cons_cons two]
    simp [eq_comm (a := (0 : UInt8))]
  · rw [String.utf8EncodeChar_eq_cons_cons_cons three]
    simp [eq_comm (a := (0 : UInt8))]
  · rw [String.utf8EncodeChar_eq_cons_cons_cons_cons four]
    simp [eq_comm (a := (0 : UInt8))]

theorem encode_eq_flatMap (s : String) : encode s = s.toList.flatMap String.utf8EncodeChar := by
  rw [encode, String.toUTF8_eq_toByteArray, ← String.utf8Encode_toList]
  simp [List.utf8Encode]

theorem encode_prefix_iff {s t : String} : encode s <+: encode t ↔ s.toList <+: t.toList := by
  constructor
  · rintro ⟨rest, whole⟩
    refine List.isPrefix_of_utf8Encode_append_eq_utf8Encode ⟨rest.toArray⟩ ?_
    rw [String.utf8Encode_toList, String.utf8Encode_toList]
    apply ByteArray.ext
    apply Array.toList_inj.mp
    rw [ByteArray.data_append, Array.toList_append]
    exact whole
  · rintro ⟨rest, whole⟩
    rw [encode_eq_flatMap, encode_eq_flatMap, ← whole, List.flatMap_append]
    exact List.prefix_append _ _

-- `s.starts_with(start)`
def startsWith (s start : String) : Bool := (encode start).isPrefixOf (encode s)

theorem startsWith_iff {s start : String} : startsWith s start = true ↔ start.toList <+: s.toList := by
  rw [startsWith, List.isPrefixOf_iff_prefix, encode_prefix_iff]

theorem zero_not_mem_encode {s : String} (noNul : '\x00' ∉ s.toList) : 0 ∉ encode s := by
  rw [encode_eq_flatMap, List.mem_flatMap]
  rintro ⟨c, member, zero⟩
  exact zero_not_mem_utf8EncodeChar (fun nul => noNul (nul ▸ member)) zero

theorem nul_not_mem_of_encode {s : String} (noZero : 0 ∉ encode s) : '\x00' ∉ s.toList := by
  intro member
  apply noZero
  rw [encode_eq_flatMap, List.mem_flatMap]
  exact ⟨'\x00', member, by decide⟩

def upToNul (s : String) : String := String.ofList (s.toList.takeWhile (· ≠ '\x00'))

theorem takeWhile_flatMap_utf8EncodeChar (chars : List Char) :
    (chars.flatMap String.utf8EncodeChar).takeWhile (· ≠ 0)
      = (chars.takeWhile (· ≠ '\x00')).flatMap String.utf8EncodeChar := by
  induction chars with
  | nil => rfl
  | cons c chars ih =>
    by_cases nul : c = '\x00'
    · subst nul
      rfl
    · have nonzero : ∀ b ∈ String.utf8EncodeChar c, decide (b ≠ 0) = true := by
        intro b member
        simpa using fun zero : b = 0 => zero_not_mem_utf8EncodeChar nul (zero ▸ member)
      rw [List.flatMap_cons, List.takeWhile_append_of_pos nonzero, ih,
        List.takeWhile_cons_of_pos (by simpa using nul), List.flatMap_cons]

theorem takeWhile_encode (s : String) : (encode s).takeWhile (· ≠ 0) = encode (upToNul s) := by
  rw [encode_eq_flatMap, encode_eq_flatMap, upToNul, String.toList_ofList,
    takeWhile_flatMap_utf8EncodeChar]

theorem decode?_padded (s : String) (zeros : Nat) :
    decode? ((encode s ++ List.replicate zeros 0).takeWhile (· ≠ 0)) = some (upToNul s) := by
  have cut : (encode s ++ List.replicate zeros 0).takeWhile (· ≠ 0) = encode (upToNul s) := by
    rw [← takeWhile_encode, List.takeWhile_append]
    split
    next whole =>
      have none : (List.replicate zeros (0 : UInt8)).takeWhile (· ≠ 0) = [] := by
        cases zeros <;> simp [List.replicate_succ]
      rw [none, List.append_nil]
      exact (List.takeWhile_sublist _).eq_of_length whole |>.symm
    next part => rfl
  rw [cut, decode?_encode]

end Utf8
