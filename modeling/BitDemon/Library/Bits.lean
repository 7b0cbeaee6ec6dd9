import Mathlib.Data.List.TakeDrop
import Mathlib.Data.Nat.Bitwise
import Mathlib.Logic.Equiv.Defs

set_option autoImplicit false

/-!
# Bytes as bit lists

A byte string is read as the list of its bits, the least significant bit of
each byte first. Packing is the inverse: the last byte is filled up with zeros.
-/

namespace Bits

def ofByte (b : UInt8) : List Bool := (List.range 8).map b.toBitVec.getLsbD

def ofBytes (bytes : List UInt8) : List Bool := bytes.flatMap ofByte

def packByte (bits : List Bool) : UInt8 := ⟨(BitVec.ofBoolListLE bits).setWidth 8⟩

def pack (bits : List Bool) : List UInt8 :=
  match bits with
  | [] => []
  | bit :: rest => packByte ((bit :: rest).take 8) :: pack ((bit :: rest).drop 8)
termination_by bits.length

@[simp] theorem length_ofByte (b : UInt8) : (ofByte b).length = 8 := by simp [ofByte]

@[simp] theorem getElem_ofByte (b : UInt8) (i : Nat) (h : i < (ofByte b).length) :
    (ofByte b)[i] = b.toBitVec.getLsbD i := by
  simp [ofByte]

theorem getElem?_ofByte (b : UInt8) (i : Nat) :
    (ofByte b)[i]? = if i < 8 then some (b.toBitVec.getLsbD i) else none := by
  by_cases inside : i < 8 <;> simp [ofByte, inside]

@[simp] theorem ofBytes_nil : ofBytes [] = [] := rfl

@[simp] theorem ofBytes_cons (b : UInt8) (bytes : List UInt8) :
    ofBytes (b :: bytes) = ofByte b ++ ofBytes bytes := rfl

@[simp] theorem ofBytes_append (left right : List UInt8) :
    ofBytes (left ++ right) = ofBytes left ++ ofBytes right := by
  simp [ofBytes]

@[simp] theorem length_ofBytes (bytes : List UInt8) : (ofBytes bytes).length = 8 * bytes.length := by
  induction bytes with
  | nil => rfl
  | cons b bytes ih => simp [ih]; omega

theorem byte_ext {a b : UInt8} (same : ∀ i, i < 8 → a.toBitVec.getLsbD i = b.toBitVec.getLsbD i) :
    a = b := by
  apply UInt8.toBitVec_inj.mp
  exact BitVec.eq_of_getLsbD_eq same

theorem ofByte_inj {a b : UInt8} (same : ofByte a = ofByte b) : a = b := by
  apply byte_ext
  intro i inside
  have here := congrArg (fun bits => bits[i]?) same
  simpa [getElem?_ofByte, inside] using here

@[simp] theorem getLsbD_packByte (bits : List Bool) (i : Nat) :
    (packByte bits).toBitVec.getLsbD i = (decide (i < 8) && bits.getD i false) := by
  simp [packByte, BitVec.getLsbD_setWidth]

theorem ofByte_packByte (bits : List Bool) (short : bits.length ≤ 8) :
    ofByte (packByte bits) = bits ++ List.replicate (8 - bits.length) false := by
  apply List.ext_getElem
  · simp; omega
  · intro i left right
    have inside : i < 8 := by simpa using left
    rw [getElem_ofByte, getLsbD_packByte, List.getElem_append]
    by_cases given : i < bits.length
    · simp [inside, given]
    · simp [given]

theorem packByte_ofByte (b : UInt8) : packByte (ofByte b) = b := by
  apply byte_ext
  intro i inside
  rw [getLsbD_packByte, List.getD_eq_getElem?_getD, getElem?_ofByte]
  simp [inside]

@[simp] theorem pack_nil : pack [] = [] := by simp [pack]

theorem pack_cons_byte (bits : List Bool) (some : bits ≠ []) :
    pack bits = packByte (bits.take 8) :: pack (bits.drop 8) := by
  cases bits with
  | nil => contradiction
  | cons bit rest => rw [pack]

theorem pack_ofBytes_append (bytes : List UInt8) (bits : List Bool) :
    pack (ofBytes bytes ++ bits) = bytes ++ pack bits := by
  induction bytes with
  | nil => simp
  | cons b bytes ih =>
    have some : ofByte b ++ (ofBytes bytes ++ bits) ≠ [] := by
      intro none
      have length := congrArg List.length none
      simp at length
    rw [ofBytes_cons, List.append_assoc, pack_cons_byte _ some, List.take_left' (length_ofByte b),
      List.drop_left' (length_ofByte b), packByte_ofByte, ih, List.cons_append]

theorem pack_ofBytes (bytes : List UInt8) : pack (ofBytes bytes) = bytes := by
  simpa using pack_ofBytes_append bytes []

theorem ofBytes_pack (bits : List Bool) :
    ofBytes (pack bits) = bits ++ List.replicate ((8 - bits.length % 8) % 8) false := by
  fun_induction pack bits with
  | case1 => rfl
  | case2 bit rest ih =>
    rw [ofBytes_cons, ih, ofByte_packByte _ (List.length_take_le 8 _), List.length_take,
      List.length_drop]
    by_cases long : 8 ≤ (bit :: rest).length
    · have same : ((bit :: rest).length - 8) % 8 = (bit :: rest).length % 8 := by omega
      rw [Nat.min_eq_left long, Nat.sub_self, List.replicate_zero, List.append_nil, same,
        ← List.append_assoc, List.take_append_drop]
    · have few : (bit :: rest).length < 8 := Nat.lt_of_not_le long
      have fill : (8 - (bit :: rest).length % 8) % 8 = 8 - (bit :: rest).length := by
        simp only [List.length_cons] at few ⊢
        omega
      rw [Nat.min_eq_right (Nat.le_of_lt few), List.take_of_length_le (Nat.le_of_lt few),
        List.drop_of_length_le (Nat.le_of_lt few), Nat.sub_eq_zero_of_le (Nat.le_of_lt few), fill]
      rw [List.nil_append, Nat.zero_mod, Nat.sub_zero, Nat.mod_self, List.replicate_zero,
        List.append_nil]

theorem ofBytes_inj {left right : List UInt8} (same : ofBytes left = ofBytes right) :
    left = right := by
  rw [← pack_ofBytes left, same, pack_ofBytes]

theorem ofBytes_eq_append {bytes front : List UInt8} {rest : List Bool}
    (same : ofBytes bytes = ofBytes front ++ rest) :
    ∃ back, bytes = front ++ back ∧ rest = ofBytes back := by
  have total := congrArg List.length same
  simp only [length_ofBytes, List.length_append] at total
  rw [← List.take_append_drop front.length bytes, ofBytes_append] at same
  obtain ⟨start, last⟩ := List.append_inj same (by simp; omega)
  refine ⟨bytes.drop front.length, ?_, last.symm⟩
  conv_rhs => rw [← ofBytes_inj start]
  rw [List.length_take, Nat.min_eq_left (by omega), List.take_append_drop]

def Below (b : UInt8) (k : Nat) : Prop := ∀ i, k ≤ i → b.toBitVec.getLsbD i = false

theorem below_eight (b : UInt8) : Below b 8 := by
  intro i high
  exact BitVec.getLsbD_of_ge _ _ high

theorem below_of_lt {b : UInt8} {k : Nat} (small : b.toNat < 2 ^ k) : Below b k := by
  intro i high
  rw [BitVec.getLsbD]
  exact Nat.testBit_lt_two_pow (Nat.lt_of_lt_of_le small (Nat.pow_le_pow_right (by decide) high))

theorem take_ofByte (b : UInt8) (k : Nat) (inside : k ≤ 8) :
    (ofByte b).take k = (List.range k).map b.toBitVec.getLsbD := by
  rw [ofByte, ← List.map_take, List.take_range, Nat.min_eq_left inside]

theorem ofByte_of_below {b : UInt8} {k : Nat} (small : Below b k) (inside : k ≤ 8) :
    ofByte b = (ofByte b).take k ++ List.replicate (8 - k) false := by
  apply List.ext_getElem
  · simp; omega
  · intro i left right
    rw [getElem_ofByte, List.getElem_append]
    by_cases low : i < k
    · have given : i < ((ofByte b).take k).length := by simp at left ⊢; omega
      rw [dif_pos given, List.getElem_take, getElem_ofByte]
    · have past : ¬i < ((ofByte b).take k).length := by simp; omega
      rw [dif_neg past, List.getElem_replicate]
      exact small i (by omega)

theorem packByte_take {b : UInt8} {k : Nat} (small : Below b k) (inside : k ≤ 8) :
    packByte ((ofByte b).take k) = b := by
  apply ofByte_inj
  have short : ((ofByte b).take k).length = k := by simp [inside]
  rw [ofByte_packByte _ (by omega), short, ← ofByte_of_below small inside]

theorem ofByte_or_shl {low high : UInt8} {k : Nat} (small : Below low k) (inside : k ≤ 8) :
    ofByte (low ||| ⟨high.toBitVec <<< k⟩) = (ofByte low).take k ++ (ofByte high).take (8 - k) := by
  apply List.ext_getElem
  · simp; omega
  · intro i left right
    have bound : i < 8 := by simpa using left
    rw [getElem_ofByte, UInt8.toBitVec_or, BitVec.getLsbD_or, BitVec.getLsbD_shiftLeft,
      List.getElem_append]
    by_cases fromLow : i < k
    · have given : i < ((ofByte low).take k).length := by simp; omega
      rw [dif_pos given, List.getElem_take, getElem_ofByte]
      simp [fromLow]
    · have past : ¬i < ((ofByte low).take k).length := by simp; omega
      have start : ((ofByte low).take k).length = k := by simp [inside]
      rw [dif_neg past, List.getElem_take, getElem_ofByte, small i (by omega), start]
      simp [fromLow, bound]

theorem below_or_shl {low high : UInt8} {k n : Nat} (small : Below low k) (few : Below high n) :
    Below (low ||| ⟨high.toBitVec <<< k⟩) (k + n) := by
  intro i above
  have shifted := few (i - k) (by omega)
  rw [UInt8.toBitVec_or, BitVec.getLsbD_or, BitVec.getLsbD_shiftLeft, small i (by omega), shifted]
  simp

theorem ofByte_shr (b : UInt8) (k : Nat) :
    ofByte ⟨b.toBitVec >>> k⟩
      = (ofByte b).drop k ++ List.replicate (8 - ((ofByte b).drop k).length) false := by
  apply List.ext_getElem
  · simp
  · intro i left right
    rw [getElem_ofByte, BitVec.getLsbD_ushiftRight, List.getElem_append]
    by_cases given : i < ((ofByte b).drop k).length
    · rw [dif_pos given, List.getElem_drop, getElem_ofByte]
    · have past : 8 ≤ k + i := by simp at given; omega
      rw [dif_neg given, List.getElem_replicate]
      exact BitVec.getLsbD_of_ge _ _ past

theorem below_shr (b : UInt8) (k : Nat) : Below ⟨b.toBitVec >>> k⟩ (8 - k) := by
  intro i high
  rw [BitVec.getLsbD_ushiftRight]
  exact BitVec.getLsbD_of_ge _ _ (by omega)

theorem getLsbD_mask (b : UInt8) {n : Nat} (inside : n ≤ 8) (i : Nat) :
    (b &&& ⟨(0xFF : UInt8).toBitVec >>> (8 - n)⟩).toBitVec.getLsbD i
      = (decide (i < n) && b.toBitVec.getLsbD i) := by
  have ones : (0xFF : UInt8).toBitVec = BitVec.allOnes 8 := rfl
  rw [UInt8.toBitVec_and, BitVec.getLsbD_and, ones, BitVec.getLsbD_ushiftRight,
    BitVec.getLsbD_allOnes, Bool.and_comm]
  congr 1
  exact decide_eq_decide.mpr (by omega)

theorem below_mask (b : UInt8) {n : Nat} (inside : n ≤ 8) :
    Below (b &&& ⟨(0xFF : UInt8).toBitVec >>> (8 - n)⟩) n := by
  intro i high
  rw [getLsbD_mask b inside]
  simp [Nat.not_lt.mpr high]

theorem take_ofByte_mask (b : UInt8) {n : Nat} (inside : n ≤ 8) :
    (ofByte (b &&& ⟨(0xFF : UInt8).toBitVec >>> (8 - n)⟩)).take n = (ofByte b).take n := by
  rw [take_ofByte _ _ inside, take_ofByte _ _ inside]
  apply List.map_congr_left
  intro i member
  rw [getLsbD_mask b inside]
  simp [List.mem_range.mp member]

theorem mask_eq_packByte (b : UInt8) {n : Nat} (inside : n ≤ 8) :
    b &&& ⟨(0xFF : UInt8).toBitVec >>> (8 - n)⟩ = packByte ((ofByte b).take n) := by
  apply ofByte_inj
  have short : ((ofByte b).take n).length ≤ 8 := by rw [List.length_take]; omega
  rw [ofByte_of_below (below_mask b inside) inside, take_ofByte_mask b inside,
    ofByte_packByte _ short]
  simp [inside]

def leBytes : Nat → Nat → List UInt8
  | 0, _ => []
  | n + 1, v => UInt8.ofNat v :: leBytes n (v / 256)

def ofLeBytes : List UInt8 → Nat
  | [] => 0
  | b :: bytes => b.toNat + 256 * ofLeBytes bytes

@[simp] theorem length_leBytes (n v : Nat) : (leBytes n v).length = n := by
  induction n generalizing v with
  | zero => rfl
  | succ n ih => simp [leBytes, ih]

theorem ofLeBytes_leBytes (n v : Nat) : ofLeBytes (leBytes n v) = v % 256 ^ n := by
  induction n generalizing v with
  | zero => simp [leBytes, ofLeBytes, Nat.mod_one]
  | succ n ih =>
    simp only [leBytes, ofLeBytes, ih]
    rw [Nat.pow_succ', Nat.mod_mul]
    simp

theorem ofLeBytes_lt (bytes : List UInt8) : ofLeBytes bytes < 256 ^ bytes.length := by
  induction bytes with
  | nil => exact Nat.one_pos
  | cons b bytes ih =>
    have byte : b.toNat < 256 := b.toNat_lt
    rw [ofLeBytes, List.length_cons, Nat.pow_succ']
    omega

theorem leBytes_ofLeBytes (bytes : List UInt8) : leBytes bytes.length (ofLeBytes bytes) = bytes := by
  induction bytes with
  | nil => rfl
  | cons b bytes ih =>
    have byte : b.toNat < 256 := b.toNat_lt
    have low : UInt8.ofNat (b.toNat + 256 * ofLeBytes bytes) = b := by
      apply UInt8.toNat_inj.mp
      rw [UInt8.toNat_ofNat']
      omega
    have high : (b.toNat + 256 * ofLeBytes bytes) / 256 = ofLeBytes bytes := by omega
    rw [List.length_cons, leBytes, ofLeBytes, low, high, ih]

structure LeCodec (α : Type) where
  size : Nat
  toLeBytes : α → List UInt8
  fromLeBytes : List UInt8 → α
  length_toLeBytes : ∀ a, (toLeBytes a).length = size
  fromLeBytes_toLeBytes : ∀ a, fromLeBytes (toLeBytes a) = a

attribute [simp] LeCodec.length_toLeBytes LeCodec.fromLeBytes_toLeBytes

namespace LeCodec

def transport {α β : Type} (c : LeCodec α) (e : α ≃ β) : LeCodec β where
  size := c.size
  toLeBytes b := c.toLeBytes (e.symm b)
  fromLeBytes bytes := e (c.fromLeBytes bytes)
  length_toLeBytes := by simp
  fromLeBytes_toLeBytes := by simp

def u8 : LeCodec UInt8 where
  size := 1
  toLeBytes v := leBytes 1 v.toNat
  fromLeBytes bytes := UInt8.ofNat (ofLeBytes bytes)
  length_toLeBytes := by simp
  fromLeBytes_toLeBytes v := by
    have bound : v.toNat < 256 ^ 1 := v.toNat_lt
    rw [ofLeBytes_leBytes, Nat.mod_eq_of_lt bound, UInt8.ofNat_toNat]

def u16 : LeCodec UInt16 where
  size := 2
  toLeBytes v := leBytes 2 v.toNat
  fromLeBytes bytes := UInt16.ofNat (ofLeBytes bytes)
  length_toLeBytes := by simp
  fromLeBytes_toLeBytes v := by
    have bound : v.toNat < 256 ^ 2 := v.toNat_lt
    rw [ofLeBytes_leBytes, Nat.mod_eq_of_lt bound, UInt16.ofNat_toNat]

def u32 : LeCodec UInt32 where
  size := 4
  toLeBytes v := leBytes 4 v.toNat
  fromLeBytes bytes := UInt32.ofNat (ofLeBytes bytes)
  length_toLeBytes := by simp
  fromLeBytes_toLeBytes v := by
    have bound : v.toNat < 256 ^ 4 := v.toNat_lt
    rw [ofLeBytes_leBytes, Nat.mod_eq_of_lt bound, UInt32.ofNat_toNat]

theorem u32_toLeBytes_fromLeBytes {bytes : List UInt8} (four : bytes.length = 4) :
    u32.toLeBytes (u32.fromLeBytes bytes) = bytes := by
  have small : ofLeBytes bytes < 256 ^ 4 := by
    rw [← four]
    exact ofLeBytes_lt bytes
  have value : (UInt32.ofNat (ofLeBytes bytes)).toNat = ofLeBytes bytes :=
    UInt32.toNat_ofNat_of_lt small
  calc u32.toLeBytes (u32.fromLeBytes bytes)
      = leBytes 4 (UInt32.ofNat (ofLeBytes bytes)).toNat := rfl
    _ = leBytes bytes.length (ofLeBytes bytes) := by rw [value, four]
    _ = bytes := leBytes_ofLeBytes bytes

def u64 : LeCodec UInt64 where
  size := 8
  toLeBytes v := leBytes 8 v.toNat
  fromLeBytes bytes := UInt64.ofNat (ofLeBytes bytes)
  length_toLeBytes := by simp
  fromLeBytes_toLeBytes v := by
    have bound : v.toNat < 256 ^ 8 := v.toNat_lt
    rw [ofLeBytes_leBytes, Nat.mod_eq_of_lt bound, UInt64.ofNat_toNat]

def i8 : LeCodec Int8 :=
  u8.transport ⟨UInt8.toInt8, Int8.toUInt8, UInt8.toUInt8_toInt8, Int8.toInt8_toUInt8⟩

def i16 : LeCodec Int16 :=
  u16.transport ⟨UInt16.toInt16, Int16.toUInt16, UInt16.toUInt16_toInt16, Int16.toInt16_toUInt16⟩

def i32 : LeCodec Int32 :=
  u32.transport ⟨UInt32.toInt32, Int32.toUInt32, UInt32.toUInt32_toInt32, Int32.toInt32_toUInt32⟩

def i64 : LeCodec Int64 :=
  u64.transport ⟨UInt64.toInt64, Int64.toUInt64, UInt64.toUInt64_toInt64, Int64.toInt64_toUInt64⟩

end LeCodec

end Bits
