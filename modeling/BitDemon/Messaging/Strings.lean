import BitDemon.Messaging.Peek

set_option autoImplicit false

/-!
# Where a string ends

A string goes up to the first zero byte. In byte mode the end of the message
ends it too, and costs it its last byte.
-/

namespace BitDemon

open Machine Bits

namespace BdReader

def stream (r : BdReader) : List Bool :=
  match r.mode with
  | .byteMode => ofBytes r.cursor
  | .bitMode => r.bits

structure Untyped where
  reader : BdReader
  untyped : reader.typeChecked = false
  uncached : reader.hasDataTypeCached = false
  sound : Sound reader

def Terminated (s : String) (rest stream : List Bool) : Prop :=
  0 ∉ Utf8.encode s ∧ stream = ofBytes (Utf8.encode s ++ [0]) ++ rest

/-- `read_str` reads a string exactly if it is terminated, and takes it with its terminator. -/
def ReadsTerminated (r : BdReader) : Prop :=
  ∀ s rest, (∃ t, exec readStr r = (.ok s, t) ∧ t.stream = rest) ↔ Terminated s rest r.stream

/-- A zero byte is left, or what is left is, but for its last byte, no text. -/
def EndsStrings (bytes : List UInt8) : Prop := 0 ∈ bytes ∨ Utf8.decode? bytes.dropLast = none

section Bytes

variable {r t : BdReader} {s : String}

theorem exec_fromUtf8 (bytes : List UInt8) (r : BdReader) :
    exec (fromUtf8 bytes) r
      = ((Utf8.decode? bytes).elim (.error (.error .invalidUtf8)) fun s => .ok s, r) := by
  rw [fromUtf8]
  cases Utf8.decode? bytes <;> rfl

theorem fromUtf8_ok_iff {bytes : List UInt8} :
    exec (fromUtf8 bytes) r = (.ok s, t) ↔ bytes = Utf8.encode s ∧ t = r := by
  rw [exec_fromUtf8, ← Utf8.decode?_eq_some_iff]
  cases Utf8.decode? bytes <;> simp [eq_comm]

theorem takeWhile_zero {before : List UInt8} (noZero : 0 ∉ before) (after : List UInt8) :
    (before ++ 0 :: after).takeWhile (· ≠ 0) = before := by
  rw [List.takeWhile_append_of_pos]
  · simp
  · intro b member
    simpa using fun zero : b = 0 => noZero (zero ▸ member)

theorem split_at_zero_inj {before other after rest : List UInt8} (noZero : 0 ∉ before)
    (otherNoZero : 0 ∉ other) (same : before ++ 0 :: after = other ++ 0 :: rest) :
    before = other ∧ after = rest := by
  have front := congrArg (List.takeWhile (· ≠ 0)) same
  rw [takeWhile_zero noZero, takeWhile_zero otherNoZero] at front
  rw [front] at same
  exact ⟨front, (List.cons.inj (List.append_cancel_left same)).2⟩

theorem exec_strElement_terminated {before after : List UInt8} (noZero : 0 ∉ before)
    (holds : r.cursor = before ++ 0 :: after) :
    exec strElement r = exec (fromUtf8 before) { r with cursor := after } := by
  have upTo : r.cursor.takeWhile (· ≠ 0) = before := by rw [holds, takeWhile_zero noZero]
  have taken : exec cursorReadUntilZero r = (.ok (before ++ [0]), { r with cursor := after }) := by
    simp only [cursorReadUntilZero, exec_bind, exec_get, exec_set, exec_pure, upTo]
    rw [holds, List.append_cons before 0 after, List.take_left' (by simp), List.drop_left' (by simp)]
  rw [strElement, exec_bind_ok _ taken, dropZero, List.dropLast_concat]

theorem exec_strElement_open (noZero : 0 ∉ r.cursor) :
    exec strElement r = exec (fromUtf8 r.cursor.dropLast) { r with cursor := [] } := by
  have upTo : r.cursor.takeWhile (· ≠ 0) = r.cursor := by
    apply List.takeWhile_eq_self_iff.mpr
    intro b member
    simpa using fun zero : b = 0 => noZero (zero ▸ member)
  have taken : exec cursorReadUntilZero r = (.ok r.cursor, { r with cursor := [] }) := by
    simp only [cursorReadUntilZero, exec_bind, exec_get, exec_set, exec_pure, upTo]
    rw [List.take_of_length_le (Nat.le_succ _), List.drop_of_length_le (Nat.le_succ _)]
  rw [strElement, exec_bind_ok _ taken, dropZero]

theorem strElement_ok_iff (holds : 0 ∈ r.cursor) :
    exec strElement r = (.ok s, t)
      ↔ 0 ∉ Utf8.encode s ∧ r.cursor = Utf8.encode s ++ 0 :: t.cursor
        ∧ t = { r with cursor := t.cursor } := by
  obtain ⟨before, after, split, noZero⟩ := List.eq_append_cons_of_mem holds
  rw [exec_strElement_terminated noZero split, fromUtf8_ok_iff]
  constructor
  · rintro ⟨rfl, rfl⟩
    exact ⟨noZero, split, rfl⟩
  · rintro ⟨other, same, frame⟩
    rw [split] at same
    obtain ⟨here, rest⟩ := split_at_zero_inj noZero other same
    exact ⟨here, by rw [frame, rest]⟩

theorem strElement_open_ok_iff (noZero : 0 ∉ r.cursor) :
    exec strElement r = (.ok s, t)
      ↔ Utf8.decode? r.cursor.dropLast = some s ∧ t = { r with cursor := [] } := by
  rw [exec_strElement_open noZero, fromUtf8_ok_iff, Utf8.decode?_eq_some_iff]

end Bytes

section Strings

variable {r t : BdReader} {s : String}

theorem exec_readStr_byteMode (untyped : r.typeChecked = false) (inMode : r.mode = .byteMode) :
    exec readStr r = exec strElement r := by
  have tag : exec (readTypeTag .signedChar8StringType) r = (.ok (), r) := by
    rw [readTypeTag, exec_bind_ok _ (exec_get r), if_neg (by simp [untyped])]
    rfl
  rw [readStr, exec_bind_ok _ tag, exec_bind_ok _ (exec_get r), if_neg (by simp [inMode])]
  rfl

theorem exec_readStr_bitMode (untyped : r.typeChecked = false) (inMode : r.mode = .bitMode) :
    exec readStr r = exec (readStrLoop (r.cursor.length + 2) [] >>= fromUtf8) r := by
  have tag : exec (readTypeTag .signedChar8StringType) r = (.ok (), r) := by
    rw [readTypeTag, exec_bind_ok _ (exec_get r), if_neg (by simp [untyped])]
    rfl
  rw [readStr, exec_bind_ok _ tag, exec_bind_ok _ (exec_get r), if_pos inMode]

theorem exec_readByte (ready : r.Ready .bitMode false) (long : 8 ≤ r.bits.length) :
    ∃ b u, exec (readBits [0] 8) r = (.ok [b], u) ∧ u.Ready .bitMode false
      ∧ r.bits = ofByte b ++ u.bits := by
  have size : (r.bits.take 8).length = 8 := List.length_take_of_le long
  have some : r.bits.take 8 ≠ [] := List.ne_nil_of_length_pos (by omega)
  have read : Reads .bitMode false _ (r.bits.take 8) _ :=
    reads_readBits_few some (Nat.le_of_eq size)
  rw [size] at read
  obtain ⟨u, ran, after, left⟩ := read r (r.bits.drop 8) ready (List.take_append_drop 8 _).symm
  have back : ofByte (packByte (r.bits.take 8)) = r.bits.take 8 := by
    rw [ofByte_packByte _ (Nat.le_of_eq size), size]
    simp
  exact ⟨_, u, ran, after, by rw [back, left, List.take_append_drop]⟩

theorem readStrLoop_ok {turns : Nat} {buf out : List UInt8} (ready : r.Ready .bitMode false)
    (ran : exec (readStrLoop turns buf) r = (.ok out, t)) :
    ∃ bytes, 0 ∉ bytes ∧ out = buf ++ bytes ∧ r.bits = ofBytes (bytes ++ [0]) ++ t.bits
      ∧ t.Ready .bitMode false := by
  induction turns generalizing r buf with
  | zero => cases ran
  | succ turns ih =>
    by_cases short : r.bits.length < 8
    · have failed := exec_readBits_short ready (Nat.le_refl 8) short
      rw [readStrLoop, exec_bind_error _ failed] at ran
      cases ran
    · obtain ⟨b, u, read, after, starts⟩ := exec_readByte ready (Nat.le_of_not_lt short)
      have first : exec (index [b] 0) u = (.ok b, u) := rfl
      rw [readStrLoop, exec_bind_ok _ read, exec_bind_ok _ first] at ran
      split at ran
      next zero =>
        cases ran
        refine ⟨[], by simp, by simp, ?_, after⟩
        rw [starts, zero]
        simp
      next other =>
        obtain ⟨bytes, noZero, collected, later, final⟩ := ih after ran
        refine ⟨b :: bytes, ?_, by rw [collected, List.append_assoc, List.singleton_append], ?_, final⟩
        · intro member
          rcases List.mem_cons.mp member with here | there
          · exact other here.symm
          · exact noZero there
        · rw [starts, later, List.cons_append, ofBytes_cons, List.append_assoc]

theorem readsTerminated_bitMode (ready : r.Ready .bitMode false) : ReadsTerminated r := by
  have here : r.stream = r.bits := by rw [stream, ready.inMode]
  intro s rest
  rw [here]
  constructor
  · rintro ⟨t, ran, left⟩
    rw [exec_readStr_bitMode ready.checked ready.inMode, exec_bind] at ran
    rcases loop : exec (readStrLoop (r.cursor.length + 2) []) r with ⟨_ | out, u⟩
    · rw [loop] at ran
      cases ran
    · rw [loop] at ran
      obtain ⟨bytes, noZero, rfl, starts, after⟩ := readStrLoop_ok ready loop
      obtain ⟨rfl, rfl⟩ := fromUtf8_ok_iff.mp ran
      have there : t.stream = t.bits := by rw [stream, after.inMode]
      rw [← left, there]
      exact ⟨noZero, starts⟩
  · rintro ⟨noZero, starts⟩
    obtain ⟨t, ran, after, left⟩ :=
      Format.reads_str (Utf8.nul_not_mem_of_encode noZero) r rest ready starts
    exact ⟨t, ran, by rw [stream, after.inMode, left]⟩

theorem readsTerminated_byteMode (untyped : r.typeChecked = false) (inMode : r.mode = .byteMode) :
    ReadsTerminated r ↔ EndsStrings r.cursor := by
  have here : r.stream = ofBytes r.cursor := by rw [stream, inMode]
  have there (cursor : List UInt8) : stream { r with cursor := cursor } = ofBytes cursor := by
    rw [stream, inMode]
  rw [ReadsTerminated, exec_readStr_byteMode untyped inMode, here]
  constructor
  · intro reads
    by_contra unfinished
    rw [EndsStrings, not_or] at unfinished
    obtain ⟨noZero, text⟩ := unfinished
    obtain ⟨s, decoded⟩ := Option.ne_none_iff_exists'.mp text
    have ran := (strElement_open_ok_iff noZero).mpr ⟨decoded, rfl⟩
    obtain ⟨_, starts⟩ := (reads s []).mp ⟨_, ran, there []⟩
    rw [List.append_nil] at starts
    apply noZero
    rw [ofBytes_inj starts]
    simp
  · intro ends s rest
    by_cases holds : 0 ∈ r.cursor
    · constructor
      · rintro ⟨t, ran, left⟩
        obtain ⟨noZero, split, frame⟩ := (strElement_ok_iff holds).mp ran
        rw [frame, there] at left
        refine ⟨noZero, ?_⟩
        rw [← left, split, ofBytes_append, ofBytes_append, ofBytes_cons, List.append_assoc]
        simp
      · rintro ⟨noZero, starts⟩
        obtain ⟨back, split, left⟩ := ofBytes_eq_append starts
        rw [List.append_assoc, List.singleton_append] at split
        exact ⟨{ r with cursor := back }, (strElement_ok_iff holds).mpr ⟨noZero, split, rfl⟩,
          by rw [there, left]⟩
    · have text := ends.resolve_left holds
      constructor
      · rintro ⟨t, ran, _⟩
        rw [((strElement_open_ok_iff holds).mp ran).1] at text
        cases text
      · rintro ⟨_, starts⟩
        obtain ⟨back, split, _⟩ := ofBytes_eq_append starts
        exact absurd (by rw [split]; simp) holds

end Strings

theorem Untyped.ready (p : Untyped) : BdReader.Ready .bitMode false { p.reader with mode := .bitMode } :=
  ⟨rfl, p.untyped, p.uncached, p.sound.1, p.sound.2, fun byte => by cases byte⟩

theorem readsTerminated_iff (p : Untyped) :
    ReadsTerminated p.reader ↔ p.reader.mode = .bitMode ∨ EndsStrings p.reader.cursor := by
  cases inMode : p.reader.mode with
  | byteMode =>
    rw [readsTerminated_byteMode p.untyped inMode]
    simp
  | bitMode =>
    have ready := p.ready
    rw [← inMode] at ready
    have terminated : ReadsTerminated p.reader := readsTerminated_bitMode (inMode ▸ ready)
    simp [terminated]

def ModesAgree (r : BdReader) : Prop :=
  ∀ s rest, (∃ t, exec readStr { r with mode := .byteMode } = (.ok s, t) ∧ t.stream = rest)
    ↔ ∃ t, exec readStr { r with mode := .bitMode } = (.ok s, t) ∧ t.stream = rest

theorem modesAgree_iff (p : Untyped) (whole : p.reader.bitOffset = 8) :
    ModesAgree p.reader ↔ EndsStrings p.reader.cursor := by
  have same : stream { p.reader with mode := .bitMode } = stream { p.reader with mode := .byteMode } :=
    bits_whole whole
  have bitwise := readsTerminated_bitMode p.ready
  have bytewise := @readsTerminated_byteMode { p.reader with mode := .byteMode } p.untyped rfl
  rw [← bytewise]
  constructor
  · intro agree s rest
    rw [agree s rest, bitwise s rest, same]
  · intro terminated s rest
    rw [terminated s rest, bitwise s rest, same]

section Arrays

def TerminatedEach (values : List String) (rest bytes : List UInt8) : Prop :=
  (∀ s ∈ values, 0 ∉ Utf8.encode s)
    ∧ bytes = values.flatMap (fun s => Utf8.encode s ++ [0]) ++ rest

def EndsEach : Nat → List UInt8 → Prop
  | 0, _ => True
  | n + 1, bytes => EndsStrings bytes
    ∧ ∀ s after, 0 ∉ Utf8.encode s → bytes = Utf8.encode s ++ 0 :: after → EndsEach n after

variable {r t : BdReader} {n : Nat} {values : List String} {rest bytes : List UInt8}

theorem terminatedEach_cons {s : String} :
    TerminatedEach (s :: values) rest bytes
      ↔ ∃ after, 0 ∉ Utf8.encode s ∧ bytes = Utf8.encode s ++ 0 :: after
        ∧ TerminatedEach values rest after := by
  constructor
  · rintro ⟨noZero, whole⟩
    refine ⟨_, noZero s List.mem_cons_self, ?_, fun other member =>
      noZero other (List.mem_cons_of_mem s member), rfl⟩
    rw [whole, List.flatMap_cons]
    simp
  · rintro ⟨after, here, whole, noZero, later⟩
    refine ⟨fun other member => ?_, ?_⟩
    · rcases List.mem_cons.mp member with rfl | there
      · exact here
      · exact noZero other there
    · rw [whole, later, List.flatMap_cons]
      simp

theorem exec_readEach_end (n : Nat) (empty : r.cursor = []) :
    exec (Wire.readEach strElement n) r = (.ok (List.replicate n ""), r) := by
  have element : exec strElement r = (.ok "", r) := by
    have noZero : 0 ∉ r.cursor := by simp [empty]
    refine (strElement_open_ok_iff noZero).mpr ⟨?_, ?_⟩
    · rw [empty]
      exact Utf8.decode?_encode ""
    · rw [← empty]
  induction n with
  | zero => rfl
  | succ n ih => exact Wire.readEach_succ_ok_iff.mpr ⟨"", r, _, element, ih, rfl⟩

def ReadsTerminatedEach (n : Nat) (r : BdReader) : Prop :=
  ∀ values rest, (∃ t, exec (Wire.readEach strElement n) r = (.ok values, t) ∧ t.cursor = rest)
    ↔ values.length = n ∧ TerminatedEach values rest r.cursor

theorem exec_strElement_split {s : String} {after : List UInt8} (noZero : 0 ∉ Utf8.encode s)
    (split : r.cursor = Utf8.encode s ++ 0 :: after) :
    exec strElement r = (.ok s, { r with cursor := after }) :=
  (strElement_ok_iff (by rw [split]; simp)).mpr ⟨noZero, split, rfl⟩

theorem readsTerminatedEach_zero (r : BdReader) : ReadsTerminatedEach 0 r := by
  intro values rest
  constructor
  · rintro ⟨t, ran, rfl⟩
    cases ran
    exact ⟨rfl, by simp, rfl⟩
  · rintro ⟨none, _, whole⟩
    obtain rfl := List.length_eq_zero_iff.mp none
    exact ⟨r, rfl, whole⟩

theorem ReadsTerminatedEach.first (reads : ReadsTerminatedEach (n + 1) r) :
    EndsStrings r.cursor := by
  by_contra unfinished
  rw [EndsStrings, not_or] at unfinished
  obtain ⟨noZero, text⟩ := unfinished
  obtain ⟨s, decoded⟩ := Option.ne_none_iff_exists'.mp text
  have first := (strElement_open_ok_iff noZero).mpr ⟨decoded, rfl⟩
  have ran := Wire.readEach_succ_ok_iff.mpr ⟨s, _, _, first, exec_readEach_end n rfl, rfl⟩
  obtain ⟨_, terminated⟩ := (reads _ _).mp ⟨_, ran, rfl⟩
  obtain ⟨after, _, split, _⟩ := terminatedEach_cons.mp terminated
  exact noZero (by rw [split]; simp)

theorem ReadsTerminatedEach.later {s : String} {after : List UInt8}
    (reads : ReadsTerminatedEach (n + 1) r) (noZero : 0 ∉ Utf8.encode s)
    (split : r.cursor = Utf8.encode s ++ 0 :: after) :
    ReadsTerminatedEach n { r with cursor := after } := by
  have first := exec_strElement_split noZero split
  intro values rest
  constructor
  · rintro ⟨t, ran, left⟩
    have whole := Wire.readEach_succ_ok_iff.mpr ⟨s, _, values, first, ran, rfl⟩
    obtain ⟨count, terminated⟩ := (reads (s :: values) rest).mp ⟨t, whole, left⟩
    obtain ⟨other, _, again, later⟩ := terminatedEach_cons.mp terminated
    have same := split.symm.trans again
    obtain rfl := (split_at_zero_inj noZero noZero same).2
    exact ⟨Nat.succ.inj count, later⟩
  · rintro ⟨count, later⟩
    obtain ⟨t, ran, left⟩ := (reads (s :: values) rest).mpr
      ⟨congrArg (· + 1) count, terminatedEach_cons.mpr ⟨after, noZero, split, later⟩⟩
    obtain ⟨other, u, others, ranFirst, next, same⟩ := Wire.readEach_succ_ok_iff.mp ran
    rw [first] at ranFirst
    obtain ⟨rfl, rfl⟩ := List.cons.inj same
    cases ranFirst
    exact ⟨t, next, left⟩

theorem readsTerminatedEach_succ (ends : EndsStrings r.cursor)
    (later : ∀ s after, 0 ∉ Utf8.encode s → r.cursor = Utf8.encode s ++ 0 :: after →
      ReadsTerminatedEach n { r with cursor := after }) :
    ReadsTerminatedEach (n + 1) r := by
  intro values rest
  constructor
  · rintro ⟨t, ran, left⟩
    obtain ⟨s, u, others, first, next, rfl⟩ := Wire.readEach_succ_ok_iff.mp ran
    by_cases holds : 0 ∈ r.cursor
    next =>
      obtain ⟨noZero, split, frame⟩ := (strElement_ok_iff holds).mp first
      rw [frame] at next
      obtain ⟨count, terminated⟩ := (later s _ noZero split others rest).mp ⟨t, next, left⟩
      exact ⟨congrArg (· + 1) count, terminatedEach_cons.mpr ⟨_, noZero, split, terminated⟩⟩
    next =>
      have text := ends.resolve_left holds
      rw [((strElement_open_ok_iff holds).mp first).1] at text
      cases text
  · rintro ⟨count, terminated⟩
    obtain ⟨s, others, rfl⟩ := List.exists_cons_of_length_eq_add_one count
    obtain ⟨after, noZero, split, terminatedLater⟩ := terminatedEach_cons.mp terminated
    obtain ⟨t, ran, left⟩ :=
      (later s after noZero split others rest).mpr ⟨Nat.succ.inj count, terminatedLater⟩
    have first := exec_strElement_split noZero split
    exact ⟨t, Wire.readEach_succ_ok_iff.mpr ⟨s, _, others, first, ran, rfl⟩, left⟩

theorem readsTerminatedEach_iff : ReadsTerminatedEach n r ↔ EndsEach n r.cursor := by
  induction n generalizing r with
  | zero => exact iff_of_true (readsTerminatedEach_zero r) trivial
  | succ n ih =>
    constructor
    · intro reads
      exact ⟨reads.first, fun s after noZero split => ih.mp (reads.later noZero split)⟩
    · rintro ⟨ends, later⟩
      exact readsTerminatedEach_succ ends fun s after noZero split =>
        ih.mpr (later s after noZero split)

-- what comes before the elements
def strArrayHeader : ReadM Nat := do
  ensureMode .byteMode
  expectArray .signedChar8StringType
  readArrayNumElements

theorem readStrArray_eq : readStrArray = strArrayHeader >>= Wire.readEach strElement := by
  simp only [readStrArray, readArray, strArrayHeader, bind_assoc]

def ArrayTerminated (r : BdReader) : Prop :=
  ∀ values rest, (∃ t, exec readStrArray r = (.ok values, t) ∧ t.cursor = rest)
    ↔ ∃ n t, exec strArrayHeader r = (.ok n, t) ∧ values.length = n
      ∧ TerminatedEach values rest t.cursor

theorem arrayTerminated_iff (r : BdReader) :
    ArrayTerminated r ↔ ∀ n t, exec strArrayHeader r = (.ok n, t) → EndsEach n t.cursor := by
  rw [ArrayTerminated, readStrArray_eq]
  rcases header : exec strArrayHeader r with ⟨fault | n, u⟩
  · simp [exec_bind, header]
  · have elements : ReadsTerminatedEach n u ↔ EndsEach n u.cursor := readsTerminatedEach_iff
    rw [exec_bind_ok _ header]
    constructor
    · intro reads m t same
      cases same
      refine elements.mp fun values rest => (reads values rest).trans ?_
      constructor
      · rintro ⟨m, t, same, count, terminated⟩
        cases same
        exact ⟨count, terminated⟩
      · rintro ⟨count, terminated⟩
        exact ⟨n, u, rfl, count, terminated⟩
    · intro ends values rest
      rw [elements.mpr (ends n u rfl) values rest]
      constructor
      · rintro ⟨count, terminated⟩
        exact ⟨n, u, rfl, count, terminated⟩
      · rintro ⟨m, t, same, count, terminated⟩
        cases same
        exact ⟨count, terminated⟩

end Arrays

end BdReader

end BitDemon
