import BitDemon.Library.Runs
import BitDemon.Messaging.Peek
import BitDemon.Messaging.ReaderCalls

set_option autoImplicit false

/-!
# Runs with looks at the next tag

A look at the next tag moves it into the cache, and the read that follows takes
it from there. Two runs, one with the look and one without it, are in step again
after that read.
-/

namespace BitDemon

open Machine Bits Runs

namespace TypedRead

def dataType : TypedRead → BdDataType
  | .bool => .boolType
  | .i8 | .i8Array => .signedChar8Type
  | .u8 | .u8Array => .unsignedChar8Type
  | .i16 | .i16Array => .signedInteger16Type
  | .u16 | .u16Array => .unsignedInteger16Type
  | .i32 | .i32Array => .signedInteger32Type
  | .u32 | .u32Array => .unsignedInteger32Type
  | .i64 | .i64Array => .signedInteger64Type
  | .u64 | .u64Array => .unsignedInteger64Type
  | .f32 | .f32Array => .float32Type
  | .f64 | .f64Array => .float64Type
  | .str | .strArray => .signedChar8StringType
  | .blob => .blobType

def isArray : TypedRead → Bool
  | .i8Array | .u8Array | .i16Array | .u16Array | .i32Array | .u32Array | .i64Array | .u64Array
  | .f32Array | .f64Array | .strArray => true
  | _ => false

end TypedRead

namespace NextIs

def dataType (n : NextIs) : BdDataType := n.typed.dataType

theorem ask_eq (n : NextIs) : n.ask = BdReader.nextIs n.dataType := by
  cases n <;> rfl

theorem isArray_typed (n : NextIs) : n.typed.isArray = false := by
  cases n <;> rfl

def after (r : BdReader) (n : NextIs) : BdReader := (exec n.ask r).2

end NextIs

def ReaderCall.IsTyped : ReaderCall → Prop
  | .typed _ | .nextIs _ => True
  | _ => False

namespace BdReader

def withTag (tag : BufferDataType) (r : BdReader) : BdReader := { r with cachedDataType := tag }

/-- A tag that is no longer cached is not looked at. -/
def Same (s r : BdReader) : Prop :=
  s = r ∨ r.hasDataTypeCached = false ∧ ∃ tag, s = r.withTag tag

abbrev Steady {α : Type} (m : ReadM α) : Prop := Related Same Same m m

section Steady

variable {α β : Type}

theorem steady_pure (a : α) : Steady (pure a : ReadM α) := fun _ _ same => ⟨rfl, same⟩

theorem steady_bind {m : ReadM α} {f : α → ReadM β} (first : Steady m)
    (next : ∀ a, Steady (f a)) : Steady (m >>= f) :=
  related_bind first next

theorem steady_of_raw {m : ReadM α} (raw : Raw m) : Steady m := by
  rintro s r (rfl | ⟨uncached, tag, rfl⟩)
  · exact ⟨rfl, .inl rfl⟩
  · have changed := raw ⟨false, tag, r.typeChecked⟩ r
    have still : Mark.on ⟨r.hasDataTypeCached, r.cachedDataType, r.typeChecked⟩ (exec m r).2
        = (exec m r).2 := (raw _).fixed rfl
    have flag := (congrArg hasDataTypeCached still).symm
    have checked := (congrArg BdReader.typeChecked still).symm
    have start : Mark.on ⟨false, tag, r.typeChecked⟩ r = r.withTag tag := by
      simp [Mark.on, withTag, uncached]
    rw [start] at changed
    rw [changed]
    refine ⟨rfl, .inr ⟨flag.trans uncached, tag, ?_⟩⟩
    simp only [Mark.on, uncached] at flag checked ⊢
    simp [withTag, flag, checked]

theorem steady_get_bind {f : BdReader → ReadM β} (unseen : ∀ tag r, f (withTag tag r) = f r)
    (next : ∀ r, Steady (f r)) : Steady (get >>= f) := by
  intro s r same
  rw [exec_bind, exec_bind]
  have alike : f s = f r := by
    rcases same with rfl | ⟨-, tag, rfl⟩
    · rfl
    · exact unseen tag r
  simpa [alike] using next r s r same

theorem steady_modify {f : BdReader → BdReader}
    (order : ∀ tag r, f (withTag tag r) = withTag tag (f r))
    (flag : ∀ r, (f r).hasDataTypeCached = r.hasDataTypeCached) : Steady (modify f) := by
  rintro s r (rfl | ⟨uncached, tag, rfl⟩)
  · exact ⟨rfl, .inl rfl⟩
  · exact ⟨rfl, .inr ⟨(flag r).trans uncached, tag, order tag r⟩⟩

/-- A tag that is not in the cache. -/
def readNewDataType : ReadM BufferDataType := do
  let r ← get
  if r.mode ≠ .bitMode then do
    let value ← cursorReadU8
    BufferDataType.fromValue value
  else do
    let buf ← readBits [0] 5
    let value ← index buf 0
    BufferDataType.fromValue value

theorem raw_readNewDataType : Raw readNewDataType :=
  raw_get_bind (fun _ _ => rfl) fun _ =>
    raw_ite (raw_bind raw_cursorReadU8 fun _ => raw_fromValue _)
      (raw_bind (raw_readBits _ _) fun _ => raw_bind (raw_index _ _) fun _ => raw_fromValue _)

theorem exec_readDataType_uncached {r : BdReader} (uncached : r.hasDataTypeCached = false) :
    exec readDataType r = exec readNewDataType r := by
  rw [readDataType, exec_bind_ok _ (exec_get r), if_neg (by simp [uncached])]
  rfl

theorem exec_readDataType_cached {r : BdReader} (cached : r.hasDataTypeCached = true) :
    exec readDataType r = (.ok r.cachedDataType, { r with hasDataTypeCached := false }) := by
  rw [readDataType, exec_bind_ok _ (exec_get r), if_pos cached]
  rfl

theorem steady_readDataType : Steady readDataType := by
  rintro s r (rfl | ⟨uncached, tag, rfl⟩)
  · exact ⟨rfl, .inl rfl⟩
  · rw [exec_readDataType_uncached uncached, exec_readDataType_uncached (r := r.withTag tag) uncached]
    exact steady_of_raw raw_readNewDataType _ _ (.inr ⟨uncached, tag, rfl⟩)

theorem steady_expectNonArray (expected : BdDataType) : Steady (expectNonArray expected) :=
  steady_bind steady_readDataType fun _ => steady_of_raw (raw_ensure _ _)

theorem steady_expectArray (expected : BdDataType) : Steady (expectArray expected) :=
  steady_bind steady_readDataType fun _ => steady_of_raw (raw_ensure _ _)

theorem steady_readTypeTag (expected : BdDataType) : Steady (readTypeTag expected) := by
  refine steady_get_bind (fun _ _ => rfl) fun r => ?_
  split
  · exact steady_expectNonArray expected
  · exact steady_pure ()

theorem steady_nextIs (expected : BdDataType) : Steady (nextIs expected) := by
  refine steady_bind ?_ fun _ => steady_pure _
  rintro s r (rfl | ⟨uncached, tag, rfl⟩)
  · exact ⟨rfl, .inl rfl⟩
  · cases checked : r.typeChecked with
    | false =>
      have unchecked (t : BdReader) (off : t.typeChecked = false) :
          exec nextDataType t = (.ok (.noArray .noType), t) := by
        rw [nextDataType, exec_bind_ok _ (exec_get t), if_pos (by simp [off])]
        rfl
      rw [unchecked r checked, unchecked (r.withTag tag) checked]
      exact ⟨rfl, .inr ⟨uncached, tag, rfl⟩⟩
    | true =>
      have looks (t : BdReader) (on : t.typeChecked = true) (empty : t.hasDataTypeCached = false) :
          exec nextDataType t = exec (readDataType >>= fun dataType => do
            modify fun r => { r with cachedDataType := dataType, hasDataTypeCached := true }
            pure dataType) t := by
        rw [nextDataType, exec_bind_ok _ (exec_get t), if_neg (by simp [on]), if_neg (by simp [empty])]
      rw [looks r checked uncached, looks (r.withTag tag) checked uncached]
      refine steady_bind steady_readDataType (fun dataType => ?_) _ _ (.inr ⟨uncached, tag, rfl⟩)
      -- the new tag takes the place of the old one
      rintro s r (rfl | ⟨_, other, rfl⟩)
      · exact ⟨rfl, .inl rfl⟩
      · exact ⟨rfl, .inl rfl⟩

/-- The read begins with its tag, and what follows does not look at the cache. -/
def Tagged (expected : BdDataType) (m : ReadM α) : Prop :=
  ∃ rest : ReadM α, m = (readTypeTag expected >>= fun _ => rest) ∧ Steady rest

def TaggedArray (expected : BdDataType) (m : ReadM α) : Prop :=
  ∃ rest : ReadM α, m = (ensureMode .byteMode >>= fun _ => expectArray expected >>= fun _ => rest)
    ∧ Steady rest

theorem tagged_readScalar (expected : BdDataType) (c : LeCodec α) :
    Tagged expected (readScalar expected c) :=
  ⟨_, rfl, steady_of_raw (raw_get_bind (fun _ _ => rfl) fun _ =>
    raw_ite (raw_bind (raw_cursorReadExact _) fun _ => raw_pure _)
      (raw_bind (raw_readBits _ _) fun _ => raw_pure _))⟩

theorem tagged_readBool : Tagged .boolType readBool :=
  ⟨_, rfl, steady_of_raw (raw_get_bind (fun _ _ => rfl) fun _ =>
    raw_ite (raw_bind raw_cursorReadU8 fun _ => raw_pure _)
      (raw_bind (raw_readBits _ _) fun _ => raw_bind (raw_index _ _) fun _ => raw_pure _))⟩

theorem tagged_readStr : Tagged .signedChar8StringType readStr :=
  ⟨_, rfl, steady_of_raw (raw_get_bind (fun _ _ => rfl) fun _ =>
    raw_ite (raw_bind (raw_readStrLoop _ _) fun _ => raw_fromUtf8 _)
      (raw_bind raw_cursorReadUntilZero fun _ => raw_fromUtf8 _))⟩

theorem Tagged.steady {expected : BdDataType} {m : ReadM α} (tagged : Tagged expected m) :
    Steady m := by
  obtain ⟨rest, rfl, steady⟩ := tagged
  exact steady_bind (steady_readTypeTag expected) fun _ => steady

theorem tagged_readBlob : Tagged .blobType readBlob :=
  ⟨_, rfl, steady_bind (tagged_readScalar _ _).steady fun _ =>
    steady_of_raw (raw_get_bind (fun _ _ => rfl) fun _ => raw_ite (raw_readBits _ _)
      (raw_bind (raw_cursorRead _) fun _ => raw_bind (raw_ensure _ _) fun _ => raw_pure _))⟩

theorem tagged_readArray (expected : BdDataType) {element : ReadM α} (each : Raw element) :
    TaggedArray expected (readArray expected element) := by
  have numElements : Steady readArrayNumElements :=
    steady_bind (steady_expectNonArray _) fun _ => steady_of_raw (raw_bind (raw_cursorReadExact _)
      fun _ => raw_bind (raw_cursorReadExact _) fun _ => raw_pure _)
  exact ⟨_, rfl, steady_bind numElements fun n => steady_of_raw (raw_readEach each n)⟩

theorem TaggedArray.steady {expected : BdDataType} {m : ReadM α} (tagged : TaggedArray expected m) :
    Steady m := by
  obtain ⟨rest, rfl, steady⟩ := tagged
  exact steady_bind (steady_of_raw (raw_ensureMode _)) fun _ =>
    steady_bind (steady_expectArray expected) fun _ => steady

theorem tagged_value {k : TypedRead} (value : k.isArray = false) : Tagged k.dataType k.read := by
  cases k with
  | bool => exact tagged_readBool
  | str => exact tagged_readStr
  | blob => exact tagged_readBlob
  | i8 | u8 | i16 | u16 | i32 | u32 | i64 | u64 | f32 | f64 => exact tagged_readScalar _ _
  | _ => cases value

theorem tagged_array {k : TypedRead} (array : k.isArray = true) : TaggedArray k.dataType k.read := by
  cases k with
  | strArray => exact tagged_readArray _ raw_strElement
  | i8Array | u8Array | i16Array | u16Array | i32Array | u32Array | i64Array | u64Array | f32Array
  | f64Array => exact tagged_readArray _ (raw_elementOf _)
  | _ => cases array

theorem steady_typed (k : TypedRead) : Steady k.read := by
  cases kind : k.isArray with
  | false => exact (tagged_value kind).steady
  | true => exact (tagged_array kind).steady

theorem steady_call (c : ReaderCall) : Steady c.run := by
  cases c with
  | typed k => exact steady_typed k
  | nextIs n =>
    have asks : Steady n.ask := n.ask_eq ▸ steady_nextIs n.dataType
    exact asks
  | bits buf count => exact steady_of_raw (raw_readBits buf count)
  | bytes n => exact steady_of_raw (raw_readBytes n)
  | typeCheckedBit =>
    exact steady_bind (steady_of_raw (raw_ensureMode _)) fun _ =>
      steady_bind (steady_of_raw (raw_readBits _ _)) fun _ =>
        steady_bind (steady_of_raw (raw_index _ _)) fun _ =>
          steady_modify (fun _ _ => rfl) fun _ => rfl
  | setMode mode => exact steady_modify (fun _ _ => rfl) fun _ => rfl
  | setTypeChecked typeChecked => exact steady_modify (fun _ _ => rfl) fun _ => rfl
  | remainingBytes => exact steady_of_raw raw_remainingBytes
  | remainingBits => exact steady_of_raw raw_remainingBits

end Steady

def Peeked (s r : BdReader) : Prop :=
  r.typeChecked = true ∧ r.hasDataTypeCached = false ∧ ∃ tag t, exec readDataType r = (.ok tag, t)
    ∧ s = { t with cachedDataType := tag, hasDataTypeCached := true }

section Peeked

variable {α : Type} {s r : BdReader}

theorem after_readDataType {tag : BufferDataType} {t : BdReader}
    (uncached : r.hasDataTypeCached = false) (read : exec readDataType r = (.ok tag, t)) :
    t.hasDataTypeCached = false ∧ t.typeChecked = r.typeChecked ∧ t.mode = r.mode := by
  have still := (raw_readNewDataType ⟨r.hasDataTypeCached, r.cachedDataType, r.typeChecked⟩).fixed
    (s := r) rfl
  have safe : SafeIn r.mode readDataType := safe_readDataType
  have inMode := (safe r rfl).1
  rw [← exec_readDataType_uncached uncached] at still
  rw [read] at still inMode
  refine ⟨?_, ?_, inMode⟩
  · exact (congrArg hasDataTypeCached still).symm.trans uncached
  · exact (congrArg BdReader.typeChecked still).symm

theorem Peeked.typeChecked (peeked : Peeked s r) : s.typeChecked = true := by
  obtain ⟨checked, uncached, tag, t, read, rfl⟩ := peeked
  exact (after_readDataType uncached read).2.1.trans checked

theorem Peeked.mode (peeked : Peeked s r) : s.mode = r.mode := by
  obtain ⟨-, uncached, tag, t, read, rfl⟩ := peeked
  exact (after_readDataType uncached read).2.2

theorem drains_readDataType : Related Peeked Same readDataType readDataType := by
  rintro _ r ⟨-, uncached, tag, t, read, rfl⟩
  have emptied := (after_readDataType uncached read).1
  rw [exec_readDataType_cached rfl, read]
  exact ⟨rfl, .inr ⟨emptied, tag, by simp [withTag, emptied]⟩⟩

theorem drains_tagged {expected : BdDataType} {m : ReadM α} (tagged : Tagged expected m) :
    Related Peeked Same m m := by
  obtain ⟨rest, rfl, steady⟩ := tagged
  refine related_bind ?_ fun _ => steady
  intro s r peeked
  have looked : Related Peeked Same (expectNonArray expected) (expectNonArray expected) :=
    related_bind drains_readDataType fun _ => steady_of_raw (raw_ensure _ _)
  rw [readTypeTag, exec_bind_ok _ (exec_get s), exec_bind_ok _ (exec_get r),
    if_pos peeked.typeChecked, if_pos peeked.1]
  exact looked s r peeked

theorem drains_taggedArray {expected : BdDataType} {m : ReadM α} (tagged : TaggedArray expected m)
    (peeked : Peeked s r) (inMode : r.mode = .byteMode) :
    (exec m s).1 = (exec m r).1 ∧ Same (exec m s).2 (exec m r).2 := by
  obtain ⟨rest, rfl, steady⟩ := tagged
  have passes (t : BdReader) (inMode : t.mode = .byteMode) :
      exec (ensureMode .byteMode) t = (.ok (), t) := by
    simp [ensureMode, exec_bind, inMode]
  rw [exec_bind_ok _ (passes s (peeked.mode.trans inMode)), exec_bind_ok _ (passes r inMode)]
  exact related_bind (related_bind drains_readDataType fun _ => steady_of_raw (raw_ensure _ _))
    (fun _ => steady) s r peeked

/-- In bit mode an array is refused before its tag is looked for. -/
def Drains (k : TypedRead) (r : BdReader) : Prop := k.isArray = false ∨ r.mode = .byteMode

theorem drains_typed {k : TypedRead} (peeked : Peeked s r) (drains : Drains k r) :
    (exec k.read s).1 = (exec k.read r).1 ∧ Same (exec k.read s).2 (exec k.read r).2 := by
  cases kind : k.isArray with
  | false => exact drains_tagged (tagged_value kind) s r peeked
  | true =>
    have inMode : r.mode = .byteMode := drains.resolve_left (by simp [kind])
    exact drains_taggedArray (tagged_array kind) peeked inMode

theorem refused_typed {k : TypedRead} (kept : ¬Drains k r) :
    exec k.read r = (.error (.error (.readerMode .byteMode .bitMode)), r) := by
  obtain ⟨array, notByte⟩ := not_or.mp kept
  obtain ⟨rest, begins, -⟩ := tagged_array (Bool.eq_true_of_not_eq_false array)
  have inMode : r.mode = .bitMode := by
    cases mode : r.mode with
    | byteMode => exact absurd mode notByte
    | bitMode => rfl
  rw [begins, exec_bind_error _ (exec_ensureMode_refused inMode)]

end Peeked

section Looking

variable {s r t : BdReader} {n : NextIs}

theorem exec_ask_cached (checked : r.typeChecked = true) (cached : r.hasDataTypeCached = true)
    (n : NextIs) : exec n.ask r = (.ok (r.cachedDataType.eqNonArray n.dataType), r) := by
  have next : exec nextDataType r = (.ok r.cachedDataType, r) := by
    rw [nextDataType, exec_bind_ok _ (exec_get r), if_neg (by simp [checked]), if_pos cached]
    rfl
  rw [n.ask_eq, nextIs, exec_bind_ok _ next]
  rfl

theorem exec_ask_uncached (checked : r.typeChecked = true) (uncached : r.hasDataTypeCached = false)
    (n : NextIs) :
    exec n.ask r = match exec readDataType r with
      | (.ok tag, t) =>
        (.ok (tag.eqNonArray n.dataType), { t with cachedDataType := tag, hasDataTypeCached := true })
      | (.error fault, t) => (.error fault, t) := by
  rw [n.ask_eq, nextIs, exec_bind, nextDataType, exec_bind_ok _ (exec_get r),
    if_neg (by simp [checked]), if_neg (by simp [uncached]), exec_bind]
  rcases exec readDataType r with ⟨result, t⟩
  cases result <;> rfl

theorem Peeked.cached (peeked : Peeked s r) : s.hasDataTypeCached = true := by
  obtain ⟨-, -, tag, t, -, rfl⟩ := peeked
  rfl

theorem ask_peeked (peeked : Peeked s r) (n : NextIs) :
    (exec n.ask s).1 = (exec n.ask r).1 ∧ Same (exec n.ask s).2 (exec n.ask r).2 := by
  have looked := exec_ask_cached peeked.typeChecked peeked.cached n
  obtain ⟨checked, uncached, tag, t, read, rfl⟩ := peeked
  rw [looked, exec_ask_uncached checked uncached n, read]
  exact ⟨rfl, .inl rfl⟩

theorem peeked_of_ask {answer : Bool} (checked : r.typeChecked = true)
    (asked : exec n.ask r = (.ok answer, t)) : t = r ∨ Peeked t r := by
  cases cached : r.hasDataTypeCached with
  | true =>
    rw [exec_ask_cached checked cached n] at asked
    exact .inl (congrArg Prod.snd asked).symm
  | false =>
    rw [exec_ask_uncached checked cached n] at asked
    rcases read : exec readDataType r with ⟨result, u⟩
    rw [read] at asked
    cases result with
    | ok tag => exact .inr ⟨checked, cached, tag, u, read, (congrArg Prod.snd asked).symm⟩
    | error fault => cases asked

def Answered (r : BdReader) (peeks : List NextIs) : Prop :=
  Meets NextIs.after (fun r n => ∃ answer, (exec n.ask r).1 = .ok answer) r peeks

theorem peeked_of_answered {peeks : List NextIs} (checked : r.typeChecked = true)
    (start : s = r ∨ Peeked s r) (answered : Answered s peeks) :
    run NextIs.after s peeks = r ∨ Peeked (run NextIs.after s peeks) r := by
  induction peeks generalizing s with
  | nil => exact start
  | cons n peeks ih =>
    obtain ⟨⟨answer, here⟩, later⟩ := answered
    refine ih ?_ later
    have asked : exec n.ask s = (.ok answer, NextIs.after s n) := Prod.ext here rfl
    rcases start with rfl | peeked
    · exact peeked_of_ask checked asked
    · have stays : NextIs.after s n = s := by
        rw [NextIs.after, exec_ask_cached peeked.typeChecked peeked.cached n]
      rw [stays]
      exact .inr peeked

end Looking

def outcomes : BdReader → List ReaderCall → List (Σ c : ReaderCall, Except Fault c.Out)
  | _, [] => []
  | r, c :: rest => ⟨c, (exec c.run r).1⟩ :: outcomes (c.after r) rest

theorem outcomes_same {s r : BdReader} (same : Same s r) (calls : List ReaderCall) :
    outcomes s calls = outcomes r calls := by
  induction calls generalizing s r with
  | nil => rfl
  | cons c rest ih =>
    obtain ⟨outcome, later⟩ := steady_call c s r same
    rw [outcomes, outcomes, outcome, ReaderCall.after, ReaderCall.after, ih later]

theorem outcomes_typed {s r : BdReader} (peeked : Peeked s r) (k : TypedRead)
    (rest : List ReaderCall) (later : Drains k r ∨ outcomes s rest = outcomes r rest) :
    outcomes s (.typed k :: rest) = outcomes r (.typed k :: rest) := by
  by_cases drains : Drains k r
  next =>
    obtain ⟨outcome, same⟩ := drains_typed peeked drains
    have alike := outcomes_same same rest
    simp only [outcomes, ReaderCall.run, ReaderCall.after, outcome, alike]
  next =>
    have kept : ¬Drains k s := by rwa [Drains, peeked.mode]
    simp only [outcomes, ReaderCall.run, ReaderCall.after, refused_typed drains,
      refused_typed kept, later.resolve_left drains]

theorem outcomes_peeked {s r : BdReader} (peeked : Peeked s r) {calls : List ReaderCall}
    (typed : ∀ c ∈ calls, c.IsTyped) : outcomes s calls = outcomes r calls := by
  induction calls with
  | nil => rfl
  | cons c rest ih =>
    have later := ih fun d member => typed d (List.mem_cons_of_mem c member)
    have here := typed c List.mem_cons_self
    cases c with
    | typed k => exact outcomes_typed peeked k rest (.inr later)
    | nextIs n =>
      obtain ⟨outcome, same⟩ := ask_peeked peeked n
      have alike := outcomes_same same rest
      simp only [outcomes, ReaderCall.run, ReaderCall.after, outcome, alike]
    | _ => exact here.elim

structure TypeChecked where
  reader : BdReader
  sound : Sound reader
  checked : reader.typeChecked = true

abbrev StaysChecked {α : Type} (m : ReadM α) : Prop :=
  Keeps (fun r => Sound r ∧ r.typeChecked = true) (fun _ => True) m

section StaysChecked

variable {α : Type}

theorem typeChecked_of_raw {m : ReadM α} (raw : Raw m) (r : BdReader) :
    (exec m r).2.typeChecked = r.typeChecked :=
  have still := (raw ⟨r.hasDataTypeCached, r.cachedDataType, r.typeChecked⟩).fixed (s := r) rfl
  (congrArg BdReader.typeChecked still).symm

theorem checked_of_raw {m : ReadM α} (raw : Raw m) (graceful : Graceful Sound m) :
    StaysChecked m :=
  fun r kept => ⟨⟨(graceful r kept.1).1, (typeChecked_of_raw raw r).trans kept.2⟩, fun _ _ => trivial⟩

theorem checked_ensure (condition : Bool) (e : BdError) : StaysChecked (ensure condition e) :=
  checked_of_raw (raw_ensure _ _) (graceful_ensure _ _)

theorem checked_readDataType : StaysChecked readDataType := by
  intro r kept
  refine ⟨⟨(graceful_readDataType r kept.1).1, ?_⟩, fun _ _ => trivial⟩
  cases cached : r.hasDataTypeCached with
  | true =>
    rw [exec_readDataType_cached cached]
    exact kept.2
  | false =>
    rw [exec_readDataType_uncached cached]
    exact (typeChecked_of_raw raw_readNewDataType r).trans kept.2

theorem checked_nextIs (expected : BdDataType) : StaysChecked (nextIs expected) := by
  refine keeps_bind (keeps_get_bind fun r _ => ?_) fun _ => keeps_pure _
  refine keeps_ite (fun _ => keeps_pure _) fun _ => keeps_ite (fun _ => keeps_pure _) fun _ => ?_
  exact keeps_bind checked_readDataType fun _ =>
    keeps_bind (keeps_modify fun _ kept => kept) fun _ => keeps_pure _

theorem checked_expectNonArray (expected : BdDataType) : StaysChecked (expectNonArray expected) :=
  keeps_bind checked_readDataType fun _ => checked_ensure _ _

theorem checked_readTypeTag (expected : BdDataType) : StaysChecked (readTypeTag expected) :=
  keeps_get_bind fun _ _ => keeps_ite (fun _ => checked_expectNonArray _) fun _ => keeps_pure _

theorem checked_cursorReadExact (n : Nat) : StaysChecked (cursorReadExact n) :=
  checked_of_raw (raw_cursorReadExact n) (graceful_cursorReadExact n)

theorem checked_readZeros (n : Nat) : StaysChecked (readBits (zeros n) (n * 8)) :=
  checked_of_raw (raw_readBits _ _) (graceful_readBits_zeros n)

theorem checked_readScalar (expected : BdDataType) (c : LeCodec α) :
    StaysChecked (readScalar expected c) := by
  refine keeps_bind (checked_readTypeTag _) fun _ => keeps_get_bind fun _ _ => ?_
  exact keeps_ite (fun _ => keeps_bind (checked_cursorReadExact _) fun _ => keeps_pure _) fun _ =>
    keeps_bind (checked_readZeros _) fun _ => keeps_pure _

theorem checked_readOne {count : Nat} (few : count ≤ 8) {f : UInt8 → ReadM α}
    (next : ∀ byte, StaysChecked (f byte)) :
    StaysChecked (do
      let buf ← readBits [0] count
      let byte ← index buf 0
      f byte) := by
  have byte : StaysChecked (do
      let buf ← readBits [0] count
      index buf 0) := by
    refine checked_of_raw (raw_bind (raw_readBits _ _) fun _ => raw_index _ _) ?_
    simpa using graceful_readOne few (f := pure) fun _ => keeps_pure _
  simpa using keeps_bind byte next

theorem checked_readBool : StaysChecked readBool := by
  refine keeps_bind (checked_readTypeTag _) fun _ => keeps_get_bind fun _ _ => ?_
  refine keeps_ite (fun _ => ?_) fun _ => checked_readOne (by decide) fun _ => keeps_pure _
  exact keeps_bind (checked_of_raw raw_cursorReadU8 graceful_cursorReadU8) fun _ => keeps_pure _

theorem checked_fromUtf8 (bytes : List UInt8) : StaysChecked (fromUtf8 bytes) :=
  checked_of_raw (raw_fromUtf8 bytes) (graceful_fromUtf8 bytes)

theorem checked_readStrLoop (turns : Nat) : ∀ buf, StaysChecked (readStrLoop turns buf) := by
  induction turns with
  | zero =>
    intro buf
    exact keeps_throw trivial
  | succ turns ih =>
    intro buf
    exact checked_readOne (by decide) fun _ => keeps_ite (fun _ => keeps_pure _) fun _ => ih _

theorem checked_strElement : StaysChecked strElement :=
  keeps_bind (checked_of_raw raw_cursorReadUntilZero graceful_cursorReadUntilZero) fun _ =>
    checked_fromUtf8 _

theorem checked_readStr : StaysChecked readStr := by
  refine keeps_bind (checked_readTypeTag _) fun _ => keeps_get_bind fun _ _ => ?_
  exact keeps_ite (fun _ => keeps_bind (checked_readStrLoop _ _) fun _ => checked_fromUtf8 _)
    fun _ => checked_strElement

theorem checked_readBlob : StaysChecked readBlob := by
  refine keeps_bind (checked_readTypeTag _) fun _ => keeps_bind (checked_readScalar _ _) fun _ => ?_
  refine keeps_get_bind fun _ _ => keeps_ite (fun _ => checked_readZeros _) fun _ => ?_
  exact keeps_bind (checked_of_raw (raw_cursorRead _) (graceful_cursorRead _)) fun _ =>
    keeps_bind (checked_ensure _ _) fun _ => keeps_pure _

theorem checked_readEach {element : ReadM α} (each : StaysChecked element) (n : Nat) :
    StaysChecked (Wire.readEach element n) := by
  induction n with
  | zero => exact keeps_pure _
  | succ n ih => exact keeps_bind each fun _ => keeps_bind ih fun _ => keeps_pure _

theorem checked_readArray (expected : BdDataType) {element : ReadM α}
    (each : StaysChecked element) : StaysChecked (readArray expected element) := by
  have inMode : StaysChecked (ensureMode .byteMode) :=
    checked_of_raw (raw_ensureMode _) (graceful_ensureMode _)
  have tag : StaysChecked (expectArray expected) :=
    keeps_bind checked_readDataType fun _ => checked_ensure _ _
  have numElements : StaysChecked readArrayNumElements :=
    keeps_bind (checked_expectNonArray _) fun _ => keeps_bind (checked_cursorReadExact _) fun _ =>
      keeps_bind (checked_cursorReadExact _) fun _ => keeps_pure _
  exact keeps_bind inMode fun _ => keeps_bind tag fun _ => keeps_bind numElements fun n =>
    checked_readEach each n

theorem checked_elementOf (c : LeCodec α) : StaysChecked (elementOf c) :=
  keeps_bind (checked_cursorReadExact _) fun _ => keeps_pure _

theorem checked_typed (k : TypedRead) : StaysChecked k.read := by
  cases k with
  | bool => exact checked_readBool
  | str => exact checked_readStr
  | blob => exact checked_readBlob
  | i8 | u8 | i16 | u16 | i32 | u32 | i64 | u64 | f32 | f64 => exact checked_readScalar _ _
  | strArray => exact checked_readArray _ checked_strElement
  | _ => exact checked_readArray _ (checked_elementOf _)

end StaysChecked

inductive TypedCall where
  | read (k : TypedRead)
  | ask (n : NextIs)

def TypedCall.call : TypedCall → ReaderCall
  | .read k => .typed k
  | .ask n => .nextIs n

theorem checked_call (c : TypedCall) : StaysChecked c.call.run := by
  cases c with
  | read k => exact checked_typed k
  | ask n =>
    have asks : StaysChecked n.ask := n.ask_eq ▸ checked_nextIs n.dataType
    exact asks

def reachedFrom (start : TypeChecked) (history : List TypedCall) : BdReader :=
  run ReaderCall.after start.reader (history.map TypedCall.call)

theorem checked_reachedFrom (start : TypeChecked) (history : List TypedCall) :
    Sound (reachedFrom start history) ∧ (reachedFrom start history).typeChecked = true := by
  have step : ∀ r (c : TypedCall), Sound r ∧ r.typeChecked = true →
      Sound (ReaderCall.after r c.call) ∧ (ReaderCall.after r c.call).typeChecked = true :=
    fun r c kept => (checked_call c r kept).1
  simpa [reachedFrom, run, List.foldl_map] using run_keeps step ⟨start.sound, start.checked⟩

def PassesTag (n : NextIs) (r : BdReader) : Prop :=
  ∃ rest t, n.typed.read = (readTypeTag n.dataType >>= fun _ => rest)
    ∧ exec (readTypeTag n.dataType) r = (.ok (), t)

/--
A read after looks that are answered, and everything after that read, is as it
is without them. Later calls may be of any kind once the tag has been taken
from the cache; an array in bit mode is refused before that, and then they are
typed reads and looks.
-/
structure LooksUnseen (r : BdReader) : Prop where
  unseen : ∀ peeks, Answered r peeks → ∀ k later, Drains k r ∨ (∀ c ∈ later, c.IsTyped) →
    outcomes (run NextIs.after r peeks) (.typed k :: later) = outcomes r (.typed k :: later)
  passes : ∀ (n : NextIs) t, exec n.ask r = (.ok true, t) → ∀ more, PassesTag n (run NextIs.after t more)
  lacking : ∀ (n : NextIs) t, exec n.ask r = (.error (.error .unexpectedEof), t) →
    ∀ later, outcomes t later = outcomes r later

section Looks

variable {r t : BdReader} {n : NextIs}

theorem outcomes_answered {peeks : List NextIs} (checked : r.typeChecked = true)
    (answered : Answered r peeks) (k : TypedRead) (later : List ReaderCall)
    (fine : Drains k r ∨ ∀ c ∈ later, c.IsTyped) :
    outcomes (run NextIs.after r peeks) (.typed k :: later) = outcomes r (.typed k :: later) := by
  rcases peeked_of_answered checked (.inl rfl) answered with same | peeked
  · rw [same]
  · exact outcomes_typed peeked k later (fine.imp_right (outcomes_peeked peeked))

theorem passesTag_of_cached (checked : r.typeChecked = true) (cached : r.hasDataTypeCached = true)
    (fits : r.cachedDataType.eqNonArray n.dataType = true) : PassesTag n r := by
  obtain ⟨rest, begins, -⟩ := tagged_value n.isArray_typed
  refine ⟨rest, { r with hasDataTypeCached := false }, begins, ?_⟩
  rw [readTypeTag, exec_bind_ok _ (exec_get r), if_pos checked, expectNonArray,
    exec_bind_ok _ (exec_readDataType_cached cached), fits]
  rfl

theorem passesTag_of_ask (checked : r.typeChecked = true)
    (asked : exec n.ask r = (.ok true, t)) (more : List NextIs) :
    PassesTag n (run NextIs.after t more) := by
  have looked : t.typeChecked = true ∧ t.hasDataTypeCached = true
      ∧ t.cachedDataType.eqNonArray n.dataType = true := by
    cases cached : r.hasDataTypeCached with
    | true =>
      rw [exec_ask_cached checked cached n] at asked
      obtain ⟨fits, rfl⟩ := Prod.ext_iff.mp asked
      exact ⟨checked, cached, Except.ok.inj fits⟩
    | false =>
      rw [exec_ask_uncached checked cached n] at asked
      rcases read : exec readDataType r with ⟨result, u⟩
      rw [read] at asked
      cases result with
      | ok tag =>
        obtain ⟨fits, rfl⟩ := Prod.ext_iff.mp asked
        exact ⟨(after_readDataType cached read).2.1.trans checked, rfl, Except.ok.inj fits⟩
      | error fault => cases asked
  obtain ⟨checkedAfter, cachedAfter, fits⟩ := looked
  -- once a tag is in the cache, a look changes nothing
  have stays : run NextIs.after t more = t := by
    induction more with
    | nil => rfl
    | cons m more ih => rw [run_cons, NextIs.after, exec_ask_cached checkedAfter cachedAfter m, ih]
  rw [stays]
  exact passesTag_of_cached checkedAfter cachedAfter fits

theorem exec_fromValue_lacks_none (value : UInt8) (s t : BdReader) :
    exec (BufferDataType.fromValue value) s ≠ (.error (.error .unexpectedEof), t) := by
  rw [BufferDataType.fromValue]
  split
  · simp
  · simp [fail]

theorem eq_of_readDataType_lacking (sound : Sound r) (checked : r.typeChecked = true)
    (uncached : r.hasDataTypeCached = false)
    (lacking : exec readDataType r = (.error (.error .unexpectedEof), t)) : t = r := by
  cases inMode : r.mode with
  | byteMode =>
    rw [exec_readDataType_uncached uncached, readNewDataType, exec_bind_ok _ (exec_get r),
      if_pos (by simp [inMode])] at lacking
    cases holds : r.cursor with
    | nil =>
      rw [exec_bind_error _ (exec_cursorReadU8_empty holds)] at lacking
      exact (congrArg Prod.snd lacking).symm
    | cons b rest =>
      rw [exec_bind_ok _ (exec_cursorReadU8 holds)] at lacking
      exact absurd lacking (exec_fromValue_lacks_none _ _ _)
  | bitMode =>
    have ready : r.Ready .bitMode true := ⟨inMode, checked, uncached, sound.1, sound.2, by simp⟩
    by_cases short : r.bits.length < 5
    next =>
      rw [exec_readDataType_short ready short] at lacking
      exact (congrArg Prod.snd lacking).symm
    next =>
      have five : (r.bits.take 5).length = 5 := by simp; omega
      have some : r.bits.take 5 ≠ [] := by
        intro none
        simp [none] at five
      obtain ⟨u, ran, -⟩ := reads_readBits_few some (by omega) r (r.bits.drop 5) ready
        (List.take_append_drop 5 _).symm
      rw [five] at ran
      rw [exec_readDataType_uncached uncached, readNewDataType, exec_bind_ok _ (exec_get r),
        if_neg (by simp [inMode]), exec_bind_ok _ ran, index_of_lt (by simp), pure_bind] at lacking
      exact absurd lacking (exec_fromValue_lacks_none _ _ _)

theorem eq_of_ask_lacking (sound : Sound r) (checked : r.typeChecked = true)
    (lacking : exec n.ask r = (.error (.error .unexpectedEof), t)) : t = r := by
  cases cached : r.hasDataTypeCached with
  | true =>
    rw [exec_ask_cached checked cached n] at lacking
    cases lacking
  | false =>
    rw [exec_ask_uncached checked cached n] at lacking
    rcases read : exec readDataType r with ⟨result, u⟩
    rw [read] at lacking
    cases result with
    | ok tag => cases lacking
    | error fault =>
      cases lacking
      exact eq_of_readDataType_lacking sound checked cached read

end Looks

theorem looks_unseen (start : TypeChecked) (history : List TypedCall) :
    LooksUnseen (reachedFrom start history) := by
  obtain ⟨sound, checked⟩ := checked_reachedFrom start history
  constructor
  · intro peeks answered k later fine
    exact outcomes_answered checked answered k later fine
  · intro n t asked more
    exact passesTag_of_ask checked asked more
  · intro n t lacking later
    rw [eq_of_ask_lacking sound checked lacking]

end BdReader

end BitDemon
