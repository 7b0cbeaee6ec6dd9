import BitDemon.Auth.KeyStore
import BitDemon.Library.Utf8
import BitDemon.Library.Wire
import BitDemon.Messaging.Buffer

set_option autoImplicit false

/-!
# The proof a client is given

Its 128 bytes are sealed with the current key of the ring and opened with the
first valid key under which they start with the magic number.
-/

namespace BitDemon

open Machine Bits

structure Aes256Cbc where
  encrypt : BackendPrivateKey → List UInt8 → List UInt8
  decrypt : BackendPrivateKey → List UInt8 → List UInt8
  length_encrypt : ∀ key buf, (encrypt key buf).length = buf.length
  decrypt_encrypt : ∀ key buf, buf.length % 16 = 0 → decrypt key (encrypt key buf) = buf

def encryptData (aes : Aes256Cbc) (key : BackendPrivateKey) (buf : List UInt8) :
    Except BdError (List UInt8) :=
  if buf.length % 16 = 0 then .ok (aes.encrypt key buf) else .error .bufferSize

def decryptData (aes : Aes256Cbc) (key : BackendPrivateKey) (buf : List UInt8) :
    Except BdError (List UInt8) :=
  if buf.length % 16 = 0 then .ok (aes.decrypt key buf) else .error .bufferSize

-- `[0; n]` after the bytes were copied into it
def arrayOf (n : Nat) (bytes : List UInt8) : Vector UInt8 n := Vector.ofFn fun i => bytes.getD i 0

@[simp] theorem toList_arrayOf {n : Nat} {bytes : List UInt8} (size : bytes.length = n) :
    (arrayOf n bytes).toList = bytes := by
  subst size
  apply List.ext_getElem
  · simp
  · intro i _ inside
    simp [arrayOf]

@[simp] theorem arrayOf_toList {n : Nat} (array : Vector UInt8 n) :
    arrayOf n array.toList = array := by
  apply Vector.toList_inj.mp
  exact toList_arrayOf (by simp)

structure ClientOpaqueAuthProof where
  title : Title
  timeExpires : Int64
  licenseId : UInt64
  userId : UInt64
  sessionKey : Vector UInt8 24
  username : String
  deriving DecidableEq

namespace ClientOpaqueAuthProof

def magic : UInt64 := 0xC0FFEEFFEEAA1337

def layout (proof : ClientOpaqueAuthProof) : List UInt8 :=
  LeCodec.u64.toLeBytes magic ++ (LeCodec.u32.toLeBytes proof.title.toU32 ++
    (LeCodec.i64.toLeBytes proof.timeExpires ++ (LeCodec.u64.toLeBytes proof.licenseId ++
      (LeCodec.u64.toLeBytes proof.userId ++ (proof.sessionKey.toList ++
        ((Utf8.encode proof.username
            ++ List.replicate (64 - (Utf8.encode proof.username).length) 0) ++
          LeCodec.u32.toLeBytes 0))))))

-- `debug_assert_eq!` on the length is not part of a release
def serialize (aes : Aes256Cbc) (now : Int) (fresh : BackendPrivateKey)
    (proof : ClientOpaqueAuthProof) : Fallible KeyStore.InMemoryKeyState (Vector UInt8 128) := do
  let ring ← get
  set (KeyStore.getCurrentKey now fresh ring).2
  let sealed ← expect (encryptData aes (KeyStore.getCurrentKey now fresh ring).1 proof.layout)
  if size : sealed.length = 128 then
    pure ⟨sealed.toArray, size⟩
  else
    panicWith .unwrapOnError

def startsWithMagic (buf : List UInt8) : Bool := LeCodec.u64.fromLeBytes (buf.take 8) == magic

def yieldsMagic (aes : Aes256Cbc) (buf : List UInt8) (key : BackendPrivateKey) : Bool :=
  startsWithMagic (aes.decrypt key buf)

-- `keys.iter().any(..)`, which leaves what the last key made of the buffer
def openWith {σ : Type} (aes : Aes256Cbc) (buf : List UInt8) :
    List BackendPrivateKey → Fallible σ (Option (List UInt8))
  | [] => pure none
  | key :: keys => do
    let lastBuf ← expect (decryptData aes key buf)
    if startsWithMagic lastBuf then
      pure (some lastBuf)
    else
      openWith aes buf keys

def cursorTake (n : Nat) : Fallible (List UInt8) (List UInt8) := do
  let bytes ← get
  if n ≤ bytes.length then do
    set (bytes.drop n)
    pure (bytes.take n)
  else
    fail .unexpectedEof

def cursorRead {α : Type} (c : LeCodec α) : Fallible (List UInt8) α := do
  let bytes ← cursorTake c.size
  pure (c.fromLeBytes bytes)

def readFields : Fallible (List UInt8) ClientOpaqueAuthProof := do
  let _magic ← cursorTake 8
  let titleId ← cursorRead .u32
  let title ← okOr (Title.fromU32 titleId) (.unknownTitle titleId)
  let timeExpires ← cursorRead .i64
  let licenseId ← cursorRead .u64
  let userId ← cursorRead .u64
  let sessionKey ← cursorTake 24
  let usernameBuffer ← cursorTake 64
  let username ← okOr (Utf8.decode? (usernameBuffer.takeWhile (· ≠ 0))) .invalidUtf8
  let _pad ← cursorRead .u32
  pure { title, timeExpires, licenseId, userId, sessionKey := arrayOf 24 sessionKey, username }

def deserialize (aes : Aes256Cbc) (now : Int) (buf : Vector UInt8 128) :
    Fallible KeyStore.InMemoryKeyState ClientOpaqueAuthProof := do
  let ring ← get
  match ← openWith aes buf.toList (KeyStore.getValidKeys now ring) with
  | none => fail .unknownKey
  | some lastBuf => MonadExcept.ofExcept (exec readFields lastBuf).1

variable {aes : Aes256Cbc} {now : Int} {fresh : BackendPrivateKey} {proof : ClientOpaqueAuthProof}

theorem length_layout (proof : ClientOpaqueAuthProof) :
    proof.layout.length = 64 + max 64 (Utf8.encode proof.username).length := by
  have u32 : LeCodec.u32.size = 4 := rfl
  have u64 : LeCodec.u64.size = 8 := rfl
  have i64 : LeCodec.i64.size = 8 := rfl
  simp only [layout, List.length_append, LeCodec.length_toLeBytes, List.length_replicate,
    Vector.length_toList, u32, u64, i64]
  omega

theorem exec_serialize (ring : KeyStore.InMemoryKeyState)
    (short : (Utf8.encode proof.username).length ≤ 64) :
    ∃ sealed, exec (serialize aes now fresh proof) ring
      = (.ok sealed, (KeyStore.getCurrentKey now fresh ring).2) := by
  have size : proof.layout.length = 128 := by
    rw [length_layout]
    omega
  have whole : proof.layout.length % 16 = 0 := by rw [size]
  have sealedSize : (aes.encrypt (KeyStore.getCurrentKey now fresh ring).1 proof.layout).length
      = 128 := by rw [aes.length_encrypt, size]
  refine ⟨⟨(aes.encrypt (KeyStore.getCurrentKey now fresh ring).1 proof.layout).toArray,
    sealedSize⟩, ?_⟩
  rw [serialize, exec_bind_ok _ (exec_get ring), exec_bind_ok _ (exec_set _ ring), encryptData,
    if_pos whole]
  change exec (if size : _ then _ else _) _ = _
  rw [dif_pos sealedSize]
  rfl

theorem serialize_ok {ring after : KeyStore.InMemoryKeyState} {sealed : Vector UInt8 128}
    (ran : exec (serialize aes now fresh proof) ring = (.ok sealed, after)) :
    proof.layout.length = 128
      ∧ sealed.toList = aes.encrypt (KeyStore.getCurrentKey now fresh ring).1 proof.layout
      ∧ after = (KeyStore.getCurrentKey now fresh ring).2 := by
  rw [serialize, exec_bind_ok _ (exec_get ring), exec_bind_ok _ (exec_set _ ring), encryptData]
    at ran
  by_cases whole : proof.layout.length % 16 = 0
  · rw [if_pos whole] at ran
    change exec (if size : _ then _ else _) _ = _ at ran
    split at ran
    next size =>
      simp only [exec_pure, Prod.mk.injEq, Except.ok.injEq] at ran
      obtain ⟨rfl, rfl⟩ := ran
      exact ⟨by rw [← aes.length_encrypt, size], rfl, rfl⟩
    next size => simp [panicWith] at ran
  · rw [if_neg whole] at ran
    simp [expect, panicWith] at ran

def Parses {α : Type} (m : Fallible (List UInt8) α) (bytes : List UInt8) (a : α) : Prop :=
  Wire.Accepts (fun _ => True) id m bytes a

theorem parses_cursorTake (bytes : List UInt8) : Parses (cursorTake bytes.length) bytes bytes := by
  intro s rest _ starts
  obtain rfl : s = bytes ++ rest := starts
  refine ⟨rest, ?_, trivial, rfl⟩
  rw [cursorTake, exec_bind_ok _ (exec_get _), if_pos (by simp),
    exec_bind_ok _ (exec_set _ _)]
  simp

theorem parses_cursorRead {α : Type} (c : LeCodec α) (a : α) :
    Parses (cursorRead c) (c.toLeBytes a) a := by
  have taken := parses_cursorTake (c.toLeBytes a)
  rw [c.length_toLeBytes] at taken
  refine Wire.accepts_finish taken ?_
  rw [c.fromLeBytes_toLeBytes]
  exact Wire.accepts_pure a

def received (proof : ClientOpaqueAuthProof) : ClientOpaqueAuthProof :=
  { proof with username := Utf8.upToNul proof.username }

theorem parses_readFields (short : (Utf8.encode proof.username).length ≤ 64) :
    Parses readFields proof.layout proof.received := by
  have titled : Parses (okOr (Title.fromU32 proof.title.toU32) (.unknownTitle proof.title.toU32)) []
      proof.title := by
    rw [Title.fromU32_toU32]
    exact Wire.accepts_pure _
  have key := parses_cursorTake proof.sessionKey.toList
  rw [Vector.length_toList] at key
  let name := Utf8.encode proof.username
    ++ List.replicate (64 - (Utf8.encode proof.username).length) 0
  have nameSize : name.length = 64 := by simp [name]; omega
  have field := parses_cursorTake name
  rw [nameSize] at field
  have named : Parses (okOr (Utf8.decode? (name.takeWhile (· ≠ 0))) .invalidUtf8) []
      (Utf8.upToNul proof.username) := by
    rw [Utf8.decode?_padded]
    exact Wire.accepts_pure _
  have back : proof.received = { proof.received with
      sessionKey := arrayOf 24 proof.sessionKey.toList } := by
    rw [arrayOf_toList]
    rfl
  refine Wire.accepts_bind (parses_cursorTake (LeCodec.u64.toLeBytes magic)) ?_
  refine Wire.accepts_bind (parses_cursorRead .u32 proof.title.toU32) ?_
  refine Wire.accepts_guard titled ?_
  refine Wire.accepts_bind (parses_cursorRead .i64 proof.timeExpires) ?_
  refine Wire.accepts_bind (parses_cursorRead .u64 proof.licenseId) ?_
  refine Wire.accepts_bind (parses_cursorRead .u64 proof.userId) ?_
  refine Wire.accepts_bind key ?_
  refine Wire.accepts_bind field ?_
  refine Wire.accepts_guard named ?_
  refine Wire.accepts_finish (parses_cursorRead .u32 0) ?_
  rw [back]
  exact Wire.accepts_pure _

theorem exec_openWith {σ : Type} (keys : List BackendPrivateKey) {buf : List UInt8} (s : σ)
    (whole : buf.length % 16 = 0) :
    exec (openWith aes buf keys) s
      = (.ok ((keys.find? (yieldsMagic aes buf)).map fun key =>
          aes.decrypt key buf), s) := by
  induction keys with
  | nil => rfl
  | cons key keys ih =>
    have decrypted : exec (expect (decryptData aes key buf)) s = (.ok (aes.decrypt key buf), s) := by
      rw [decryptData, if_pos whole]
      rfl
    rw [openWith, exec_bind_ok _ decrypted]
    change exec (if yieldsMagic aes buf key = true then _ else _) s = _
    by_cases opens : yieldsMagic aes buf key = true
    · rw [List.find?_cons_of_pos opens, if_pos opens]
      rfl
    · rw [List.find?_cons_of_neg opens, if_neg opens, ih]

theorem exec_deserialize (ring : KeyStore.InMemoryKeyState) (buf : Vector UInt8 128) :
    exec (deserialize aes now buf) ring =
      match (KeyStore.getValidKeys now ring).find? (yieldsMagic aes buf.toList) with
      | none => (.error (.error .unknownKey), ring)
      | some key => ((exec readFields (aes.decrypt key buf.toList)).1, ring) := by
  rw [deserialize, exec_bind_ok _ (exec_get ring), exec_bind_ok _ (exec_openWith _ ring (by simp))]
  cases (KeyStore.getValidKeys now ring).find? (yieldsMagic aes buf.toList) with
  | none => rfl
  | some key =>
    simp only [Option.map_some]
    cases (exec readFields (aes.decrypt key buf.toList)).1 <;> rfl

theorem startsWithMagic_layout (proof : ClientOpaqueAuthProof) :
    startsWithMagic proof.layout = true := by
  have first : proof.layout.take 8 = LeCodec.u64.toLeBytes magic :=
    List.take_left' (LeCodec.length_toLeBytes _ _)
  rw [startsWithMagic, first, LeCodec.fromLeBytes_toLeBytes]
  exact beq_self_eq_true magic

theorem exec_deserialize_sealed {ring : KeyStore.InMemoryKeyState} {sealed : Vector UInt8 128}
    {key : BackendPrivateKey} (size : proof.layout.length = 128)
    (bytes : sealed.toList = aes.encrypt key proof.layout)
    (valid : key ∈ KeyStore.getValidKeys now ring)
    (others : ∀ other ∈ KeyStore.getValidKeys now ring,
      yieldsMagic aes sealed.toList other = true → other = key) :
    exec (deserialize aes now sealed) ring = (.ok proof.received, ring) := by
  have opened : aes.decrypt key sealed.toList = proof.layout := by
    rw [bytes]
    exact aes.decrypt_encrypt key proof.layout (by rw [size])
  have first : (KeyStore.getValidKeys now ring).find? (yieldsMagic aes sealed.toList)
      = some key := by
    cases found : (KeyStore.getValidKeys now ring).find? (yieldsMagic aes sealed.toList) with
    | none =>
      have missed := List.find?_eq_none.mp found key valid
      rw [yieldsMagic, opened, startsWithMagic_layout] at missed
      exact absurd rfl missed
    | some other =>
      rw [others other (List.mem_of_find?_eq_some found) (List.find?_some found)]
  have short : (Utf8.encode proof.username).length ≤ 64 := by
    rw [length_layout] at size
    omega
  obtain ⟨_, read, _⟩ := parses_readFields short proof.layout [] trivial (by simp)
  rw [exec_deserialize, first]
  simp only
  rw [opened, read]

theorem exec_deserialize_unknown {ring : KeyStore.InMemoryKeyState} {buf : Vector UInt8 128}
    (closed : ∀ key ∈ KeyStore.getValidKeys now ring,
      yieldsMagic aes buf.toList key = false) :
    exec (deserialize aes now buf) ring = (.error (.error .unknownKey), ring) := by
  have none : (KeyStore.getValidKeys now ring).find? (yieldsMagic aes buf.toList) = none := by
    apply List.find?_eq_none.mpr
    intro key member
    rw [closed key member]
    simp
  rw [exec_deserialize, none]

theorem upToNul_eq_self {s : String} (noNul : '\x00' ∉ s.toList) : Utf8.upToNul s = s := by
  have whole : s.toList.takeWhile (· ≠ '\x00') = s.toList := by
    apply List.takeWhile_eq_self_iff.mpr
    intro c member
    simpa using fun nul : c = '\x00' => noNul (nul ▸ member)
  rw [Utf8.upToNul, whole, String.ofList_toList]

theorem received_eq_self (noNul : '\x00' ∉ proof.username.toList) : proof.received = proof := by
  rw [received, upToNul_eq_self noNul]

/--
A proof is sealed without a panic, and read back as it was wherever in the ring
its key still stands, if no other key there opens it.
-/
theorem deserialize_serialize (aes : Aes256Cbc) (proof : ClientOpaqueAuthProof)
    (noNul : '\x00' ∉ proof.username.toList) (short : (Utf8.encode proof.username).length ≤ 64)
    (calls : List KeyStore.Call) (now : Int) (fresh : BackendPrivateKey) :
    ∃ sealed : Vector UInt8 128,
      exec (serialize aes now fresh proof) (KeyStore.after calls)
          = (.ok sealed, KeyStore.after (calls ++ [.current now fresh]))
        ∧ ∀ (ring : KeyStore.InMemoryKeyState) (later : Int),
          (KeyStore.getCurrentKey now fresh (KeyStore.after calls)).1
              ∈ KeyStore.getValidKeys later ring →
          (∀ other ∈ KeyStore.getValidKeys later ring,
            other ≠ (KeyStore.getCurrentKey now fresh (KeyStore.after calls)).1 →
              yieldsMagic aes sealed.toList other = false) →
          exec (deserialize aes later sealed) ring = (.ok proof, ring) := by
  obtain ⟨sealed, ran⟩ := @exec_serialize aes now fresh proof (KeyStore.after calls) short
  obtain ⟨size, bytes, _⟩ := serialize_ok ran
  refine ⟨sealed, ?_, fun ring later valid closed => ?_⟩
  · rw [ran, KeyStore.after, KeyStore.after, Runs.run_append]
    rfl
  · have others : ∀ other ∈ KeyStore.getValidKeys later ring,
        yieldsMagic aes sealed.toList other = true →
          other = (KeyStore.getCurrentKey now fresh (KeyStore.after calls)).1 := by
      intro other member opens
      by_contra apart
      rw [closed other member apart] at opens
      cases opens
    rw [exec_deserialize_sealed size bytes valid others, received_eq_self noNul]

-- stands in for the block cipher where a proof is sealed
def shiftCipher : Aes256Cbc where
  encrypt key buf := buf.map (· + key.aesKey.get 0)
  decrypt key buf := buf.map (· - key.aesKey.get 0)
  length_encrypt := by simp
  decrypt_encrypt := by
    intro key buf _
    rw [List.map_map]
    apply List.map_id''
    intro b
    rw [Function.comp_apply, UInt8.add_sub_cancel]

def keyOf (b : UInt8) : BackendPrivateKey := ⟨Vector.replicate 32 b, Vector.replicate 16 0⟩

-- its name fills the field
def fullProof : ClientOpaqueAuthProof :=
  { title := .t6Pc, timeExpires := 2000, licenseId := 5, userId := 7
    sessionKey := Vector.replicate 24 9, username := String.ofList (List.replicate 64 'a') }

-- an older key is tried first
def twoKeys : KeyStore.InMemoryKeyState :=
  KeyStore.after [.current 1000 (keyOf 1), .current 1061 (keyOf 2)]

theorem deserialize_serialize_full :
    ∃ sealed, (exec (serialize shiftCipher 1061 (keyOf 2) fullProof)
          (KeyStore.after [.current 1000 (keyOf 1)])).1 = .ok sealed
      ∧ exec (deserialize shiftCipher 1500 sealed) twoKeys = (.ok fullProof, twoKeys) := by
  obtain ⟨sealed, ran, back⟩ := deserialize_serialize shiftCipher fullProof (by decide)
    (by decide +kernel) [.current 1000 (keyOf 1)] 1061 (keyOf 2)
  have bytes := (serialize_ok ran).2.1
  refine ⟨sealed, by rw [ran], back twoKeys 1500 (by decide) ?_⟩
  rw [bytes]
  decide +kernel

end ClientOpaqueAuthProof

end BitDemon
