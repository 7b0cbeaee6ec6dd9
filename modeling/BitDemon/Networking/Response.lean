import BitDemon.Lobby.TaskReply

set_option autoImplicit false

/-!
# Sending a response

A frame is a length word and as many bytes. The first of them tells whether the
rest is encrypted.
-/

namespace BitDemon

open Bits

def blockSize : Nat := 8

/-- The block cipher of a session, on buffers of whole blocks, and its digests. -/
structure SessionCrypto where
  -- the key and the initialization vector come first
  encrypt : List UInt8 → List UInt8 → List UInt8 → List UInt8
  decrypt : List UInt8 → List UInt8 → List UInt8 → List UInt8
  length_encrypt : ∀ key iv buf, (encrypt key iv buf).length = buf.length
  length_decrypt : ∀ key iv buf, (decrypt key iv buf).length = buf.length
  decrypt_encrypt : ∀ key iv buf, buf.length % blockSize = 0 →
    decrypt key iv (encrypt key iv buf) = buf
  generateIvFromSeed : UInt32 → List UInt8
  calculateHmac : List UInt8 → List UInt8 → UInt32

-- stands in for the session cipher where a run is evaluated
def plainCrypto : SessionCrypto where
  encrypt _ _ buf := buf
  decrypt _ _ buf := buf
  length_encrypt _ _ _ := rfl
  length_decrypt _ _ _ := rfl
  decrypt_encrypt _ _ _ _ := rfl
  generateIvFromSeed _ := List.replicate 8 0
  calculateHmac _ _ := 0

def nextMultipleOf (n size : Nat) : Nat := (n + (size - 1)) / size * size

def resize (buf : List UInt8) (n : Nat) : List UInt8 :=
  buf.take n ++ List.replicate (n - buf.length) 0

theorem length_resize (buf : List UInt8) (n : Nat) : (resize buf n).length = n := by
  rw [resize, List.length_append, List.length_take, List.length_replicate]
  omega

/-- Zeros fill the last block; they must fit into the buffer with the message. -/
def encryptPadded (crypto : SessionCrypto) (key iv buf : List UInt8) (msgLen : Nat) :
    Option (List UInt8) :=
  if nextMultipleOf msgLen blockSize ≤ buf.length then
    some (crypto.encrypt key iv (resize (buf.take msgLen) (nextMultipleOf msgLen blockSize)))
  else
    none

def encryptBufferInPlace (crypto : SessionCrypto) (buf key iv : List UInt8) :
    Except Fault (List UInt8) :=
  let bufLen := buf.length
  match encryptPadded crypto key iv (resize buf (nextMultipleOf bufLen blockSize)) bufLen with
  | some encrypted => .ok encrypted
  | none => .error (.panic .unwrapOnError)

theorem encryptBufferInPlace_ok (crypto : SessionCrypto) (buf key iv : List UInt8) :
    ∃ encrypted, encryptBufferInPlace crypto buf key iv = .ok encrypted
      ∧ encrypted.length = nextMultipleOf buf.length blockSize := by
  have fits : nextMultipleOf buf.length blockSize
      ≤ (resize buf (nextMultipleOf buf.length blockSize)).length := by
    rw [length_resize]
  refine ⟨_, by rw [encryptBufferInPlace, encryptPadded, if_pos fits], ?_⟩
  rw [crypto.length_encrypt, length_resize]

namespace BdResponse

def unencrypted (data : List UInt8) : BdResponse := { shouldEncrypt := false, data := data }

def responseSignature : UInt32 := 0xDEADBEEF

def frame (crypto : SessionCrypto) (seed : UInt32) (response : BdResponse)
    (key : Option (List UInt8)) : Except Fault (List UInt8) :=
  match key with
  | some key => do
    let iv := crypto.generateIvFromSeed seed
    let data ← encryptBufferInPlace crypto
      (LeCodec.u32.toLeBytes responseSignature ++ response.data) key iv
    -- the encrypted byte and the seed
    let messageLength := data.length + 5
    .ok (LeCodec.u32.toLeBytes (UInt32.ofNat messageLength) ++
      (1 :: (LeCodec.u32.toLeBytes seed ++ data)))
  | none =>
    let messageLength := response.data.length + 1
    .ok (LeCodec.u32.toLeBytes (UInt32.ofNat messageLength) ++ (0 :: response.data))

def bodyLength (response : BdResponse) (key : Option (List UInt8)) : Nat :=
  match key with
  | some _ => nextMultipleOf (4 + response.data.length) blockSize + 5
  | none => response.data.length + 1

theorem frame_ok (crypto : SessionCrypto) (seed : UInt32) (response : BdResponse)
    (key : Option (List UInt8)) :
    ∃ body, response.frame crypto seed key
        = .ok (LeCodec.u32.toLeBytes (UInt32.ofNat body.length) ++ body)
      ∧ body.length = response.bodyLength key := by
  cases key with
  | none => exact ⟨0 :: response.data, rfl, rfl⟩
  | some key =>
    obtain ⟨encrypted, padded, length⟩ := encryptBufferInPlace_ok crypto
      (LeCodec.u32.toLeBytes responseSignature ++ response.data) key (crypto.generateIvFromSeed seed)
    have size (word : UInt32) : (LeCodec.u32.toLeBytes word).length = 4 :=
      LeCodec.length_toLeBytes _ _
    rw [List.length_append, size] at length
    have whole : (1 :: (LeCodec.u32.toLeBytes seed ++ encrypted)).length = encrypted.length + 5 := by
      rw [List.length_cons, List.length_append, size]
      omega
    refine ⟨1 :: (LeCodec.u32.toLeBytes seed ++ encrypted), ?_, ?_⟩
    · rw [frame, padded, whole]
      rfl
    · rw [whole, length]
      rfl

end BdResponse

end BitDemon
