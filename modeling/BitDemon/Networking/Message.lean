import BitDemon.Lobby.Handling
import BitDemon.Messaging.Graceful
import BitDemon.Networking.Response

set_option autoImplicit false

/-!
# A message as it arrives

The first byte tells whether the rest is encrypted. What is encrypted starts with
a seed, and inside it with a digest of what follows.
-/

namespace BitDemon

open Machine Bits

/-- The padding of zeros is left in place. -/
def decryptBufferInPlace {σ : Type} (crypto : SessionCrypto) (buf key iv : List UInt8) :
    Fallible σ (List UInt8) :=
  if buf.length % blockSize = 0 then pure (crypto.decrypt key iv buf) else fail .decryption

namespace BdMessage

def new {σ : Type} (crypto : SessionCrypto) (session : BdSession) (buf : List UInt8) :
    Fallible σ BdReader := do
  let len := buf.length
  let encrypted ← okOr buf.head? (.truncatedMessage len)
  if encrypted = 1 then do
    ensure session.authentication.isSome .noSessionKey
    ensure (decide (10 ≤ len)) (.truncatedMessage len)
    let seed ← slice buf 1 5
    let iv := crypto.generateIvFromSeed (LeCodec.u32.fromLeBytes seed)
    let encryptedBuf ← slice buf 5 len
    let authentication ← unwrap session.authentication
    let decrypted ← decryptBufferInPlace crypto encryptedBuf authentication.sessionKey iv
    let buf := buf.take 5 ++ decrypted
    let hmac ← slice buf 5 9
    -- the message type byte is not part of the digest
    let digested ← slice buf 10 buf.length
    let authentication ← unwrap session.authentication
    let expectedHmac := crypto.calculateHmac digested authentication.sessionKey
    ensure (LeCodec.u32.fromLeBytes hmac == expectedHmac)
      (.invalidHmac expectedHmac (LeCodec.u32.fromLeBytes hmac))
    let payload ← slice buf 9 buf.length
    pure (BdReader.new payload)
  else do
    let payload ← slice buf 1 buf.length
    pure (BdReader.new payload)

variable {σ : Type} {kept : σ → Prop}

theorem yields_decryptBufferInPlace (crypto : SessionCrypto) (buf key iv : List UInt8) :
    Yields kept (fun fault => fault.isError = true) (fun decrypted => decrypted.length = buf.length)
      (decryptBufferInPlace crypto buf key iv : Fallible σ (List UInt8)) :=
  yields_ite (fun _ => yields_pure (crypto.length_decrypt key iv buf)) fun _ => yields_throw rfl

theorem yields_payload {buf : List UInt8} {first : Nat} (inside : first ≤ buf.length) :
    Yields kept (fun fault => fault.isError = true) BdReader.Sound
      (do
        let payload ← slice buf first buf.length
        pure (BdReader.new payload) : Fallible σ BdReader) :=
  yields_bind (yields_slice inside (Nat.le_refl _)) fun _ _ => yields_pure (BdReader.sound_new _)

theorem yields_new (crypto : SessionCrypto) (session : BdSession) (buf : List UInt8) :
    Yields kept (fun fault => fault.isError = true) BdReader.Sound
      (new crypto session buf : Fallible σ BdReader) := by
  rw [new]
  cases buf with
  | nil => exact yields_throw rfl
  | cons encrypted rest =>
    rw [List.head?_cons, okOr_some, pure_bind]
    refine yields_ite (fun _ => ?_) fun _ => yields_payload (by simp)
    generalize encrypted :: rest = buf
    refine yields_bind (yields_ensure _) fun _ authenticated => ?_
    obtain ⟨authentication, has⟩ := Option.isSome_iff_exists.mp authenticated
    refine yields_bind (yields_ensure _) fun _ enough => ?_
    have long := of_decide_eq_true enough
    refine yields_bind (yields_slice (by decide) (by omega)) fun seed _ => ?_
    refine yields_bind (yields_slice (by omega) (Nat.le_refl _)) fun encryptedBuf size => ?_
    rw [has, unwrap_some, pure_bind]
    refine yields_bind (yields_decryptBufferInPlace _ _ _ _) fun decrypted same => ?_
    have whole : (buf.take 5 ++ decrypted).length = buf.length := by
      rw [List.length_append, List.length_take, same, size]
      omega
    generalize buf.take 5 ++ decrypted = opened at whole
    refine yields_bind (yields_slice (by decide) (by omega)) fun hmac _ => ?_
    refine yields_bind (yields_slice (by omega) (Nat.le_refl _)) fun digested _ => ?_
    rw [pure_bind]
    exact yields_bind (yields_ensure _) fun _ _ => yields_payload (by omega)

end BdMessage

end BitDemon
