import BitDemon.Auth.AuthProof
import BitDemon.Library.Table
import BitDemon.Lobby.Handlers.Lsg
import BitDemon.Messaging.Format

set_option autoImplicit false

/-!
# What the LSG handler does with a proof

A session takes its user, title and key from the proof, and pushes to the user
go to it from then on.
-/

namespace BitDemon

open Machine Bits Format

-- the session whose connection pushes are written to, and the key that seals them
structure Recipient where
  session : SessionId
  key : List UInt8
  deriving DecidableEq

structure LsgWorld where
  keyStore : KeyStore.InMemoryKeyState
  -- what `set_authentication` has stored in each session
  authentications : Table SessionId SessionAuthentication
  recipients : Table UInt64 Recipient

namespace ClientOpaqueAuthProof

def authentication (proof : ClientOpaqueAuthProof) : SessionAuthentication :=
  { userId := proof.userId, username := proof.username, sessionKey := proof.sessionKey.toList
    title := proof.title }

end ClientOpaqueAuthProof

namespace LsgHandler

/-- The clock is read for the valid keys and once more for the expiry. -/
def authenticate (aes : Aes256Cbc) (keysNow now : Int) (session : BdSession) (title : Title)
    (authProof : List UInt8) : Fallible LsgWorld Unit := do
  let world ← get
  let authProof ← MonadExcept.ofExcept
    (exec (ClientOpaqueAuthProof.deserialize aes keysNow (arrayOf 128 authProof)) world.keyStore).1
  ensure (decide (now ≤ authProof.timeExpires.toInt))
    (.authenticationExpired authProof.timeExpires.toInt now)
  ensure (authProof.title == title) (.invalidTitle title authProof.title)
  set { world with
    authentications := world.authentications.put session.id authProof.authentication
    recipients := world.recipients.put authProof.userId ⟨session.id, authProof.sessionKey.toList⟩ }

def service (aes : Aes256Cbc) (keysNow now : Int) : LsgService LsgWorld :=
  { authenticate := authenticate aes keysNow now }

def Carries (message : BdReader) (title : Title) (authProof : List UInt8) : Prop :=
  ∃ mode typeChecked ivSeed rest, BdReader.Ready mode typeChecked message
    ∧ message.bits = scalarCode mode typeChecked .unsignedInteger32Type .u32 title.toU32
      ++ (scalarCode mode typeChecked .unsignedInteger32Type .u32 ivSeed
        ++ (ofBytes authProof ++ rest))

variable {ω : Type}

theorem exec_answer {service : LsgService ω} {session : BdSession} {h : Handling ω} {title : Title}
    {authProof : List UInt8} (size : authProof.length = 128)
    (carries : Carries h.reader title authProof) :
    ∃ reader, exec (answer service session) h =
      match exec (service.authenticate session title authProof) h.world with
      | (.ok (), world) =>
        (.ok (.connectionId ⟨session.id⟩), { h with reader := reader, world := world })
      | (.error fault, world) => (.error fault, { h with reader := reader, world := world }) := by
  obtain ⟨mode, typeChecked, ivSeed, rest, ready, starts⟩ := carries
  have number (value : UInt32) : BdReader.Reads mode typeChecked BdReader.readU32
      (scalarCode mode typeChecked .unsignedInteger32Type .u32 value) value :=
    reads_scalar (by decide) .u32 value
  have bytes : BdReader.Reads mode typeChecked (BdReader.readBytes 128) (ofBytes authProof)
      authProof := by
    rw [← size]
    exact reads_bytes authProof
  obtain ⟨r, readTitle, ready, starts⟩ := number title.toU32 h.reader _ ready starts
  obtain ⟨r', readSeed, ready, starts⟩ := number ivSeed r _ ready starts
  obtain ⟨reader, readProof, _, _⟩ := bytes r' rest ready starts
  refine ⟨reader, ?_⟩
  rw [answer, exec_bind_ok _ (exec_perform_ok readTitle), Title.fromU32_toU32, okOr_some, pure_bind,
    exec_bind_ok _ (@exec_perform_ok ω _ _ { h with reader := r } _ _ readSeed),
    exec_bind_ok _ (@exec_perform_ok ω _ _ { h with reader := r' } _ _ readProof), exec_bind]
  rw [exec_call]
  rcases exec (service.authenticate session title authProof) h.world with ⟨outcome, world⟩
  cases outcome <;> rfl

def admits (aes : Aes256Cbc) (keysNow now : Int) (keyStore : KeyStore.InMemoryKeyState)
    (title : Title) (authProof : List UInt8) : Option ClientOpaqueAuthProof :=
  match (exec (ClientOpaqueAuthProof.deserialize aes keysNow (arrayOf 128 authProof)) keyStore).1 with
  | .ok proof => if now ≤ proof.timeExpires.toInt ∧ proof.title = title then some proof else none
  | .error _ => none

end LsgHandler

-- what an admitted proof leaves behind
def LsgWorld.enroll (world : LsgWorld) (session : SessionId) (proof : ClientOpaqueAuthProof) :
    LsgWorld :=
  { world with
    authentications := world.authentications.put session proof.authentication
    recipients := world.recipients.put proof.userId ⟨session, proof.sessionKey.toList⟩ }

namespace LsgHandler

variable {aes : Aes256Cbc} {keysNow now : Int} {session : BdSession} {title : Title}
  {authProof : List UInt8} {world : LsgWorld}

theorem exec_authenticate_of_admits {proof : ClientOpaqueAuthProof}
    (admitted : admits aes keysNow now world.keyStore title authProof = some proof) :
    exec (authenticate aes keysNow now session title authProof) world
      = (.ok (), world.enroll session.id proof) := by
  rw [admits] at admitted
  rw [authenticate, exec_bind_ok _ (exec_get world)]
  split at admitted
  next opened deserialized =>
    split at admitted
    next holds =>
      obtain rfl := Option.some.inj admitted
      rw [deserialized, exec_bind_ok _ (exec_ofExcept _ world), decide_eq_true holds.1, ensure_true,
        pure_bind, beq_iff_eq.mpr holds.2, ensure_true, pure_bind]
      rfl
    next => cases admitted
  next => cases admitted

theorem exec_authenticate_of_refused
    (refused : admits aes keysNow now world.keyStore title authProof = none) :
    ∃ fault, exec (authenticate aes keysNow now session title authProof) world
      = (.error fault, world) := by
  rw [admits] at refused
  rw [authenticate, exec_bind_ok _ (exec_get world)]
  generalize (exec (ClientOpaqueAuthProof.deserialize aes keysNow (arrayOf 128 authProof))
    world.keyStore).1 = outcome at refused ⊢
  cases outcome with
  | error fault => exact ⟨fault, exec_bind_error _ (exec_ofExcept _ world)⟩
  | ok proof =>
    dsimp only at refused
    rw [exec_bind_ok _ (exec_ofExcept _ world)]
    by_cases early : now ≤ proof.timeExpires.toInt
    · have other : proof.title ≠ title := by
        intro same
        rw [if_pos ⟨early, same⟩] at refused
        cases refused
      rw [decide_eq_true early, ensure_true, pure_bind, beq_eq_false_iff_ne.mpr other]
      exact ⟨_, rfl⟩
    · rw [decide_eq_false early]
      exact ⟨_, rfl⟩

end LsgHandler

end BitDemon
