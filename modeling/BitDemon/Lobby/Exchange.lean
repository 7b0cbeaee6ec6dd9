import BitDemon.Lobby.Serving
import BitDemon.Networking.Sealing

set_option autoImplicit false

/-!
# One exchange

A request is handled if it is accepted, and its answer is opened with the key
that the session has when it is sent.
-/

namespace BitDemon

open Machine Bits

namespace LobbyServer

section

variable {ρ : Type} (aes : Aes256Cbc) (crypto : SessionCrypto)
  (added : LobbyServiceId → Option (AddedHandler (LobbyWorld ρ)))

def Accepted (arrival : Arrival) (world : LobbyWorld ρ) (message : List UInt8) : Prop :=
  BdMessage.Accepts crypto (world.session arrival.session arrival.peerAddr) arrival.buf message

-- the handler a message is given to, with the session as it is then
def handled (arrival : Arrival) (world : LobbyWorld ρ) (message : List UInt8) :
    Except Fault BdResponse × LobbyWorld ρ :=
  exec ((withServices aes arrival.clock added).handling
    (world.session arrival.session arrival.peerAddr) arrival.counter (BdReader.new message)) world

def answerKey (arrival : Arrival) (world : LobbyWorld ρ) (response : BdResponse) : Option (List UInt8) :=
  ((world.lsg.authentications.get arrival.session).map SessionAuthentication.sessionKey).filter
    fun _ => response.shouldEncrypt

inductive Exchanged (arrival : Arrival) (world : LobbyWorld ρ) :
    Except Fault (List UInt8) × LobbyWorld ρ → Prop where
  | refused (fault : Fault) (error : fault.isError = true)
      (unsealed : ∀ message, ¬Accepted crypto arrival world message) :
      Exchanged arrival world (.error fault, world)
  | failed (message : List UInt8) (accepted : Accepted crypto arrival world message) (fault : Fault)
      (after : LobbyWorld ρ) (ran : handled aes added arrival world message = (.error fault, after)) :
      Exchanged arrival world (.error fault, after)
  | answered (message : List UInt8) (accepted : Accepted crypto arrival world message)
      (response : BdResponse) (after : LobbyWorld ρ)
      (ran : handled aes added arrival world message = (.ok response, after)) (body : List UInt8) (n : Nat)
      (few : n < 8)
      (opens : BdResponse.opened crypto (answerKey arrival after response) body
        = some (response.data ++ List.replicate n 0)) :
      Exchanged arrival world (.ok (LeCodec.u32.toLeBytes (UInt32.ofNat body.length) ++ body), after)

/--
Nothing happens on a message that is not accepted; what is accepted is handled
as it was sealed, and the other side can open the answer.
-/
theorem exchanged (arrival : Arrival) (world : LobbyWorld ρ) :
    Exchanged aes crypto added arrival world (exec (serve aes crypto added arrival) world) := by
  let session := world.session arrival.session arrival.peerAddr
  have yields := (BdMessage.yields_new crypto session arrival.buf : Yields (· = world) _ _ _) world rfl
  have accepts := fun reader => @BdMessage.new_ok_iff _ crypto session arrival.buf reader world
  rw [serve, exec_bind_ok _ (exec_get world)]
  rcases opening : exec (BdMessage.new crypto session arrival.buf : Fallible (LobbyWorld ρ) BdReader) world
    with ⟨outcome, same⟩
  rw [opening] at yields accepts
  obtain rfl : same = world := yields.1
  cases outcome with
  | error fault =>
    rw [exec_bind_error _ opening]
    refine .refused fault (yields.2.2 fault rfl) fun message accepted => ?_
    cases (accepts _).mpr ⟨message, accepted, rfl⟩
  | ok reader =>
    obtain ⟨message, accepted, rfl⟩ := (accepts reader).mp rfl
    rw [exec_bind_ok _ opening]
    rcases ran : handled aes added arrival same message with ⟨outcome, after⟩
    cases outcome with
    | error fault =>
      rw [exec_bind_error _ ran]
      exact .failed message accepted fault after ran
    | ok response =>
      obtain ⟨frame, framed, _⟩ := response.frame_ok crypto arrival.frameSeed
        (answerKey arrival after response)
      obtain ⟨body, n, whole, few, opens⟩ := BdResponse.frame_opened framed
      rw [exec_bind_ok _ ran, exec_bind_ok _ (exec_get after)]
      have sent : exec (MonadExcept.ofExcept (response.frame crypto arrival.frameSeed
          (answerKey arrival after response)) : Fallible (LobbyWorld ρ) (List UInt8)) after
          = (.ok (LeCodec.u32.toLeBytes (UInt32.ofNat body.length) ++ body), after) := by
        rw [framed, whole]
        rfl
      have answered : Exchanged aes crypto added arrival same (.ok (LeCodec.u32.toLeBytes
          (UInt32.ofNat body.length) ++ body), after) :=
        .answered message accepted response after ran body n few opens
      rw [← sent] at answered
      exact answered

end

end LobbyServer

end BitDemon
