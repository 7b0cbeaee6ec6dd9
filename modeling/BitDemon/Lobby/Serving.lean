import BitDemon.Lobby.LsgAuthentication
import BitDemon.Lobby.Server
import BitDemon.Networking.Message

set_option autoImplicit false

/-!
# Serving one lobby message

The server hands the message to a handler and frames what it answers. The key of
the frame is the one that the session has by then.
-/

namespace BitDemon

open Machine

-- what authentications change, and what the other services keep
structure LobbyWorld (ρ : Type) where
  lsg : LsgWorld
  services : ρ

variable {ρ : Type}

def onLsg {α : Type} (m : Fallible LsgWorld α) : Fallible (LobbyWorld ρ) α := fun world =>
  match exec m world.lsg with
  | (outcome, lsg) => (outcome, { world with lsg := lsg })

theorem exec_onLsg {α : Type} (m : Fallible LsgWorld α) (world : LobbyWorld ρ) :
    exec (onLsg m) world = ((exec m world.lsg).1, { world with lsg := (exec m world.lsg).2 }) := rfl

def LobbyWorld.session (world : LobbyWorld ρ) (id : SessionId) (peerAddr : Option IpAddr) :
    BdSession :=
  { id := id, authentication := world.lsg.authentications.get id, peerAddr := peerAddr }

abbrev AddedHandler (ω : Type) :=
  { handler : LobbyHandler ω // handler.requiresAuthentication = true }

namespace LobbyServer

-- the clock as the handler of authentications reads it
structure LsgClock where
  keysNow : Int
  now : Int

def withServices (aes : Aes256Cbc) (clock : LsgClock)
    (added : LobbyServiceId → Option (AddedHandler (LobbyWorld ρ))) : LobbyServer (LobbyWorld ρ) :=
  { lobbyHandlers := fun serviceId =>
      if serviceId = .lobbyService then
        some (.lsg
          { authenticate := fun session title authProof =>
              onLsg (LsgHandler.authenticate aes clock.keysNow clock.now session title authProof) })
      else
        (added serviceId).map Subtype.val }

def handling (server : LobbyServer (LobbyWorld ρ)) (session : BdSession) (counter : UInt64)
    (message : BdReader) : Fallible (LobbyWorld ρ) BdResponse := fun world =>
  match exec (server.handleMessage session)
    { reader := message, demanded := [], transactionIdCounter := counter, world := world } with
  | (outcome, handled) => (outcome, handled.world)

-- the connection a message comes from, its bytes, and what is drawn while it is handled
structure Arrival where
  session : SessionId
  peerAddr : Option IpAddr
  buf : List UInt8
  clock : LsgClock
  counter : UInt64
  frameSeed : UInt32

/-- One message, from its bytes to the frame of the reply. -/
def serve (aes : Aes256Cbc) (crypto : SessionCrypto)
    (added : LobbyServiceId → Option (AddedHandler (LobbyWorld ρ))) (arrival : Arrival) :
    Fallible (LobbyWorld ρ) (List UInt8) := do
  let before ← get
  let session := before.session arrival.session arrival.peerAddr
  let message ← BdMessage.new crypto session arrival.buf
  let response ← (withServices aes arrival.clock added).handling session arrival.counter message
  let after ← get
  let key := ((after.lsg.authentications.get arrival.session).map
    SessionAuthentication.sessionKey).filter fun _ => response.shouldEncrypt
  MonadExcept.ofExcept (response.frame crypto arrival.frameSeed key)

theorem graceful_readServiceId : Graceful BdReader.Sound readServiceId :=
  keeps_bind (BdReader.graceful_setTypeChecked false) fun _ =>
    keeps_bind (BdReader.graceful_readScalar _ _) fun _ => graceful_okOr _ _

end LobbyServer

end BitDemon
