import BitDemon.DwServer.GroupService
import BitDemon.DwServer.LiveProofs
import BitDemon.DwServer.RichPresence
import BitDemon.Library.Focus
import BitDemon.Lobby.HostIndex

set_option autoImplicit false

/-!
# The lobby as it is configured

Four services keep something of the connections they serve. Each removes what it has
of a connection when that connection ends, one callback after the other.
-/

namespace BitDemon

open Machine LobbyServer

-- the router is with the authentications, in what the LSG handler changes
structure LobbyStores (τ : Type) where
  registry : LockedRegistry
  groups : DwGroupService
  presence : DwRichPresenceService
  others : τ

namespace Lobby

abbrev World (τ : Type) := LobbyWorld (LobbyStores τ)

structure Shared where
  lsg : LsgWorld
  registry : LockedRegistry
  groups : DwGroupService
  presence : DwRichPresenceService

variable {τ : Type}

def shared (world : World τ) : Shared :=
  { lsg := world.lsg
    registry := world.services.registry
    groups := world.services.groups
    presence := world.services.presence }

def lsg : Focus (World τ) LsgWorld :=
  { get := LobbyWorld.lsg
    put := fun part world => { world with lsg := part }
    get_put := fun _ _ => rfl
    put_get := fun _ => rfl }

def registry : Focus (World τ) LockedRegistry :=
  { get := fun world => world.services.registry
    put := fun part world => { world with services := { world.services with registry := part } }
    get_put := fun _ _ => rfl
    put_get := fun _ => rfl }

def groups : Focus (World τ) DwGroupService :=
  { get := fun world => world.services.groups
    put := fun part world => { world with services := { world.services with groups := part } }
    get_put := fun _ _ => rfl
    put_get := fun _ => rfl }

def presence : Focus (World τ) DwRichPresenceService :=
  { get := fun world => world.services.presence
    put := fun part world => { world with services := { world.services with presence := part } }
    get_put := fun _ _ => rfl
    put_get := fun _ => rfl }

def others : Focus (World τ) τ :=
  { get := fun world => world.services.others
    put := fun part world => { world with services := { world.services with others := part } }
    get_put := fun _ _ => rfl
    put_get := fun _ => rfl }

-- what is drawn while a message is handled, and the order of the hash map then
structure Draws where
  minted : Minted
  iteration : Iteration

def sessionRegistry (checks : Bool) (draws : Draws) : SessionRegistry (World τ) :=
  let calls := LockedRegistry.registry checks draws.minted draws.iteration
  { create := fun connection info => registry.within (calls.create connection info)
    update := fun connection info => registry.within (calls.update connection info)
    delete := fun connection id => registry.within (calls.delete connection id)
    listFor := fun connection query => registry.within (calls.listFor connection query) }

def groupService : GroupService (World τ) :=
  { setGroups := fun session ids =>
      groups.within (modify fun service => service.setGroups session.id ids)
    getGroupCounts := fun _ ids => groups.within do
      let service ← get
      pure ((service.getGroupCounts ids).map UInt64.ofNat) }

def richPresenceService : RichPresenceService (World τ) :=
  { setInfo := fun session userId data =>
      presence.within (DwRichPresenceService.setInfo session userId data)
    getInfo := fun session users => presence.within (DwRichPresenceService.getInfo session users) }

-- how a push ends is up to the connection that it is written to
def messageRouter (push : Recipient → DeliveredMessage → Fallible τ Bool)
    (now : Fallible τ UInt32) : MessageRouter (World τ) :=
  { deliver := fun message => do
      let world ← get
      match world.lsg.recipients.get message.recipient with
      | none => pure false
      | some recipient => others.within (push recipient message)
    now := others.within now }

def KeepsApart (handler : LobbyHandler (World τ)) : Prop :=
  ∀ kept : Shared → Prop, handler.Spares fun world => kept (shared world)

abbrev OtherHandler (τ : Type) :=
  { handler : AddedHandler (World τ) // KeepsApart handler.val }

structure Setup (τ : Type) where
  aes : Aes256Cbc
  crypto : SessionCrypto
  -- whether sums that overflow panic
  checks : Bool
  -- whether the log takes in what is traced
  traces : Bool
  push : Recipient → DeliveredMessage → Fallible τ Bool
  now : Fallible τ UInt32
  others : LobbyServiceId → Option (OtherHandler τ)

/-- `configure_lobby_server`. -/
def Setup.handlers (setup : Setup τ) (draws : Draws) :
    LobbyServiceId → Option (AddedHandler (World τ))
  | .group => some ⟨.group groupService, rfl⟩
  | .matchMaking =>
    some ⟨.matchMaking ⟨sessionRegistry setup.checks draws, setup.checks, setup.traces⟩, rfl⟩
  | .messaging => some ⟨.messaging (messageRouter setup.push setup.now), rfl⟩
  | .richPresence => some ⟨.richPresence richPresenceService, rfl⟩
  | serviceId => (setup.others serviceId).map Subtype.val

end Lobby

structure Lobby (τ : Type) where
  -- history: no session id is given out twice
  issued : List SessionId
  connected : List SessionId
  -- of the lock on the callbacks for connections that end
  unregisterPoisoned : Bool
  -- the process has come to its end
  aborted : Bool
  world : Lobby.World τ

namespace Lobby

variable {τ : Type}

def start (keyStore : KeyStore.InMemoryKeyState) (others : τ) : Lobby τ :=
  { issued := []
    connected := []
    unregisterPoisoned := false
    aborted := false
    world :=
      { lsg := { keyStore := keyStore, authentications := ∅, recipients := ∅ }
        services := { registry := .new, groups := .new, presence := .new, others := others } } }

def inWorld : Focus (Lobby τ) (World τ) :=
  { get := Lobby.world
    put := fun part lobby => { lobby with world := part }
    get_put := fun _ _ => rfl
    put_get := fun _ => rfl }

-- in the order in which `configure_lobby_server` adds them
def unregisterCb (session : BdSession) : Fallible (World τ) Unit := do
  groups.within (modify fun service => service.removeAllGroupsForSession session.id)
  let _removed ← registry.within (LockedRegistry.removeConnection session.id)
  lsg.within (modify fun world => world.unregister session.id)
  presence.within (modify (DwRichPresenceService.sessionUnregistered session))

/-- A callback that panics leaves the ones behind it out, and poisons the lock on them all. -/
def unregisterSession (session : BdSession) : Fallible (Lobby τ) Unit :=
  Mutex.guarded unregisterPoisoned (fun lobby => { lobby with unregisterPoisoned := true })
    SessionManager.unwinds (.panic .unwrapOnError) (inWorld.within (unregisterCb session))

inductive Event (τ : Type) where
  | connect (session : SessionId)
  | keys (call : KeyStore.Call)
  | message (arrival : Arrival) (draws : Draws)
  -- the population page, which takes the lock of the registry
  | population (iteration : Iteration)
  -- whatever else the other services do
  | others (others : τ)
  -- of its own accord, or as the thread of the connection unwinds
  | disconnect (session : SessionId) (unwinding : Bool)

def Event.session : Event τ → Option SessionId
  | .connect session | .disconnect session _ => some session
  | .message arrival _ => some arrival.session
  | .keys _ | .population _ | .others _ => none

def handle (setup : Setup τ) (arrival : Arrival) (draws : Draws) :
    Fallible (World τ) (List UInt8) :=
  serve setup.aes setup.crypto (setup.handlers draws) arrival

def forget (lobby : Lobby τ) (id : SessionId) : Lobby τ :=
  { lobby with
    connected := lobby.connected.filter (· ≠ id)
    world.lsg.authentications := lobby.world.lsg.authentications.remove id }

def panicked {α : Type} : Except Fault α → Bool
  | .ok _ => false
  | .error fault => SessionManager.unwinds fault

def left (lobby : Lobby τ) (id : SessionId) : Lobby τ :=
  (exec (unregisterSession (lobby.world.session id none)) lobby).2.forget id

-- a panic while the thread unwinds ends the process, and every connection with it
def leave (lobby : Lobby τ) (id : SessionId) (unwinding : Bool) : Lobby τ :=
  if unwinding && panicked (exec (unregisterSession (lobby.world.session id none)) lobby).1 then
    { lobby.left id with connected := [], aborted := true }
  else
    lobby.left id

def act (setup : Setup τ) (lobby : Lobby τ) : Event τ → Lobby τ
  | .connect session =>
    if session ∈ lobby.issued then lobby
    else { lobby with
      issued := session :: lobby.issued
      connected := session :: lobby.connected }
  | .keys call =>
    { lobby with world.lsg.keyStore := KeyStore.step lobby.world.lsg.keyStore call }
  | .message arrival draws =>
    if arrival.session ∈ lobby.connected then
      { lobby with world := (exec (handle setup arrival draws) lobby.world).2 }
    else lobby
  | .population iteration =>
    { lobby with
      world := (exec (registry.within (LockedRegistry.serve setup.checks (.population iteration)))
        lobby.world).2 }
  | .others part => { lobby with world := others.put part lobby.world }
  | .disconnect session unwinding =>
    if session ∈ lobby.connected then lobby.leave session unwinding else lobby

def step (setup : Setup τ) (lobby : Lobby τ) (event : Event τ) : Lobby τ :=
  if lobby.aborted then lobby else lobby.act setup event

end Lobby

end BitDemon
