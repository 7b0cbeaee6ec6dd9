import BitDemon.DwServer.Lobby

set_option autoImplicit false

/-!
# What a connection changes, and what is left of it

A handler passes its own session on to the services, so a message changes what is kept
of its connection only. When the connection ends, the callbacks remove it.
-/

namespace BitDemon

open Machine LobbyServer

section Bound

variable {ω : Type}

def GroupService.bound (session : BdSession) (service : GroupService ω) : GroupService ω :=
  { setGroups := fun _ => service.setGroups session
    getGroupCounts := fun _ => service.getGroupCounts session }

def SessionRegistry.bound (connection : SessionId) (registry : SessionRegistry ω) :
    SessionRegistry ω :=
  { create := fun _ => registry.create connection
    update := fun _ => registry.update connection
    delete := fun _ => registry.delete connection
    listFor := fun _ => registry.listFor connection }

def RichPresenceService.bound (session : BdSession) (service : RichPresenceService ω) :
    RichPresenceService ω :=
  { setInfo := fun _ => service.setInfo session
    getInfo := fun _ => service.getInfo session }

namespace LobbyHandler

def bound (session : BdSession) : LobbyHandler ω → LobbyHandler ω
  | .group service => .group (service.bound session)
  | .matchMaking handler =>
    .matchMaking { handler with registry := handler.registry.bound session.id }
  | .richPresence service => .richPresence (service.bound session)
  | handler => handler

theorem framing_bound (session : BdSession) (handler : LobbyHandler ω) :
    (handler.bound session).framing = handler.framing := by
  cases handler <;> rfl

theorem requiresAuthentication_bound (session : BdSession) (handler : LobbyHandler ω) :
    (handler.bound session).requiresAuthentication = handler.requiresAuthentication := by
  cases handler <;> rfl

theorem handleMessage_bound (session : BdSession) (handler : LobbyHandler ω) :
    (handler.bound session).handleMessage session = handler.handleMessage session := by
  cases handler <;> rfl

theorem spares_bound {P : ω → Prop} {handler : LobbyHandler ω} (spares : handler.Spares P)
    (session : BdSession) : (handler.bound session).Spares P := by
  cases handler with
  | group service =>
    exact ⟨fun _ => GroupService.Spares.setGroups spares session,
      fun _ => GroupService.Spares.getGroupCounts spares session⟩
  | matchMaking handler =>
    exact ⟨fun _ => SessionRegistry.Spares.create spares session.id,
      fun _ => SessionRegistry.Spares.update spares session.id,
      fun _ => SessionRegistry.Spares.delete spares session.id,
      fun _ => SessionRegistry.Spares.listFor spares session.id⟩
  | richPresence service =>
    exact ⟨fun _ => RichPresenceService.Spares.setInfo spares session,
      fun _ => RichPresenceService.Spares.getInfo spares session⟩
  | _ => exact spares

end LobbyHandler

end Bound

namespace LobbyServer

variable {ρ : Type}

def bound (session : BdSession) (added : LobbyServiceId → Option (AddedHandler (LobbyWorld ρ)))
    (serviceId : LobbyServiceId) : Option (AddedHandler (LobbyWorld ρ)) :=
  (added serviceId).map fun handler =>
    ⟨handler.val.bound session,
      (handler.val.requiresAuthentication_bound session).trans handler.property⟩

theorem handleMessage_bound (aes : Aes256Cbc) (clock : LsgClock)
    (added : LobbyServiceId → Option (AddedHandler (LobbyWorld ρ))) (session : BdSession) :
    (withServices aes clock (bound session added)).handleMessage session
      = (withServices aes clock added).handleMessage session := by
  rw [handleMessage, handleMessage]
  refine bind_congr fun serviceId => ?_
  by_cases own : serviceId = .lobbyService
  · subst own
    rfl
  have stored (given : LobbyServiceId → Option (AddedHandler (LobbyWorld ρ))) :
      (withServices aes clock given).lobbyHandlers serviceId = (given serviceId).map Subtype.val :=
    if_neg own
  rw [stored, stored, bound]
  cases added serviceId with
  | none => rfl
  | some handler =>
    have framed : enterFraming (some (handler.val.bound session))
        = enterFraming (some handler.val) := by
      rw [enterFraming, enterFraming, Option.map_some, Option.map_some, handler.val.framing_bound]
    dsimp only [Option.map_some]
    rw [framed, handler.val.requiresAuthentication_bound, handler.val.handleMessage_bound]

theorem handling_keeps_bound {P : LobbyWorld ρ → Prop} {aes : Aes256Cbc} {clock : LsgClock}
    {added : LobbyServiceId → Option (AddedHandler (LobbyWorld ρ))} {session : BdSession}
    (spares : ∀ serviceId handler, added serviceId = some handler →
      (handler.val.bound session).Spares P)
    {counter : UInt64} {message r : BdReader} {serviceId : LobbyServiceId}
    (named : exec readServiceId message = (.ok serviceId, r)) (other : serviceId ≠ .lobbyService)
    {world : LobbyWorld ρ} (holds : P world) :
    P (exec ((withServices aes clock added).handling session counter message) world).2 := by
  have each (serviceId : LobbyServiceId) (handler : AddedHandler (LobbyWorld ρ))
      (stored : bound session added serviceId = some handler) : handler.val.Spares P := by
    obtain ⟨given, found, rfl⟩ := Option.map_eq_some_iff.mp stored
    exact spares serviceId given found
  have kept := @handling_keeps ρ P aes clock (bound session added) each session counter message r
    serviceId named other world holds
  have same : (withServices aes clock (bound session added)).handling session counter message
      = (withServices aes clock added).handling session counter message := by
    funext world
    rw [handling, handling, handleMessage_bound]
  rw [same] at kept
  exact kept

end LobbyServer

namespace Lobby

variable {τ : Type}

structure Touches (own : SessionId) (before after : Shared) : Prop where
  authentications : ∀ session, session ≠ own →
    after.lsg.authentications.get session = before.lsg.authentications.get session
  recipients : ∀ user recipient, after.lsg.recipients.get user = some recipient →
    recipient.session = own ∨ before.lsg.recipients.get user = some recipient
  sessions : ∀ session, session ≠ own →
    after.registry.state.sessions.get session = before.registry.state.sessions.get session
  groups : ∀ session, session ≠ own →
    after.groups.sessionGroups.get session = before.groups.sessionGroups.get session
  presences : ∀ user entry, after.presence.richPresences.get user = some entry →
    entry.1 = own ∨ before.presence.richPresences.get user = some entry

theorem Touches.refl (own : SessionId) (shared : Shared) : Touches own shared shared :=
  ⟨fun _ _ => rfl, fun _ _ => .inr, fun _ _ => rfl, fun _ _ => rfl, fun _ _ => .inr⟩

theorem Touches.trans {own : SessionId} {before mid after : Shared}
    (first : Touches own before mid) (second : Touches own mid after) :
    Touches own before after where
  authentications session apart :=
    (second.authentications session apart).trans (first.authentications session apart)
  recipients user recipient found :=
    (second.recipients user recipient found).elim .inl (first.recipients user recipient)
  sessions session apart := (second.sessions session apart).trans (first.sessions session apart)
  groups session apart := (second.groups session apart).trans (first.groups session apart)
  presences user entry found :=
    (second.presences user entry found).elim .inl (first.presences user entry)

structure Served (checks : Bool) (own : SessionId) (before after : Shared) : Prop where
  touches : Touches own before after
  indexed : after.registry.state.Indexed
  free : checks = false → after.registry.poisoned = false

section Services

variable {checks : Bool} {session : BdSession} {before : Shared}

theorem Served.registry {world : World τ} (served : Served checks session.id before (shared world))
    {after : LockedRegistry}
    (answers : LockedRegistry.Answers checks session.id world.services.registry after) :
    Served checks session.id before (shared (Lobby.registry.put after world)) := by
  refine ⟨served.touches.trans ?_, ?_, fun unchecked => ?_⟩
  · refine { Touches.refl _ _ with sessions := fun other apart => ?_ }
    have kept : after.state.sessions.get other
        = world.services.registry.state.sessions.get other := by
      rcases answers.state with same | ⟨op, own, stepped⟩
      · rw [same]
      · rw [stepped, RegistryState.sessions_step_of_ne _ (own ▸ apart)]
    exact kept
  · have indexed : after.state.Indexed := by
      rcases answers.state with same | ⟨op, _, stepped⟩
      · rw [same]
        exact served.indexed
      · rw [stepped]
        exact RegistryState.indexed_step served.indexed op
    exact indexed
  · exact answers.free unchecked (served.free unchecked)

theorem Served.aside {own : SessionId} {mid after : Shared} (served : Served checks own before mid)
    (touches : Touches own mid after) (same : after.registry = mid.registry) :
    Served checks own before after :=
  ⟨served.touches.trans touches, same ▸ served.indexed, same ▸ served.free⟩

theorem spares_sessionRegistry (draws : Draws) :
    ((sessionRegistry checks draws : SessionRegistry (World τ)).bound session.id).Spares
      fun world => Served checks session.id before (shared world) := by
  have call {α : Type} {m : Fallible LockedRegistry α}
      (answers : ∀ r, LockedRegistry.Answers checks session.id r (exec m r).2) :
      CallSpares (fun world : World τ => Served checks session.id before (shared world))
        (registry.within m) := by
    intro world served
    exact ⟨served.registry (answers _), fun _ _ => trivial⟩
  constructor
  · intro _ info
    exact call fun r => LockedRegistry.answers_onState (.create session.id info draws.minted) rfl r
      fun _ => rfl
  · intro _ info
    exact call fun r => LockedRegistry.answers_onState (.update session.id info draws.minted) rfl r
      fun _ => rfl
  · intro _ id
    exact call fun r => LockedRegistry.answers_onState (.delete session.id id) rfl r fun _ => rfl
  · intro _ query
    refine call fun r => LockedRegistry.answers_reading r ?_
    exact keeps_get_bind fun state _ => RegistryState.keeps_listForLoop _ _ _ _ _

theorem spares_groupService :
    ((groupService : GroupService (World τ)).bound session).Spares
      fun world => Served checks session.id before (shared world) := by
  constructor
  · intro _ ids
    refine Focus.keeps_within fun world _ => keeps_modify fun service served => ?_
    refine served.aside ?_ rfl
    refine { Touches.refl _ _ with groups := fun other apart => ?_ }
    exact (Table.get_put_of_ne _ _ apart).trans (Table.get_remove_of_ne _ apart)
  · intro _ ids
    exact Focus.keeps_within fun world _ => keeps_get_bind fun _ _ => keeps_pure _

theorem spares_richPresenceService :
    ((richPresenceService : RichPresenceService (World τ)).bound session).Spares
      fun world => Served checks session.id before (shared world) := by
  constructor
  · intro _ userId data
    refine Focus.keeps_within fun world _ service served => ⟨?_, fun _ _ => trivial⟩
    rcases DwRichPresenceService.exec_setInfo session userId data service with same | put
    · rw [same]
      exact served
    rw [put]
    refine served.aside ?_ rfl
    refine { Touches.refl _ _ with presences := fun user entry found => ?_ }
    have entered : (service.richPresences.put userId (session.id, data)).get user = some entry :=
      found
    rw [Table.get_put] at entered
    split at entered
    next =>
      obtain rfl := Option.some.inj entered
      exact .inl rfl
    next => exact .inr entered
  · intro _ users
    refine Focus.keeps_within fun world _ => keeps_ite (fun _ => keeps_pure _) fun _ => ?_
    exact keeps_get_bind fun _ _ => keeps_pure _

theorem apart_others : (others : Focus (World τ) τ).Apart shared := fun _ _ => rfl

theorem spares_messageRouter (push : Recipient → DeliveredMessage → Fallible τ Bool)
    (now : Fallible τ UInt32) (kept : Shared → Prop) :
    (messageRouter push now).Spares fun world => kept (shared world) := by
  constructor
  · intro message
    refine keeps_get_bind fun world _ => ?_
    cases world.lsg.recipients.get message.recipient with
    | none => exact keeps_pure _
    | some recipient => exact apart_others.keeps _ kept
  · exact apart_others.keeps _ kept

end Services

theorem spares_handlers {setup : Setup τ} {draws : Draws} {session : BdSession} {before : Shared}
    {serviceId : LobbyServiceId} {handler : AddedHandler (World τ)}
    (stored : setup.handlers draws serviceId = some handler) :
    (handler.val.bound session).Spares
      fun world => Served setup.checks session.id before (shared world) := by
  unfold Setup.handlers at stored
  split at stored
  next =>
    obtain rfl := Option.some.inj stored
    exact spares_groupService
  next =>
    obtain rfl := Option.some.inj stored
    exact spares_sessionRegistry draws
  next =>
    obtain rfl := Option.some.inj stored
    exact spares_messageRouter setup.push setup.now _
  next =>
    obtain rfl := Option.some.inj stored
    exact spares_richPresenceService
  next =>
    obtain ⟨other, _, rfl⟩ := Option.map_eq_some_iff.mp stored
    exact LobbyHandler.spares_bound (other.property _) session

theorem touches_enroll (world : World τ) (session : SessionId) (proof : ClientOpaqueAuthProof) :
    Touches session (shared world)
      (shared { world with lsg := world.lsg.enroll session proof }) := by
  refine { Touches.refl _ _ with authentications := ?_, recipients := ?_ }
  · exact fun other apart => Table.get_put_of_ne _ _ apart
  · intro user recipient found
    have entered : (world.lsg.recipients.put proof.userId ⟨session, proof.sessionKey.toList⟩).get user
        = some recipient := found
    rw [Table.get_put] at entered
    split at entered
    next =>
      obtain rfl := Option.some.inj entered
      exact .inl rfl
    next => exact .inr entered

theorem served_handle (setup : Setup τ) (arrival : Arrival) (draws : Draws) {world : World τ}
    (indexed : world.services.registry.state.Indexed)
    (free : setup.checks = false → world.services.registry.poisoned = false) :
    Served setup.checks arrival.session (shared world)
      (shared (exec (handle setup arrival draws) world).2) := by
  have here : Served setup.checks arrival.session (shared world) (shared world) :=
    ⟨.refl _ _, indexed, free⟩
  rcases @serve_cases _ setup.aes setup.crypto (setup.handlers draws) arrival world with
    ⟨fault, unopened, _⟩ | ⟨message, outcome, after, _, _, ran, served, _⟩
  · rw [handle, unopened]
    exact here
  rw [handle, served]
  have handled := congrArg Prod.snd ran
  dsimp only at handled
  rw [← handled]
  rcases named : exec readServiceId message with ⟨⟨fault⟩ | ⟨serviceId⟩, r⟩
  · rw [exec_handling_unnamed (by rw [named])]
    exact here
  by_cases own : serviceId = .lobbyService
  · subst own
    rcases @exec_handling_lsg _ setup.aes arrival.clock (setup.handlers draws)
      (world.session arrival.session arrival.peerAddr) arrival.counter message r named world with
      ⟨fault, refused⟩ | ⟨_, _, proof, response, _, _, enrolled⟩
    · rw [refused]
      exact here
    · rw [enrolled]
      exact here.aside (touches_enroll world arrival.session proof) rfl
  · have spares := fun serviceId handler stored => @spares_handlers _ setup draws
      (world.session arrival.session arrival.peerAddr) (shared world) serviceId handler stored
    exact handling_keeps_bound spares named own here

-- what is left when every callback has run
def farewell (session : BdSession) (world : World τ) : World τ :=
  { lsg := world.lsg.unregister session.id
    services :=
      { world.services with
        registry :=
          { world.services.registry with
            state := (world.services.registry.state.removeConnection session.id).2 }
        groups := world.services.groups.removeAllGroupsForSession session.id
        presence := world.services.presence.sessionUnregistered session } }

theorem exec_unregisterCb (session : BdSession) (world : World τ) :
    exec (unregisterCb session) world =
      if world.services.registry.poisoned = true then
        (.error (.panic .unwrapOnError),
          groups.put (world.services.groups.removeAllGroupsForSession session.id) world)
      else (.ok (), farewell session world) := by
  have grouped : exec (groups.within (modify fun service =>
      service.removeAllGroupsForSession session.id) : Fallible (World τ) Unit) world
      = (.ok (), groups.put (world.services.groups.removeAllGroupsForSession session.id) world) :=
    rfl
  rw [unregisterCb, exec_bind_ok _ grouped]
  split
  next held =>
    have refused : exec (registry.within (LockedRegistry.removeConnection session.id))
        (groups.put (world.services.groups.removeAllGroupsForSession session.id) world) = _ :=
      Focus.exec_within_eq (LockedRegistry.exec_locked_poisoned _ held)
    rw [exec_bind_error _ refused]
    rfl
  next free =>
    have removed : exec (registry.within (LockedRegistry.removeConnection session.id))
        (groups.put (world.services.groups.removeAllGroupsForSession session.id) world) = _ :=
      Focus.exec_within_eq (LockedRegistry.exec_locked_onState _ (Bool.eq_false_iff.mpr free))
    rw [exec_bind_ok _ removed]
    rfl

theorem exec_unregisterSession (lobby : Lobby τ) (session : BdSession) :
    exec (unregisterSession session) lobby =
      if lobby.unregisterPoisoned = true then (.error (.panic .unwrapOnError), lobby)
      else if lobby.world.services.registry.poisoned = true then
        (.error (.panic .unwrapOnError),
          { lobby with
            unregisterPoisoned := true
            world := groups.put
              (lobby.world.services.groups.removeAllGroupsForSession session.id) lobby.world })
      else (.ok (), { lobby with world := farewell session lobby.world }) := by
  have callbacks := exec_unregisterCb session lobby.world
  split
  next failed => exact Mutex.exec_guarded_poisoned failed
  next fine =>
    have free : lobby.unregisterPoisoned = false := Bool.eq_false_iff.mpr fine
    split
    next held =>
      rw [if_pos held] at callbacks
      have ran : exec (inWorld.within (unregisterCb session)) lobby = _ :=
        Focus.exec_within_eq callbacks
      exact Mutex.exec_guarded_unwind free ran rfl
    next unheld =>
      rw [if_neg unheld] at callbacks
      have ran : exec (inWorld.within (unregisterCb session)) lobby = _ :=
        Focus.exec_within_eq callbacks
      exact Mutex.exec_guarded_ok free ran

theorem sessionGroups_removeAll (service : DwGroupService) (session : SessionId) :
    (service.removeAllGroupsForSession session).sessionGroups
      = service.sessionGroups.remove session := by
  rw [DwGroupService.removeAllGroupsForSession]
  split <;> rfl

theorem sessions_removeConnection (state : RegistryState) (connection : SessionId) :
    (state.removeConnection connection).2.sessions = state.sessions.remove connection :=
  RegistryState.forget_sessions state connection

theorem touches_groups (world : World τ) (session : SessionId) :
    Touches session (shared world)
      (shared (groups.put (world.services.groups.removeAllGroupsForSession session) world)) := by
  refine { Touches.refl _ _ with groups := fun other apart => ?_ }
  have removed := congrArg (Table.get · other)
    (sessionGroups_removeAll world.services.groups session)
  exact removed.trans (Table.get_remove_of_ne _ apart)

theorem touches_farewell (world : World τ) (session : BdSession) :
    Touches session.id (shared world) (shared (farewell session world)) where
  authentications _ _ := rfl
  recipients user recipient found := .inr ((Connections.get_unregister _ _ _ _).mp found).1
  sessions other apart := by
    have removed := congrArg (Table.get · other)
      (sessions_removeConnection world.services.registry.state session.id)
    exact removed.trans (Table.get_remove_of_ne _ apart)
  groups := (touches_groups world session.id).groups
  presences user entry found :=
    .inr ((DwRichPresenceService.get_sessionUnregistered _ _ _ _ _).mp found).1

theorem touches_forget (lobby : Lobby τ) (id : SessionId) :
    Touches id (shared lobby.world) (shared (lobby.forget id).world) :=
  { Touches.refl _ _ with
    authentications := fun _ apart => Table.get_remove_of_ne _ apart }

theorem touches_left (lobby : Lobby τ) (id : SessionId) :
    Touches id (shared lobby.world) (shared (lobby.left id).world) := by
  refine Touches.trans ?_ (touches_forget _ id)
  rw [exec_unregisterSession]
  split
  next => exact .refl _ _
  next =>
    split
    next => exact touches_groups lobby.world id
    next => exact touches_farewell lobby.world (lobby.world.session id none)

theorem connected_left (lobby : Lobby τ) (id : SessionId) :
    (lobby.left id).connected = lobby.connected.filter (· ≠ id) := by
  rw [left, exec_unregisterSession]
  split
  next => rfl
  next => split <;> rfl

theorem unregisterPoisoned_left (lobby : Lobby τ) (id : SessionId) :
    (lobby.left id).unregisterPoisoned
      = (lobby.unregisterPoisoned || lobby.world.services.registry.poisoned) := by
  rw [left, exec_unregisterSession]
  split
  next failed => exact failed.trans (by rw [failed, Bool.true_or])
  next fine =>
    have unfailed : lobby.unregisterPoisoned = false := Bool.eq_false_iff.mpr fine
    split
    next held =>
      rw [held, Bool.or_true]
      rfl
    next unheld =>
      rw [Bool.eq_false_iff.mpr unheld, Bool.or_false]
      rfl

theorem world_left {lobby : Lobby τ} {id : SessionId}
    (fine : (lobby.left id).unregisterPoisoned = false) :
    (lobby.left id).world = (Lobby.forget
      { lobby with world := farewell (lobby.world.session id none) lobby.world } id).world := by
  rw [unregisterPoisoned_left, Bool.or_eq_false_iff] at fine
  rw [left, exec_unregisterSession, if_neg (Bool.eq_false_iff.mp fine.1),
    if_neg (Bool.eq_false_iff.mp fine.2)]

theorem registry_left (lobby : Lobby τ) (id : SessionId) :
    (lobby.left id).world.services.registry.poisoned = lobby.world.services.registry.poisoned
      ∧ (lobby.world.services.registry.state.Indexed →
        (lobby.left id).world.services.registry.state.Indexed) := by
  rw [left, exec_unregisterSession]
  split
  next => exact ⟨rfl, fun indexed => indexed⟩
  next =>
    split
    next => exact ⟨rfl, fun indexed => indexed⟩
    next =>
      refine ⟨rfl, fun indexed => ?_⟩
      exact RegistryState.indexed_step indexed (.removeConnection id)

theorem panicked_unregisterSession (lobby : Lobby τ) (session : BdSession) :
    panicked (exec (unregisterSession session) lobby).1
      = (lobby.unregisterPoisoned || lobby.world.services.registry.poisoned) := by
  rw [exec_unregisterSession]
  split
  next failed =>
    rw [failed, Bool.true_or]
    rfl
  next fine =>
    have unfailed : lobby.unregisterPoisoned = false := Bool.eq_false_iff.mpr fine
    rw [unfailed, Bool.false_or]
    split
    next held => exact held.symm
    next unheld => exact (Bool.eq_false_iff.mpr unheld).symm

theorem aborted_left (lobby : Lobby τ) (id : SessionId) : (lobby.left id).aborted = lobby.aborted := by
  rw [left, exec_unregisterSession]
  split
  next => rfl
  next => split <;> rfl

theorem leave_cases (lobby : Lobby τ) (id : SessionId) (unwinding : Bool) :
    lobby.leave id unwinding = lobby.left id
      ∨ (lobby.left id).unregisterPoisoned = true
        ∧ lobby.leave id unwinding = { lobby.left id with connected := [], aborted := true } := by
  rw [leave]
  split
  next aborts =>
    rw [Bool.and_eq_true, panicked_unregisterSession, ← unregisterPoisoned_left lobby id] at aborts
    exact .inr ⟨aborts.2, rfl⟩
  next => exact .inl rfl

structure Kept (lobby : Lobby τ) : Prop where
  authenticated : ∀ session authentication,
    lobby.world.lsg.authentications.get session = some authentication → session ∈ lobby.connected
  reachable : ∀ user recipient, lobby.world.lsg.recipients.get user = some recipient →
    recipient.session ∈ lobby.connected
  advertised : ∀ session info,
    lobby.world.services.registry.state.sessions.get session = some info →
    session ∈ lobby.connected
  minted : ∀ host session, lobby.world.services.registry.state.byHost.get host = some session →
    session ∈ lobby.connected
  grouped : ∀ session ids, lobby.world.services.groups.sessionGroups.get session = some ids →
    session ∈ lobby.connected

def Live (lobby : Lobby τ) : Prop :=
  ∀ user owner data, lobby.world.services.presence.richPresences.get user = some (owner, data) →
    owner ∈ lobby.connected

def Faithful (lobby : Lobby τ) : Event τ → Prop
  | .disconnect session _ => ∀ user data,
    lobby.world.services.presence.richPresences.get user = some (session, data) →
      (lobby.world.lsg.authentications.get session).map SessionAuthentication.userId = some user
  | _ => True

structure Sound (setup : Setup τ) (lobby : Lobby τ) : Prop where
  indexed : lobby.world.services.registry.state.Indexed
  free : setup.checks = false → lobby.world.services.registry.poisoned = false
  fine : setup.checks = false → lobby.unregisterPoisoned = false
  alive : setup.checks = false → lobby.aborted = false
  kept : lobby.unregisterPoisoned = false → Kept lobby

theorem sound_start (setup : Setup τ) (keyStore : KeyStore.InMemoryKeyState) (part : τ) :
    Sound setup (start keyStore part) where
  indexed := RegistryState.indexed_new
  free _ := rfl
  fine _ := rfl
  alive _ := rfl
  kept _ := ⟨nofun, nofun, nofun, nofun, nofun⟩

theorem Kept.touched {lobby : Lobby τ} {own : SessionId} {after : World τ} (kept : Kept lobby)
    (here : own ∈ lobby.connected) (touches : Touches own (shared lobby.world) (shared after))
    (indexed : after.services.registry.state.Indexed) :
    Kept { lobby with world := after } := by
  have there {session : SessionId} (known : session ≠ own → session ∈ lobby.connected) :
      session ∈ lobby.connected := by
    by_cases same : session = own
    · exact same ▸ here
    · exact known same
  have advertised (session : SessionId) (info : MatchMakingInfo)
      (found : after.services.registry.state.sessions.get session = some info) :
      session ∈ lobby.connected :=
    there fun apart => kept.advertised session info
      ((touches.sessions session apart).symm.trans found)
  refine ⟨fun session authentication found => ?_, fun user recipient found => ?_, advertised,
    fun host session mapped => ?_, fun session ids found => ?_⟩
  · exact there fun apart => kept.authenticated session authentication
      ((touches.authentications session apart).symm.trans found)
  · rcases touches.recipients user recipient found with same | before
    · exact same ▸ here
    · exact kept.reachable user recipient before
  · obtain ⟨info, found, _⟩ := indexed host session mapped
    exact advertised session info found
  · exact there fun apart => kept.grouped session ids
      ((touches.groups session apart).symm.trans found)

theorem Live.touched {lobby : Lobby τ} {own : SessionId} {after : World τ} (live : Live lobby)
    (here : own ∈ lobby.connected) (touches : Touches own (shared lobby.world) (shared after)) :
    Live { lobby with world := after } := by
  intro user owner data found
  rcases touches.presences user (owner, data) found with same | before
  · obtain rfl : owner = own := same
    exact here
  · exact live user owner data before

theorem Kept.joined {lobby : Lobby τ} (kept : Kept lobby) (session : SessionId) :
    Kept { lobby with issued := session :: lobby.issued, connected := session :: lobby.connected } := by
  have grown {other : SessionId} : other ∈ lobby.connected → other ∈ session :: lobby.connected :=
    List.mem_cons_of_mem session
  constructor
  · exact fun other authentication found => grown (kept.authenticated other authentication found)
  · exact fun user recipient found => grown (kept.reachable user recipient found)
  · exact fun other info found => grown (kept.advertised other info found)
  · exact fun host other mapped => grown (kept.minted host other mapped)
  · exact fun other ids found => grown (kept.grouped other ids found)

theorem Kept.left {lobby : Lobby τ} {id : SessionId} (kept : Kept lobby)
    (indexed : lobby.world.services.registry.state.Indexed)
    (fine : (lobby.left id).unregisterPoisoned = false) : Kept (lobby.left id) := by
  have same := world_left fine
  have there {session : SessionId} (known : session ∈ lobby.connected) (apart : session ≠ id) :
      session ∈ (lobby.left id).connected := by
    rw [connected_left]
    exact List.mem_filter.mpr ⟨known, decide_eq_true apart⟩
  have advertised (session : SessionId) (info : MatchMakingInfo)
      (found : (lobby.left id).world.services.registry.state.sessions.get session = some info) :
      session ∈ (lobby.left id).connected := by
    rw [same] at found
    have stored : ((lobby.world.services.registry.state.removeConnection id).2.sessions).get session
        = some info := found
    rw [sessions_removeConnection, Table.get_remove] at stored
    split at stored
    next => cases stored
    next apart => exact there (kept.advertised session info stored) apart
  refine ⟨fun session authentication found => ?_, fun user recipient found => ?_, advertised,
    fun host session mapped => ?_, fun session ids found => ?_⟩
  · rw [same] at found
    have stored : (lobby.world.lsg.authentications.remove id).get session = some authentication :=
      found
    rw [Table.get_remove] at stored
    split at stored
    next => cases stored
    next apart => exact there (kept.authenticated session authentication stored) apart
  · rw [same] at found
    obtain ⟨before, apart⟩ := (Connections.get_unregister _ _ _ _).mp found
    exact there (kept.reachable user recipient before) apart
  · obtain ⟨info, found, _⟩ := (registry_left lobby id).2 indexed host session mapped
    exact advertised session info found
  · rw [same] at found
    have stored : ((lobby.world.services.groups.removeAllGroupsForSession id).sessionGroups).get
        session = some ids := found
    rw [sessionGroups_removeAll, Table.get_remove] at stored
    split at stored
    next => cases stored
    next apart => exact there (kept.grouped session ids stored) apart

theorem Live.left {lobby : Lobby τ} {id : SessionId} {unwinding : Bool} (live : Live lobby)
    (faithful : Faithful lobby (.disconnect id unwinding))
    (fine : (lobby.left id).unregisterPoisoned = false) : Live (lobby.left id) := by
  intro user owner data found
  rw [world_left fine] at found
  obtain ⟨before, own⟩ := (DwRichPresenceService.get_sessionUnregistered _ _ _ _ _).mp found
  have apart : owner ≠ id := by
    rintro rfl
    exact own rfl (faithful user data before)
  rw [connected_left]
  exact List.mem_filter.mpr ⟨live user owner data before, decide_eq_true apart⟩

theorem served_message (setup : Setup τ) (arrival : Arrival) (draws : Draws) {lobby : Lobby τ}
    (sound : Sound setup lobby) :
    Served setup.checks arrival.session (shared lobby.world)
      (shared (exec (handle setup arrival draws) lobby.world).2) :=
  served_handle setup arrival draws sound.indexed sound.free

theorem sound_leave {setup : Setup τ} {lobby : Lobby τ} (sound : Sound setup lobby)
    (session : SessionId) (unwinding : Bool) : Sound setup (lobby.leave session unwinding) := by
  obtain ⟨lock, indexed⟩ := registry_left lobby session
  have unpoisoned (unchecked : setup.checks = false) :
      (lobby.left session).unregisterPoisoned = false := by
    rw [unregisterPoisoned_left, sound.fine unchecked, sound.free unchecked]
    rfl
  rcases leave_cases lobby session unwinding with stays | ⟨failed, aborts⟩
  · rw [stays]
    refine ⟨indexed sound.indexed, fun unchecked => lock.trans (sound.free unchecked), unpoisoned,
      fun unchecked => (aborted_left lobby session).trans (sound.alive unchecked), fun fine => ?_⟩
    have before := fine
    rw [unregisterPoisoned_left, Bool.or_eq_false_iff] at before
    exact (sound.kept before.1).left sound.indexed fine
  · have checked : setup.checks ≠ false := by
      intro unchecked
      rw [unpoisoned unchecked] at failed
      cases failed
    rw [aborts]
    refine ⟨indexed sound.indexed, fun unchecked => absurd unchecked checked,
      fun unchecked => absurd unchecked checked, fun unchecked => absurd unchecked checked, ?_⟩
    intro fine
    cases failed.symm.trans fine

theorem sound_act (setup : Setup τ) (lobby : Lobby τ) (event : Event τ)
    (sound : Sound setup lobby) : Sound setup (lobby.act setup event) := by
  cases event with
  | connect session =>
    rw [act]
    split
    next => exact sound
    next =>
      exact { sound with kept := fun fine => (sound.kept fine).joined session }
  | keys call =>
    refine { sound with kept := fun fine => ?_ }
    exact { sound.kept fine with }
  | message arrival draws =>
    rw [act]
    split
    next here =>
      have served := served_message setup arrival draws sound
      refine ⟨served.indexed, served.free, sound.fine, sound.alive, fun fine => ?_⟩
      exact (sound.kept fine).touched here served.touches served.indexed
    next => exact sound
  | population iteration =>
    obtain ⟨same, free⟩ := LockedRegistry.exec_population setup.checks iteration
      lobby.world.services.registry
    have after : (lobby.act setup (.population iteration)).world.services.registry.state
        = lobby.world.services.registry.state := same
    refine ⟨?_, fun unchecked => free unchecked (sound.free unchecked), sound.fine, sound.alive,
      fun fine => ?_⟩
    · rw [after]
      exact sound.indexed
    · have kept := sound.kept fine
      refine { kept with advertised := ?_, minted := ?_ }
      · rw [after]
        exact kept.advertised
      · rw [after]
        exact kept.minted
  | others part =>
    refine { sound with kept := fun fine => ?_ }
    exact { sound.kept fine with }
  | disconnect session unwinding =>
    rw [act]
    split
    next => exact sound_leave sound session unwinding
    next => exact sound

theorem sound_step (setup : Setup τ) (lobby : Lobby τ) (event : Event τ)
    (sound : Sound setup lobby) : Sound setup (step setup lobby event) := by
  rw [step]
  split
  next => exact sound
  next => exact sound_act setup lobby event sound

theorem live_act {setup : Setup τ} {lobby : Lobby τ} {event : Event τ}
    (sound : Sound setup lobby) (faithful : Faithful lobby event)
    (live : lobby.unregisterPoisoned = false → Live lobby)
    (fine : (lobby.act setup event).unregisterPoisoned = false) :
    Live (lobby.act setup event) := by
  cases event with
  | connect session =>
    rw [act] at fine ⊢
    split
    next known =>
      rw [if_pos known] at fine
      exact live fine
    next fresh =>
      rw [if_neg fresh] at fine
      exact fun user owner data found => List.mem_cons_of_mem _ (live fine user owner data found)
  | keys call => exact live fine
  | message arrival draws =>
    rw [act] at fine ⊢
    split
    next here =>
      rw [if_pos here] at fine
      exact (live fine).touched here (served_message setup arrival draws sound).touches
    next away =>
      rw [if_neg away] at fine
      exact live fine
  | population iteration => exact live fine
  | others part => exact live fine
  | disconnect session unwinding =>
    rw [act] at fine ⊢
    split
    next here =>
      rw [if_pos here] at fine
      rcases leave_cases lobby session unwinding with stays | ⟨failed, aborts⟩
      · rw [stays] at fine ⊢
        have before := fine
        rw [unregisterPoisoned_left, Bool.or_eq_false_iff] at before
        exact (live before.1).left faithful fine
      · rw [aborts] at fine
        cases failed.symm.trans fine
    next away =>
      rw [if_neg away] at fine
      exact live fine

theorem live_step {setup : Setup τ} {lobby : Lobby τ} {event : Event τ}
    (sound : Sound setup lobby) (faithful : Faithful lobby event)
    (live : lobby.unregisterPoisoned = false → Live lobby)
    (fine : (step setup lobby event).unregisterPoisoned = false) :
    Live (step setup lobby event) := by
  rw [step] at fine ⊢
  split
  next ended =>
    rw [if_pos ended] at fine
    exact live fine
  next running =>
    rw [if_neg running] at fine
    exact live_act sound faithful live fine

theorem sound_run (setup : Setup τ) (keyStore : KeyStore.InMemoryKeyState) (part : τ)
    (events : List (Event τ)) :
    Sound setup (Runs.run (step setup) (start keyStore part) events) :=
  Runs.run_keeps (fun lobby event => sound_step setup lobby event) (sound_start setup keyStore part)

/--
Unless a callback has panicked, and without overflow checks none does, the lobby keeps
nothing of a connection that has ended: no authentication, no way to push to it, no
session, no id of one and no groups. It keeps no presence of it where each connection
that ends had set its own under the user it was authenticated as by then.
-/
theorem nothing_outlives (setup : Setup τ) (keyStore : KeyStore.InMemoryKeyState) (part : τ)
    (events : List (Event τ)) :
    let lobby := Runs.run (step setup) (start keyStore part) events
    (setup.checks = false → lobby.unregisterPoisoned = false)
      ∧ (lobby.unregisterPoisoned = false → Kept lobby)
      ∧ (lobby.unregisterPoisoned = false →
        Runs.Meets (step setup) Faithful (start keyStore part) events → Live lobby) := by
  intro lobby
  have sound := sound_run setup keyStore part events
  refine ⟨sound.fine, sound.kept, fun fine meets => ?_⟩
  have keeps (lobby : Lobby τ) (event : Event τ)
      (holds : Sound setup lobby ∧ (lobby.unregisterPoisoned = false → Live lobby))
      (faithful : Faithful lobby event) : Sound setup (step setup lobby event)
        ∧ ((step setup lobby event).unregisterPoisoned = false → Live (step setup lobby event)) :=
    ⟨sound_step setup lobby event holds.1, live_step holds.1 faithful holds.2⟩
  exact (Runs.run_invariant keeps ⟨sound_start setup keyStore part, fun _ => nofun⟩ meets).2 fine

structure SameFor (session : SessionId) (before after : Lobby τ) : Prop where
  connected : session ∈ after.connected ↔ session ∈ before.connected
  authentication : after.world.lsg.authentications.get session
    = before.world.lsg.authentications.get session
  advertised : after.world.services.registry.state.sessions.get session
    = before.world.services.registry.state.sessions.get session
  groups : after.world.services.groups.sessionGroups.get session
    = before.world.services.groups.sessionGroups.get session

theorem SameFor.refl (session : SessionId) (lobby : Lobby τ) : SameFor session lobby lobby :=
  ⟨.rfl, rfl, rfl, rfl⟩

theorem SameFor.trans {session : SessionId} {before mid after : Lobby τ}
    (first : SameFor session before mid) (second : SameFor session mid after) :
    SameFor session before after :=
  ⟨second.connected.trans first.connected, second.authentication.trans first.authentication,
    second.advertised.trans first.advertised, second.groups.trans first.groups⟩

theorem SameFor.touched {session own : SessionId} {before after : Lobby τ} (apart : session ≠ own)
    (touches : Touches own (shared before.world) (shared after.world))
    (connected : session ∈ after.connected ↔ session ∈ before.connected) :
    SameFor session before after :=
  ⟨connected, touches.authentications session apart, touches.sessions session apart,
    touches.groups session apart⟩

theorem sameFor_act {setup : Setup τ} {lobby : Lobby τ} {event : Event τ} {session : SessionId}
    (sound : Sound setup lobby) (spared : event.session ≠ some session)
    (alive : (lobby.act setup event).aborted = false) :
    SameFor session lobby (lobby.act setup event) := by
  cases event with
  | connect own =>
    have apart : session ≠ own := fun same => spared (congrArg some same.symm)
    rw [act]
    split
    next => exact .refl _ _
    next => exact ⟨List.mem_cons.trans (or_iff_right apart), rfl, rfl, rfl⟩
  | keys call => exact ⟨.rfl, rfl, rfl, rfl⟩
  | message arrival draws =>
    have apart : session ≠ arrival.session := fun same => spared (congrArg some same.symm)
    rw [act]
    split
    next => exact .touched apart (served_message setup arrival draws sound).touches .rfl
    next => exact .refl _ _
  | population iteration =>
    have same := (LockedRegistry.exec_population setup.checks iteration
      lobby.world.services.registry).1
    exact ⟨.rfl, rfl, congrArg (fun state => state.sessions.get session) same, rfl⟩
  | others part => exact ⟨.rfl, rfl, rfl, rfl⟩
  | disconnect own unwinding =>
    have apart : session ≠ own := fun same => spared (congrArg some same.symm)
    rw [act] at alive ⊢
    split
    next here =>
      rw [if_pos here] at alive
      rcases leave_cases lobby own unwinding with stays | ⟨_, aborts⟩
      · rw [stays]
        refine .touched apart (touches_left lobby own) ?_
        rw [connected_left, List.mem_filter]
        exact and_iff_left (decide_eq_true apart)
      · rw [aborts] at alive
        cases alive
    next => exact .refl _ _

theorem sameFor_step {setup : Setup τ} {lobby : Lobby τ} {event : Event τ} {session : SessionId}
    (sound : Sound setup lobby) (spared : event.session ≠ some session)
    (alive : (step setup lobby event).aborted = false) :
    SameFor session lobby (step setup lobby event) := by
  rw [step] at alive ⊢
  split
  next => exact .refl _ _
  next running =>
    rw [if_neg running] at alive
    exact sameFor_act sound spared alive

theorem run_aborted {setup : Setup τ} {lobby : Lobby τ} (ended : lobby.aborted = true)
    (events : List (Event τ)) : Runs.run (step setup) lobby events = lobby := by
  induction events with
  | nil => rfl
  | cons event events ih => rw [Runs.run_cons, step, if_pos ended, ih]

theorem sameFor_run {setup : Setup τ} {session : SessionId} {events : List (Event τ)}
    (spared : ∀ event ∈ events, event.session ≠ some session) {lobby : Lobby τ}
    (sound : Sound setup lobby) (alive : (Runs.run (step setup) lobby events).aborted = false) :
    SameFor session lobby (Runs.run (step setup) lobby events) := by
  induction events generalizing lobby with
  | nil => exact .refl _ _
  | cons event events ih =>
    have running : (step setup lobby event).aborted = false := by
      by_contra ended
      have same := @run_aborted _ setup _ (Bool.eq_true_of_not_eq_false ended) events
      rw [Runs.run_cons, same] at alive
      exact ended alive
    have first := sameFor_step sound (spared event List.mem_cons_self) running
    have rest := ih (fun later member => spared later (List.mem_cons_of_mem _ member))
      (sound_step setup lobby event sound) alive
    exact first.trans rest

open Issuer Connections

def plainSetup : Setup Unit :=
  { aes := xorCipher
    crypto := plainCrypto
    checks := false
    traces := true
    push := fun _ _ => pure true
    now := pure 0
    others := fun _ => none }

theorem perm_id (entries : List (SessionId × MatchMakingInfo)) : (id entries).Perm entries := .refl _

def firstDraws : Draws := { minted := RegistryState.exampleMinted, iteration := ⟨id, perm_id⟩ }

def signsIn : List (Event Unit) :=
  [.keys (.current 1000 (ringKey 1)), .connect 1, .connect 2, .message playerSignsIn firstDraws]

def requestBody (serviceId : LobbyServiceId) (taskId : UInt8) (values : List Value) : List UInt8 :=
  (exec (do
    BdWriter.setTypeChecked false
    BdWriter.writeU8 serviceId.toU8
    BdWriter.setMode .bitMode
    BdWriter.writeTypeCheckedBit
    BdWriter.writeU8 taskId
    values.forM Value.write
    BdWriter.flush) BdWriter.new).2.out

def party : MatchMakingInfo :=
  { RegistryState.exampleInfo with
    address := List.replicate addressLen 10
    host := List.replicate hostLen 1
    key := List.replicate keyLen 2 }

-- the byte after the task and the two at the end are of no use to the handler
def playerHosts : Arrival :=
  arriving 1 (requestBody .matchMaking MatchMakingTaskId.createSession.toU8
    (.u8 0 :: (TaskResult.matchMakingInfo party).values ++ [.u8 0, .u8 0]))

def playerShows : Arrival :=
  arriving 1 (requestBody .richPresence RichPresenceTaskId.setInfo.toU8 [.u64 7, .blob [1, 2]])

def plays : List (Event Unit) :=
  signsIn ++ [.message playerHosts firstDraws, .message playerShows firstDraws]

abbrev lobbyAfter (events : List (Event Unit)) : Lobby Unit :=
  Runs.run (step plainSetup) (start .new ()) events

theorem lobby_plays :
    ((lobbyAfter plays).world.services.registry.state.sessions.get 1).isSome = true
      ∧ (lobbyAfter plays).world.lsg.authentications.get 1 = some (proofOf 7).authentication
      ∧ (lobbyAfter plays).world.services.presence.richPresences.entries.map
        (fun entry => (entry.1, entry.2)) = [(7, (1, [1, 2]))] := by
  decide +kernel

theorem get_presence {user owner : UInt64} {data : List UInt8}
    (found : (lobbyAfter plays).world.services.presence.richPresences.get user = some (owner, data)) :
    user = 7 := by
  have entry : (user, (owner, data)) ∈ (lobbyAfter plays).world.services.presence.richPresences.entries.map
      (fun entry => (entry.1, entry.2)) := List.mem_map.mpr ⟨_, Table.get_eq_some_iff.mp found, rfl⟩
  rw [lobby_plays.2.2] at entry
  exact (Prod.mk.inj (List.mem_singleton.mp entry)).1

theorem faithful_player : Faithful (lobbyAfter plays) (.disconnect 1 false) := by
  intro user data found
  rw [get_presence found, lobby_plays.2.1]
  rfl

theorem nothing_outlives_player :
    ((lobbyAfter plays).world.services.registry.state.sessions.get 1).isSome = true
      ∧ (lobbyAfter plays).world.services.presence.richPresences.entries.length = 1
      ∧ Kept (lobbyAfter (plays ++ [.disconnect 1 false]))
      ∧ Live (lobbyAfter (plays ++ [.disconnect 1 false])) := by
  obtain ⟨fine, kept, live⟩ := nothing_outlives plainSetup .new () (plays ++ [.disconnect 1 false])
  have unfailed := fine rfl
  have faithful : Runs.Meets (step plainSetup) Faithful (start .new ()) plays :=
    ⟨trivial, trivial, trivial, trivial, trivial, trivial, trivial⟩
  have present := congrArg List.length lobby_plays.2.2
  rw [List.length_map] at present
  exact ⟨lobby_plays.1, present, kept unfailed, live unfailed (faithful.concat faithful_player)⟩

end Lobby

end BitDemon
