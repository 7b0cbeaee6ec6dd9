import BitDemon.DwServer.Connections
import BitDemon.Lobby.Dispatch

set_option autoImplicit false

/-!
# What authenticates a session

A session is authenticated by an earlier message on its connection, whose proof opened
under a key that was valid then. The reply to that message is written last.
-/

namespace BitDemon

open Machine BdReader

variable {ρ : Type}

/-- Services only borrow a session, so none of their calls changes who is authenticated. -/
def LobbyHandler.Borrows (handler : LobbyHandler (LobbyWorld ρ)) : Prop :=
  ∀ authentications, handler.Spares fun world => world.lsg.authentications = authentications

abbrev BorrowingHandler (ρ : Type) :=
  { handler : AddedHandler (LobbyWorld ρ) // handler.val.Borrows }

namespace LobbyServer

variable (aes : Aes256Cbc) (crypto : SessionCrypto)
  (added : LobbyServiceId → Option (BorrowingHandler ρ))

def offered (serviceId : LobbyServiceId) : Option (AddedHandler (LobbyWorld ρ)) :=
  (added serviceId).map Subtype.val

def handle (arrival : Arrival) (written : Bool) : Fallible (LobbyWorld ρ) Unit := do
  let _frame ← serve aes crypto (offered added) arrival
  ensure written .writeFailed

inductive LobbyEvent (ρ : Type) where
  | message (arrival : Arrival) (written : Bool)
  | keys (call : KeyStore.Call)
  -- whatever else the services do
  | services (services : ρ)
  | disconnect (session : SessionId)

def start (services : ρ) : LobbyWorld ρ :=
  { lsg := { keyStore := .new, authentications := ∅, recipients := ∅ }, services := services }

def step (world : LobbyWorld ρ) : LobbyEvent ρ → LobbyWorld ρ
  | .message arrival written => (exec (handle aes crypto added arrival written) world).2
  | .keys call =>
    { world with lsg := { world.lsg with keyStore := KeyStore.step world.lsg.keyStore call } }
  | .services services => { world with services := services }
  | .disconnect session =>
    let lsg := world.lsg.unregister session
    { world with lsg := { lsg with authentications := lsg.authentications.remove session } }

def Opens (arrival : Arrival) (world : LobbyWorld ρ) (message : BdReader) : Prop :=
  (exec (BdMessage.new crypto (world.session arrival.session arrival.peerAddr) arrival.buf :
    Fallible (LobbyWorld ρ) BdReader) world).1 = .ok message

def Proves (arrival : Arrival) (world : LobbyWorld ρ) (authentication : SessionAuthentication) :
    Prop :=
  ∃ message r title authProof key proof, Opens crypto arrival world message
    ∧ exec readServiceId message = (.ok .lobbyService, r)
    ∧ (exec lsgRequest r).1 = .ok (title, authProof)
    ∧ authProof.length = 128
    ∧ key ∈ KeyStore.getValidKeys arrival.clock.keysNow world.lsg.keyStore
    ∧ ClientOpaqueAuthProof.startsWithMagic (aes.decrypt key authProof) = true
    ∧ (exec ClientOpaqueAuthProof.readFields (aes.decrypt key authProof)).1 = .ok proof
    ∧ arrival.clock.now ≤ proof.timeExpires.toInt
    ∧ proof.title = title
    ∧ proof.authentication = authentication

def ToLsg (arrival : Arrival) (world : LobbyWorld ρ) : Prop :=
  ∀ message serviceId, Opens crypto arrival world message →
    (exec readServiceId message).1 = .ok serviceId → serviceId = .lobbyService

end LobbyServer

theorem LsgHandler.length_of_readRequest {r : BdReader} {title : Title} {authProof : List UInt8}
    (read : (exec LobbyServer.lsgRequest r).1 = .ok (title, authProof)) (sound : Sound r) :
    authProof.length = 128 := by
  have sized : Yields Sound (fun fault => fault.isError = true)
      (fun request : Title × List UInt8 => request.2.length = 128) LobbyServer.lsgRequest := by
    refine yields_bind (graceful_setMode _).yields fun _ _ => ?_
    refine yields_bind graceful_readTypeCheckedBit.yields fun _ _ => ?_
    refine yields_bind (graceful_readScalar _ _).yields fun titleId _ => ?_
    refine yields_bind (graceful_okOr _ _).yields fun title _ => ?_
    refine yields_bind (graceful_readScalar _ _).yields fun _ _ => ?_
    refine yields_bind (yields_readBytes 128) fun authProof size => yields_pure size
  exact (sized r sound).2.1 _ read

namespace LsgHandler

variable {aes : Aes256Cbc} {keysNow now : Int} {keyStore : KeyStore.InMemoryKeyState}
  {title : Title} {authProof : List UInt8} {proof : ClientOpaqueAuthProof}

theorem opened_of_admits (size : authProof.length = 128)
    (admitted : admits aes keysNow now keyStore title authProof = some proof) :
    ∃ key ∈ KeyStore.getValidKeys keysNow keyStore,
      ClientOpaqueAuthProof.startsWithMagic (aes.decrypt key authProof) = true
      ∧ (exec ClientOpaqueAuthProof.readFields (aes.decrypt key authProof)).1 = .ok proof
      ∧ now ≤ proof.timeExpires.toInt ∧ proof.title = title := by
  rw [admits, ClientOpaqueAuthProof.exec_deserialize, toList_arrayOf size] at admitted
  cases found : (KeyStore.getValidKeys keysNow keyStore).find?
      (ClientOpaqueAuthProof.yieldsMagic aes authProof) with
  | none =>
    rw [found] at admitted
    cases admitted
  | some key =>
    rw [found] at admitted
    dsimp only at admitted
    split at admitted
    next opened read =>
      split at admitted
      next holds =>
        obtain rfl := Option.some.inj admitted
        have opens : ClientOpaqueAuthProof.yieldsMagic aes authProof key = true :=
          List.find?_some found
        exact ⟨key, List.mem_of_find?_eq_some found, opens, read, holds⟩
      next => cases admitted
    next => cases admitted

end LsgHandler

namespace LobbyServer

variable {aes : Aes256Cbc} {crypto : SessionCrypto}

theorem serve_cases (given : LobbyServiceId → Option (AddedHandler (LobbyWorld ρ)))
    (arrival : Arrival) (world : LobbyWorld ρ) :
    (∃ fault, exec (serve aes crypto given arrival) world = (.error fault, world)
        ∧ ∀ message, ¬Opens crypto arrival world message)
      ∨ ∃ message outcome after, Opens crypto arrival world message ∧ Sound message
        ∧ exec ((withServices aes arrival.clock given).handling
            (world.session arrival.session arrival.peerAddr) arrival.counter message) world
          = (outcome, after)
        ∧ (exec (serve aes crypto given arrival) world).2 = after
        ∧ ∀ fault, (exec (serve aes crypto given arrival) world).1 = .error fault →
          outcome = .error fault := by
  have opened := @BdMessage.yields_new _ (· = world) crypto
    (world.session arrival.session arrival.peerAddr) arrival.buf world rfl
  rw [serve, exec_bind_ok _ (exec_get world)]
  dsimp only
  rcases read : exec (BdMessage.new crypto (world.session arrival.session arrival.peerAddr)
    arrival.buf : Fallible (LobbyWorld ρ) BdReader) world with ⟨result, here⟩
  rw [read] at opened
  obtain ⟨rfl, sound, _⟩ := opened
  cases result with
  | error fault =>
    left
    refine ⟨fault, exec_bind_error _ read, fun message opens => ?_⟩
    rw [Opens, read] at opens
    cases opens
  | ok message =>
    right
    rcases ran : exec ((withServices aes arrival.clock given).handling
      (here.session arrival.session arrival.peerAddr) arrival.counter message) here with
      ⟨outcome, after⟩
    refine ⟨message, outcome, after, congrArg Prod.fst read, sound message rfl, ran, ?_⟩
    rw [exec_bind_ok _ read]
    cases outcome with
    | error fault =>
      rw [exec_bind_error _ ran]
      refine ⟨rfl, fun other same => ?_⟩
      obtain rfl : fault = other := by simpa using same
      rfl
    | ok response =>
      rw [exec_bind_ok _ ran, exec_bind_ok _ (exec_get after)]
      obtain ⟨body, framed, _⟩ := response.frame_ok crypto arrival.frameSeed
        (((after.lsg.authentications.get arrival.session).map
          SessionAuthentication.sessionKey).filter fun _ => response.shouldEncrypt)
      rw [framed, exec_ofExcept]
      exact ⟨rfl, fun _ same => by cases same⟩

variable {given : LobbyServiceId → Option (AddedHandler (LobbyWorld ρ))} {arrival : Arrival}
  {world : LobbyWorld ρ}

theorem serve_lsg (lsg : ToLsg crypto arrival world) :
    (exec (serve aes crypto given arrival) world).2 = world
      ∨ (∃ frame, (exec (serve aes crypto given arrival) world).1 = .ok frame)
        ∧ ∃ proof, Proves aes crypto arrival world proof.authentication
          ∧ (exec (serve aes crypto given arrival) world).2
            = { world with lsg := world.lsg.enroll arrival.session proof } := by
  rcases @serve_cases ρ aes crypto given arrival world with
    ⟨fault, ran, _⟩ | ⟨message, outcome, after, opens, sound, handled, left', failed⟩
  · left
    rw [ran]
  rcases named : exec readServiceId message with ⟨result, r⟩
  cases result with
  | error fault =>
    left
    rw [exec_handling_unnamed (by rw [named])] at handled
    rw [left']
    exact (congrArg Prod.snd handled).symm
  | ok serviceId =>
    obtain rfl := lsg message serviceId opens (by rw [named])
    rcases exec_handling_lsg named world with
      ⟨fault, refused⟩ | ⟨title, authProof, proof, response, read, admitted, enrolled⟩
    · left
      rw [refused] at handled
      rw [left']
      exact (congrArg Prod.snd handled).symm
    · right
      have kept := (graceful_readServiceId message sound).1
      rw [named] at kept
      have size := LsgHandler.length_of_readRequest read kept
      obtain ⟨key, valid, opensWith, fields, alive, same⟩ :=
        LsgHandler.opened_of_admits size admitted
      rw [enrolled] at handled
      obtain ⟨rfl, rfl⟩ := Prod.mk.inj handled
      constructor
      · cases outcome : (exec (serve aes crypto given arrival) world).1 with
        | ok frame => exact ⟨frame, rfl⟩
        | error fault => cases failed fault outcome
      · exact ⟨proof, ⟨message, r, title, authProof, key, proof, opens, named, read, size, valid,
          opensWith, fields, alive, same, rfl⟩, left'⟩

theorem serve_other (other : ¬ToLsg crypto arrival world) {P : LobbyWorld ρ → Prop}
    (spares : ∀ serviceId handler, given serviceId = some handler → handler.val.Spares P)
    (holds : P world) : P (exec (serve aes crypto given arrival) world).2 := by
  rcases @serve_cases ρ aes crypto given arrival world with
    ⟨fault, ran, _⟩ | ⟨message, outcome, after, opens, sound, handled, left', _⟩
  · rwa [ran]
  have away : ∃ serviceId r, exec readServiceId message = (.ok serviceId, r)
      ∧ serviceId ≠ .lobbyService := by
    by_contra none
    refine other fun message' serviceId opens' named => ?_
    obtain rfl : message = message' := Except.ok.inj (opens.symm.trans opens')
    by_contra apart
    exact none ⟨serviceId, _, Prod.ext named rfl, apart⟩
  obtain ⟨serviceId, r, named, apart⟩ := away
  have kept := @handling_keeps ρ P aes arrival.clock given spares
    (world.session arrival.session arrival.peerAddr) arrival.counter message r serviceId named
    apart world holds
  rw [handled] at kept
  rwa [left']

theorem exec_handle_snd (added : LobbyServiceId → Option (BorrowingHandler ρ)) (arrival : Arrival)
    (written : Bool) (world : LobbyWorld ρ) :
    (exec (handle aes crypto added arrival written) world).2
      = (exec (serve aes crypto (offered added) arrival) world).2 := by
  rw [handle, exec_bind]
  rcases exec (serve aes crypto (offered added) arrival) world with ⟨outcome, after⟩
  cases outcome with
  | error fault => rfl
  | ok frame => cases written <;> rfl

theorem exec_handle_error {added : LobbyServiceId → Option (BorrowingHandler ρ)}
    {written : Bool} {fault : Fault} {frame : List UInt8}
    (failed : (exec (handle aes crypto added arrival written) world).1 = .error fault)
    (framed : (exec (serve aes crypto (offered added) arrival) world).1 = .ok frame) :
    written = false := by
  rw [handle, exec_bind] at failed
  rcases served : exec (serve aes crypto (offered added) arrival) world with ⟨outcome, after⟩
  rw [served] at failed framed
  subst framed
  cases written with
  | false => rfl
  | true => cases failed

end LobbyServer

namespace LobbyServer

variable {aes : Aes256Cbc} {crypto : SessionCrypto}
  {added : LobbyServiceId → Option (BorrowingHandler ρ)}

theorem authentications_step (world : LobbyWorld ρ) (event : LobbyEvent ρ) {session : SessionId}
    {authentication : SessionAuthentication}
    (has : (step aes crypto added world event).lsg.authentications.get session
      = some authentication) :
    (world.lsg.authentications.get session = some authentication ∧ event ≠ .disconnect session)
      ∨ ∃ arrival written, event = .message arrival written ∧ arrival.session = session
        ∧ Proves aes crypto arrival world authentication := by
  cases event with
  | keys call => exact .inl ⟨has, by simp⟩
  | services services => exact .inl ⟨has, by simp⟩
  | disconnect other =>
    left
    have removed : ((world.lsg.authentications).remove other).get session = some authentication :=
      has
    rw [Table.get_remove] at removed
    split at removed
    next => cases removed
    next apart =>
      refine ⟨removed, fun same => apart ?_⟩
      injection same with same
      exact same.symm
  | message arrival written =>
    rw [step, exec_handle_snd] at has
    by_cases addressed : ToLsg crypto arrival world
    next =>
      rcases @serve_lsg ρ aes crypto (offered added) arrival world addressed with
        unchanged | ⟨_, proof, proves, enrolled⟩
      · rw [unchanged] at has
        exact .inl ⟨has, by simp⟩
      · rw [enrolled] at has
        have stored : (world.lsg.authentications.put arrival.session proof.authentication).get
          session = some authentication := has
        rw [Table.get_put] at stored
        split at stored
        next own =>
          obtain rfl := Option.some.inj stored
          exact .inr ⟨arrival, written, rfl, own.symm, proves⟩
        next => exact .inl ⟨stored, by simp⟩
    next =>
      have spares (serviceId : LobbyServiceId) (handler : AddedHandler (LobbyWorld ρ))
          (stored : offered added serviceId = some handler) : handler.val.Spares
            fun after => after.lsg.authentications = world.lsg.authentications := by
        obtain ⟨borrowing, _, rfl⟩ := Option.map_eq_some_iff.mp stored
        exact borrowing.property _
      rw [@serve_other ρ aes crypto (offered added) arrival world addressed _ spares rfl] at has
      exact .inl ⟨has, by simp⟩

theorem authentications_run (services : ρ) (events : List (LobbyEvent ρ)) {session : SessionId}
    {authentication : SessionAuthentication}
    (has : (Runs.run (step aes crypto added) (start services) events).lsg.authentications.get session
      = some authentication) :
    ∃ before arrival written after, events = before ++ .message arrival written :: after
      ∧ arrival.session = session ∧ .disconnect session ∉ after
      ∧ Proves aes crypto arrival (Runs.run (step aes crypto added) (start services) before)
        authentication := by
  induction events using List.reverseRecOn with
  | nil => cases has
  | append_singleton events event ih =>
    rw [Runs.run, List.foldl_append] at has
    rcases authentications_step _ event has with
      ⟨earlier, other⟩ | ⟨arrival, written, rfl, own, proves⟩
    · obtain ⟨before, arrival, written, after, rfl, own, stays, proves⟩ := ih earlier
      refine ⟨before, arrival, written, after ++ [event], by simp, own, ?_, proves⟩
      intro member
      rcases List.mem_append.mp member with late | last
      · exact stays late
      · exact other (List.mem_singleton.mp last).symm
    · exact ⟨events, arrival, written, [], rfl, own, List.not_mem_nil, proves⟩

/--
At every point of a run a session is authenticated only as a live proof on it says, only
authenticated sessions get to the handlers that ask for it, and a message of an
authentication that fails before its reply is written changes nothing.
-/
theorem authenticated_by_live_proof (aes : Aes256Cbc) (crypto : SessionCrypto)
    (added : LobbyServiceId → Option (BorrowingHandler ρ)) (services : ρ)
    (events : List (LobbyEvent ρ)) :
    let world := Runs.run (step aes crypto added) (start services) events
    (∀ session authentication, world.lsg.authentications.get session = some authentication →
        ∃ before arrival written after, events = before ++ .message arrival written :: after
          ∧ arrival.session = session ∧ .disconnect session ∉ after
          ∧ Proves aes crypto arrival (Runs.run (step aes crypto added) (start services) before)
            authentication)
      ∧ (∀ arrival message handler, Opens crypto arrival world message →
        (withServices aes arrival.clock (offered added)).Enters
          (world.session arrival.session arrival.peerAddr) message handler →
        handler.requiresAuthentication = true →
        ∃ authentication, world.lsg.authentications.get arrival.session = some authentication
          ∧ (unwrap (world.session arrival.session arrival.peerAddr).authentication :
            HandleM (LobbyWorld ρ) SessionAuthentication) = pure authentication)
      ∧ ∀ arrival written fault, ToLsg crypto arrival world →
        (exec (handle aes crypto added arrival written) world).1 = .error fault →
        (exec (handle aes crypto added arrival written) world).2 = world
          ∨ written = false
            ∧ ∃ frame, (exec (serve aes crypto (offered added) arrival) world).1 = .ok frame := by
  intro world
  refine ⟨fun session authentication has => authentications_run services events has, ?_, ?_⟩
  · intro arrival message handler _ enters required
    obtain ⟨authentication, has⟩ := enters.authenticated required
    exact ⟨authentication, has, by rw [has, unwrap_some]⟩
  · intro arrival written fault lsg failed
    rw [exec_handle_snd]
    rcases @serve_lsg ρ aes crypto (offered added) arrival world lsg with
      unchanged | ⟨⟨frame, framed⟩, _⟩
    · exact .inl unchanged
    · exact .inr ⟨exec_handle_error failed framed, frame, framed⟩

open Issuer Connections

def signInBody (title : Title) (authProof : List UInt8) : List UInt8 :=
  (exec (do
    BdWriter.setTypeChecked false
    BdWriter.writeU8 LobbyServiceId.lobbyService.toU8
    BdWriter.setMode .bitMode
    BdWriter.writeTypeCheckedBit
    BdWriter.writeU32 title.toU32
    BdWriter.writeU32 0
    BdWriter.writeBytes authProof
    BdWriter.flush) BdWriter.new).2.out

def arriving (session : SessionId) (body : List UInt8) : Arrival :=
  { session := session
    peerAddr := none
    buf := 0 :: body
    clock := { keysNow := 1000, now := 1000 }
    counter := 0
    frameSeed := 5 }

def playerSignsIn : Arrival :=
  arriving 1 (signInBody .t6Pc (xorCipher.encrypt (ringKey 1) (proofOf 7).layout))

def keyed : List (LobbyEvent Unit) := [.keys (.current 1000 (ringKey 1))]

def reportsOnly (serviceId : LobbyServiceId) : Option (BorrowingHandler Unit) :=
  if serviceId = .performance then some ⟨⟨.performance, rfl⟩, fun _ => trivial⟩ else none

def worldAfter (events : List (LobbyEvent Unit)) : LobbyWorld Unit :=
  Runs.run (step xorCipher plainCrypto reportsOnly) (start ()) events

theorem unwritten_authenticates :
    ¬∀ fault, (exec (handle xorCipher plainCrypto reportsOnly playerSignsIn false)
        (worldAfter keyed)).1 = .error fault →
      (exec (handle xorCipher plainCrypto reportsOnly playerSignsIn false)
        (worldAfter keyed)).2.lsg.authentications.get 1
        = (worldAfter keyed).lsg.authentications.get 1 := by
  intro unchanged
  -- one evaluation for both, since the run is the expensive part
  obtain ⟨failed, now⟩ : (exec (handle xorCipher plainCrypto reportsOnly playerSignsIn false)
        (worldAfter keyed)).1 = .error (.error .writeFailed)
      ∧ ((exec (handle xorCipher plainCrypto reportsOnly playerSignsIn false)
        (worldAfter keyed)).2.lsg.authentications.get 1).isSome = true := by decide +kernel
  have kept := unchanged _ failed
  rw [kept] at now
  exact absurd now (by decide +kernel)

theorem opens_arriving (crypto : SessionCrypto) (session : SessionId) (body : List UInt8)
    (world : LobbyWorld ρ) : Opens crypto (arriving session body) world (BdReader.new body) := by
  rw [Opens, arriving, BdMessage.new]
  simp [slice]

theorem enters_reports (clock : LsgClock) (authentication : SessionAuthentication) :
    (withServices xorCipher clock (offered reportsOnly)).Enters ⟨1, some authentication, none⟩
      (BdReader.new [17, 0]) .performance := rfl

theorem toLsg_short (world : LobbyWorld ρ) : ToLsg plainCrypto (arriving 1 [7]) world := by
  intro message serviceId opens named
  have whole := opens_arriving plainCrypto 1 [7] world
  obtain rfl : BdReader.new [7] = message := Except.ok.inj (whole.symm.trans opens)
  have read : (exec readServiceId (BdReader.new [7])).1 = .ok .lobbyService := by decide
  exact (Except.ok.inj (read.symm.trans named)).symm

def signedIn : List (LobbyEvent Unit) := keyed ++ [.message playerSignsIn true]

theorem signedIn_by_live_proof :
    (∃ before arrival written after, signedIn = before ++ .message arrival written :: after
      ∧ arrival.session = 1 ∧ .disconnect 1 ∉ after
      ∧ Proves xorCipher plainCrypto arrival (worldAfter before) (proofOf 7).authentication)
      ∧ (∃ authentication, (worldAfter signedIn).lsg.authentications.get 1 = some authentication
        ∧ (unwrap ((worldAfter signedIn).session 1 none).authentication :
          HandleM (LobbyWorld Unit) SessionAuthentication) = pure authentication)
      ∧ ((exec (handle xorCipher plainCrypto reportsOnly (arriving 1 [7]) true)
          (worldAfter signedIn)).2 = worldAfter signedIn
        ∨ true = false ∧ ∃ frame, (exec (serve xorCipher plainCrypto (offered reportsOnly)
          (arriving 1 [7])) (worldAfter signedIn)).1 = .ok frame) := by
  obtain ⟨signed, failed⟩ : (worldAfter signedIn).lsg.authentications.get 1
        = some (proofOf 7).authentication
      ∧ (exec (handle xorCipher plainCrypto reportsOnly (arriving 1 [7]) true)
        (worldAfter signedIn)).1 = .error (.error .unexpectedEof) := by decide +kernel
  have entered : (withServices xorCipher (arriving 1 [17, 0]).clock (offered reportsOnly)).Enters
      ((worldAfter signedIn).session 1 none) (BdReader.new [17, 0]) .performance := by
    rw [LobbyWorld.session, signed]
    exact enters_reports _ _
  have proved := authenticated_by_live_proof xorCipher plainCrypto reportsOnly () signedIn
  unfold worldAfter at signed failed entered ⊢
  refine ⟨proved.1 1 (proofOf 7).authentication signed, ?_, ?_⟩
  · exact proved.2.1 (arriving 1 [17, 0]) (BdReader.new [17, 0]) .performance
      (opens_arriving plainCrypto 1 [17, 0] _) entered rfl
  · exact proved.2.2 (arriving 1 [7]) true (.error .unexpectedEof)
      (toLsg_short _) failed

end LobbyServer

end BitDemon
