import BitDemon.Lobby.Serving
import BitDemon.Lobby.Steady

set_option autoImplicit false

/-!
# Which handler gets a message

The server reads up to the framing and then picks the handler. Only what the handler
of authentications admits changes the authentication of a session.
-/

namespace BitDemon

open Machine BdReader

section Perform

variable {ω α β : Type}

theorem perform_pure (a : α) : (perform (pure a) : HandleM ω α) = pure a := rfl

theorem perform_bind (m : ReadM α) (f : α → ReadM β) :
    (perform (m >>= f) : HandleM ω β) = perform m >>= fun a => perform (f a) := by
  funext h
  change exec (perform (m >>= f)) h = exec (perform m >>= fun a => perform (f a)) h
  rw [exec_bind, exec, exec, perform, perform, exec_bind]
  rcases exec m h.reader with ⟨outcome, reader⟩
  cases outcome <;> rfl

theorem perform_okOr (value : Option α) {e : BdError}
    (silent : (Fault.error e).demandedMode = none) :
    (perform (okOr value e) : HandleM ω α) = okOr value e := by
  cases value with
  | some a => rfl
  | none =>
    funext h
    change ((.error (.error e), { h with demanded := _ }) : Except Fault α × Handling ω) = _
    rw [silent, Option.toList_none, List.append_nil]
    rfl

end Perform

namespace LobbyServer

variable {ω : Type}

def deny (errorCode : BdErrorCode) : HandleM ω BdResponse := do
  let reply ← withOnlyErrorCode errorCode 0
  respond reply

def entry (server : LobbyServer ω) (session : BdSession) :
    ReadM (Except BdErrorCode (LobbyHandler ω)) := do
  let serviceId ← readServiceId
  let maybeHandler := server.lobbyHandlers serviceId
  enterFraming maybeHandler
  match maybeHandler with
  | some handler =>
    if handler.requiresAuthentication && session.authentication.isNone then
      pure (.error .accessDenied)
    else
      pure (.ok handler)
  | none => pure (.error .serviceNotAvailable)

def enter (session : BdSession) : Except BdErrorCode (LobbyHandler ω) → HandleM ω BdResponse
  | .ok handler => handler.handleMessage session
  | .error errorCode => deny errorCode

theorem handleMessage_eq (server : LobbyServer ω) (session : BdSession) :
    server.handleMessage session = perform (server.entry session) >>= enter session := by
  rw [handleMessage, entry, perform_bind, bind_assoc]
  refine bind_congr fun serviceId => ?_
  rw [perform_bind, bind_assoc]
  refine bind_congr fun _ => ?_
  cases server.lobbyHandlers serviceId with
  | none => rw [perform_pure, pure_bind, enter, deny]
  | some handler =>
    dsimp only
    split
    next => rw [perform_pure, pure_bind, enter, deny]
    next => rw [perform_pure, pure_bind, enter]

def Enters (server : LobbyServer ω) (session : BdSession) (message : BdReader)
    (handler : LobbyHandler ω) : Prop :=
  (exec (server.entry session) message).1 = .ok (.ok handler)

theorem Enters.authenticated {server : LobbyServer ω} {session : BdSession} {message : BdReader}
    {handler : LobbyHandler ω} (enters : server.Enters session message handler)
    (required : handler.requiresAuthentication = true) :
    ∃ authentication, session.authentication = some authentication := by
  have picked : Yields (fun _ => True) (fun _ => True)
      (fun picked => picked = .ok handler → session.authentication.isSome = true)
      (server.entry session) := by
    refine yields_bind (yields_any _) fun serviceId _ => yields_bind (yields_any _) fun _ _ => ?_
    cases server.lobbyHandlers serviceId with
    | none => exact yields_pure fun same => by cases same
    | some other =>
      refine yields_ite (fun _ => yields_pure fun same => by cases same) fun allowed => ?_
      refine yields_pure fun same => ?_
      obtain rfl := Except.ok.inj same
      rw [required, Bool.true_and, Bool.not_eq_true, Option.isNone_eq_false_iff] at allowed
      exact allowed
  exact Option.isSome_iff_exists.mp ((picked message trivial).2.1 _ enters rfl)

end LobbyServer

namespace LsgHandler

variable {ω : Type}

def readRequest : ReadM (Title × List UInt8) := do
  let titleId ← readU32
  let title ← okOr (Title.fromU32 titleId) (.unknownTitle titleId)
  let _ivSeed ← readU32
  let authProof ← BdReader.readBytes 128
  pure (title, authProof)

theorem answer_eq (service : LsgService ω) (session : BdSession) :
    answer service session = (do
      let request ← perform readRequest
      call (service.authenticate session request.1 request.2)
      pure (.connectionId ⟨session.id⟩)) := by
  rw [answer, readRequest, perform_bind, bind_assoc]
  refine bind_congr fun titleId => ?_
  rw [perform_bind, perform_okOr _ rfl, bind_assoc]
  refine bind_congr fun title => ?_
  rw [perform_bind, bind_assoc]
  refine bind_congr fun _ => ?_
  rw [perform_bind, bind_assoc]
  refine bind_congr fun authProof => ?_
  rw [perform_pure, pure_bind]

end LsgHandler

namespace LobbyServer

variable {ρ : Type}

def lsgRequest : ReadM (Title × List UInt8) := do
  setMode .bitMode
  readTypeCheckedBit
  LsgHandler.readRequest

section Lsg

variable (aes : Aes256Cbc) (clock : LsgClock)
  (added : LobbyServiceId → Option (AddedHandler (LobbyWorld ρ)))

def lsgService : LsgService (LobbyWorld ρ) :=
  { authenticate := fun session title authProof =>
      onLsg (LsgHandler.authenticate aes clock.keysNow clock.now session title authProof) }

theorem exec_handleMessage_lsg (session : BdSession) {h : Handling (LobbyWorld ρ)} {r : BdReader}
    (named : exec readServiceId h.reader = (.ok .lobbyService, r)) :
    exec ((withServices aes clock added).handleMessage session) h = exec (do
      let request ← perform lsgRequest
      call ((lsgService aes clock).authenticate session request.1 request.2)
      respond (.connectionId ⟨session.id⟩)) { h with reader := r } := by
  have found : (withServices aes clock added).lobbyHandlers .lobbyService
      = some (.lsg (lsgService aes clock)) := rfl
  have framed : enterFraming (some (.lsg (lsgService aes clock) : LobbyHandler (LobbyWorld ρ)))
      = (do
        setMode .bitMode
        readTypeCheckedBit) := if_pos (by simp [LobbyHandler.framing])
  have open' (session : BdSession) : ¬((LobbyHandler.lsg
      (lsgService aes clock : LsgService (LobbyWorld ρ))).requiresAuthentication
        && session.authentication.isNone) = true := by simp [LobbyHandler.requiresAuthentication]
  rw [handleMessage, exec_bind_ok _ (exec_perform_ok named), found]
  dsimp only
  rw [framed, if_neg (open' session), LobbyHandler.handleMessage, LobbyHandler.answer, LsgHandler.answer_eq,
    lsgRequest, perform_bind, perform_bind, perform_bind]
  simp only [bind_assoc, pure_bind]

variable {aes clock added}

theorem exec_authenticate_admitted {session : BdSession} {title : Title} {authProof : List UInt8}
    {h : Handling (LobbyWorld ρ)} {proof : ClientOpaqueAuthProof}
    (admitted : LsgHandler.admits aes clock.keysNow clock.now h.world.lsg.keyStore title authProof
      = some proof) :
    exec (call ((lsgService aes clock).authenticate session title authProof)) h
      = (.ok (), { h with
          world := { h.world with lsg := h.world.lsg.enroll session.id proof } }) := by
  rw [exec_call, lsgService, exec_onLsg,
    LsgHandler.exec_authenticate_of_admits admitted]

theorem exec_authenticate_refused {session : BdSession} {title : Title} {authProof : List UInt8}
    {h : Handling (LobbyWorld ρ)}
    (refused : LsgHandler.admits aes clock.keysNow clock.now h.world.lsg.keyStore title authProof
      = none) :
    ∃ fault, exec (call ((lsgService aes clock).authenticate session title authProof)) h
      = (.error fault, h) := by
  obtain ⟨fault, ran⟩ := @LsgHandler.exec_authenticate_of_refused aes clock.keysNow clock.now
    session title authProof h.world.lsg refused
  refine ⟨fault, ?_⟩
  rw [exec_call, lsgService, exec_onLsg, ran]

theorem exec_handling {server : LobbyServer (LobbyWorld ρ)} {session : BdSession}
    {counter : UInt64} {message : BdReader} {world : LobbyWorld ρ}
    {outcome : Except Fault BdResponse} {h : Handling (LobbyWorld ρ)}
    (handled : exec (server.handleMessage session) ⟨message, [], counter, world⟩ = (outcome, h)) :
    exec (server.handling session counter message) world = (outcome, h.world) := by
  rw [exec, handling, handled]

theorem exec_handling_lsg {session : BdSession} {counter : UInt64} {message r : BdReader}
    (named : exec readServiceId message = (.ok .lobbyService, r)) (world : LobbyWorld ρ) :
    (∃ fault, exec ((withServices aes clock added).handling session counter message) world
        = (.error fault, world))
      ∨ ∃ title authProof proof response, (exec lsgRequest r).1 = .ok (title, authProof)
        ∧ LsgHandler.admits aes clock.keysNow clock.now world.lsg.keyStore title authProof = some proof
        ∧ exec ((withServices aes clock added).handling session counter message) world
          = (.ok response, { world with lsg := world.lsg.enroll session.id proof }) := by
  have handled := @exec_handleMessage_lsg ρ aes clock added session ⟨message, [], counter, world⟩ r
    named
  obtain ⟨demanded, performed⟩ := @exec_perform (LobbyWorld ρ) _ lsgRequest ⟨r, [], counter, world⟩
  cases read : (exec lsgRequest r).1 with
  | error fault =>
    rw [read] at performed
    rw [exec_bind_error _ performed] at handled
    exact .inl ⟨fault, exec_handling handled⟩
  | ok request =>
    obtain ⟨title, authProof⟩ := request
    rw [read] at performed
    rw [exec_bind_ok _ performed] at handled
    cases admitted : LsgHandler.admits aes clock.keysNow clock.now world.lsg.keyStore title
      authProof with
    | none =>
      obtain ⟨fault, refused⟩ := @exec_authenticate_refused ρ aes clock session title authProof
        ⟨(exec lsgRequest r).2, demanded, counter, world⟩ admitted
      rw [exec_bind_error _ refused] at handled
      exact .inl ⟨fault, exec_handling handled⟩
    | some proof =>
      have enrolled := @exec_authenticate_admitted ρ aes clock session title authProof
        ⟨(exec lsgRequest r).2, demanded, counter, world⟩ proof admitted
      obtain ⟨data, built⟩ := ConnectionIdResponse.toResponse_ok ⟨session.id⟩
      rw [exec_bind_ok _ enrolled, respond, built] at handled
      exact .inr ⟨title, authProof, proof, _, rfl, admitted, exec_handling handled⟩

theorem exec_handling_unnamed {session : BdSession} {counter : UInt64} {message : BdReader}
    {fault : Fault} (unnamed : (exec readServiceId message).1 = .error fault)
    (server : LobbyServer (LobbyWorld ρ)) (world : LobbyWorld ρ) :
    exec (server.handling session counter message) world = (.error fault, world) := by
  obtain ⟨demanded, performed⟩ := @exec_perform (LobbyWorld ρ) _ readServiceId
    ⟨message, [], counter, world⟩
  rw [unnamed] at performed
  have handled : exec (server.handleMessage session) ⟨message, [], counter, world⟩ = _ :=
    exec_bind_error _ performed
  exact exec_handling handled

end Lsg

section Others

variable {P : LobbyWorld ρ → Prop}

theorem steady_deny (errorCode : BdErrorCode) :
    Steady P (do
      let reply ← withOnlyErrorCode errorCode 0
      respond reply : HandleM (LobbyWorld ρ) BdResponse) :=
  keeps_bind (steady_withOnlyErrorCode _ _) fun reply => keeps_respond reply

theorem handling_keeps {aes : Aes256Cbc} {clock : LsgClock}
    {added : LobbyServiceId → Option (AddedHandler (LobbyWorld ρ))}
    (spares : ∀ serviceId handler, added serviceId = some handler → handler.val.Spares P)
    {session : BdSession} {counter : UInt64} {message r : BdReader} {serviceId : LobbyServiceId}
    (named : exec readServiceId message = (.ok serviceId, r)) (other : serviceId ≠ .lobbyService)
    {world : LobbyWorld ρ} (holds : P world) :
    P (exec ((withServices aes clock added).handling session counter message) world).2 := by
  have found : (withServices aes clock added).lobbyHandlers serviceId
      = (added serviceId).map Subtype.val := if_neg other
  obtain ⟨rest, handled, kept⟩ : ∃ rest, exec ((withServices aes clock added).handleMessage session)
      ⟨message, [], counter, world⟩ = exec rest ⟨r, [], counter, world⟩ ∧ Steady P rest := by
    refine ⟨_, exec_bind_ok _ (@exec_perform_ok _ _ _ ⟨message, [], counter, world⟩ _ _
      named), ?_⟩
    rw [found]
    refine keeps_bind (steady_perform _) fun _ => ?_
    cases stored : added serviceId with
    | none => exact steady_deny _
    | some handler =>
      refine keeps_ite (fun _ => steady_deny _) fun _ => ?_
      exact LobbyHandler.steady_handleMessage (spares serviceId handler stored) session
  have after : (exec ((withServices aes clock added).handling session counter message) world).2
      = (exec ((withServices aes clock added).handleMessage session)
        ⟨message, [], counter, world⟩).2.world := rfl
  rw [after, handled]
  exact (kept _ holds).1

end Others

end LobbyServer

end BitDemon
