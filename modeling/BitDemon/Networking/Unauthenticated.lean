import BitDemon.Auth.AuthServer
import BitDemon.Lobby.Serving

set_option autoImplicit false

/-!
# Messages of peers that have not authenticated

Nothing that they send makes one of the two servers panic. Each step either
succeeds or returns an error.
-/

namespace BitDemon

open Machine Bits Format

section Checks

variable {σ α : Type} {kept : σ → Prop}

theorem yields_ofExcept {outcome : Except Fault α} {post : α → Prop}
    (fine : ∀ a, outcome = .ok a → post a)
    (error : ∀ fault, outcome = .error fault → fault.isError = true) :
    Yields kept (fun fault => fault.isError = true) post
      (MonadExcept.ofExcept outcome : Fallible σ α) := by
  intro s holds
  rw [exec_ofExcept]
  exact ⟨holds, fine, error⟩

theorem graceful_error {m : Fallible σ α} (graceful : Graceful (fun _ => True) m) {s : σ}
    {fault : Fault} (failed : (exec m s).1 = .error fault) : fault.isError = true :=
  (graceful s trivial).2 fault failed

theorem graceful_of_ok {m : Fallible σ α} (succeeds : ∃ a, m = pure a) : Graceful kept m := by
  obtain ⟨a, rfl⟩ := succeeds
  exact keeps_pure a

end Checks

namespace CustomSteamAuthenticationRequest

open BdReader

theorem yields_deserialize :
    Yields (fun r => Sound r ∧ r.mode = .byteMode) (fun fault => fault.isError = true)
      (fun request => request.username.utf8ByteSize < 64) deserialize := by
  refine yields_bind (Keeps.yields (keeps_modify fun r sound => ⟨sound.1, rfl⟩)) fun _ _ => ?_
  refine yields_bind (gracefulIn (graceful_setTypeChecked false)
    (safe_setTypeChecked false)).yields fun _ _ => ?_
  refine yields_bind (gracefulIn (graceful_readScalar _ _) safe_readU32).yields fun signature _ => ?_
  refine yields_bind (graceful_ensure _ _).yields fun _ _ => ?_
  refine yields_bind (gracefulIn (graceful_readScalar _ _) safe_readU64).yields fun steamId _ => ?_
  refine yields_bind (gracefulIn (graceful_readScalar _ _) safe_readU32).yields fun size _ => ?_
  refine yields_bind (graceful_ensure _ _).yields fun _ _ => ?_
  refine yields_bind (gracefulIn (graceful_readBytes 24) (safe_readBytes 24)).yields fun key _ => ?_
  refine yields_bind graceful_readStr.yields fun username _ => ?_
  refine yields_bind (yields_ensure _) fun _ short => yields_pure ?_
  exact of_decide_eq_true short

end CustomSteamAuthenticationRequest

def AuthenticationRequest.Named (request : AuthenticationRequest) : Prop :=
  match request.requestData with
  | .custom requestData => requestData.username.utf8ByteSize < 64

theorem yields_readRequest :
    Yields BdReader.Sound (fun fault => fault.isError = true) AuthenticationRequest.Named
      SteamAuthHandler.readRequest := by
  refine yields_bind (BdReader.graceful_setMode _).yields fun _ _ => ?_
  refine yields_bind BdReader.graceful_readTypeCheckedBit.yields fun _ _ => ?_
  refine yields_bind (BdReader.graceful_readScalar _ _).yields fun ivSeed _ => ?_
  refine yields_bind (BdReader.graceful_readScalar _ _).yields fun titleId _ => ?_
  refine yields_bind (graceful_okOr _ _).yields fun title _ => ?_
  refine yields_bind (BdReader.graceful_readScalar _ _).yields fun dataLen _ => ?_
  refine yields_bind (graceful_ensure _ _).yields fun _ _ => ?_
  refine yields_bind (BdReader.graceful_readBytes _).yields fun dataBuf _ => ?_
  have read := CustomSteamAuthenticationRequest.yields_deserialize (BdReader.new dataBuf)
    ⟨BdReader.sound_new dataBuf, rfl⟩
  refine yields_bind (yields_ofExcept read.2.1 read.2.2) fun requestData named => yields_pure ?_
  exact named

namespace SteamAuthHandler

theorem graceful_handleMessage (aes : Aes256Cbc) (now keyNow : Int) (fresh : BackendPrivateKey)
    {message : BdReader} (sound : BdReader.Sound message) :
    Graceful (fun _ => True) (handleMessage aes now keyNow fresh message) := by
  have read := yields_readRequest message sound
  refine keeps_bind_yields (yields_ofExcept read.2.1 read.2.2) fun request named => ?_
  obtain ⟨ivSeed, title, ⟨requestData⟩⟩ := request
  have short : (Utf8.encode requestData.username).length ≤ 64 := Nat.le_of_lt named
  dsimp only
  refine keeps_bind (fun ring _ => ?_) fun _ => keeps_pure _
  obtain ⟨sealed, ran⟩ := @ClientOpaqueAuthProof.exec_serialize aes keyNow fresh
    ((AuthTicket.issue now ticketIssueLength 1234 title requestData.steamId requestData.username
      requestData.sessionKey).proof (now + ticketIssueLength)) ring short
  rw [ran]
  exact ⟨trivial, by simp⟩

end SteamAuthHandler

namespace AuthTicket

theorem graceful_serialize (ticket : AuthTicket) :
    Graceful (BdWriter.Ready .byteMode false) ticket.serialize := by
  have number (dataType : BdDataType) {α : Type} (c : LeCodec α) (value : α) :
      Graceful (BdWriter.Ready .byteMode false) (BdWriter.writeScalar dataType c value) :=
    (writes_scalar dataType c value).keeps
  have bytes (buffer : List UInt8) :
      Graceful (BdWriter.Ready .byteMode false) (BdWriter.writeBytes buffer) :=
    (writes_bytes buffer).keeps
  have unchecked : Graceful (BdWriter.Ready .byteMode false) (BdWriter.setTypeChecked false) :=
    keeps_modify fun w ready => { ready with checked := rfl }
  have inBytes : Graceful (BdWriter.Ready .byteMode false) (BdWriter.setMode .byteMode) :=
    keeps_modify fun w ready => { ready with inMode := rfl }
  refine keeps_bind unchecked fun _ => keeps_bind inBytes fun _ => ?_
  refine keeps_bind (number _ _ _) fun _ => keeps_bind (number _ _ _) fun _ => ?_
  refine keeps_bind (number _ _ _) fun _ => keeps_bind (number _ _ _) fun _ => ?_
  refine keeps_bind (number _ _ _) fun _ => keeps_bind (number _ _ _) fun _ => ?_
  refine keeps_bind (number _ _ _) fun _ => keeps_bind (graceful_ensure _ _) fun _ => ?_
  refine keeps_bind (bytes _) fun _ => keeps_bind (bytes _) fun _ => ?_
  exact keeps_bind (bytes _) fun _ => bytes _

end AuthTicket

namespace AuthResponse

-- a writer in bit mode, whatever it writes before its values
def Bitwise (w : BdWriter) : Prop := ∃ typeChecked, BdWriter.Ready .bitMode typeChecked w

theorem graceful_writes {α : Type} {m : WriteM α} {code : Bool → List Bool} {a : α}
    (writes : ∀ typeChecked, BdWriter.Writes .bitMode typeChecked m (code typeChecked) a) :
    Graceful Bitwise m := by
  rintro w ⟨typeChecked, ready⟩
  obtain ⟨t, ran, fine, _⟩ := writes typeChecked w ready
  rw [ran]
  exact ⟨⟨typeChecked, fine⟩, by simp⟩

theorem graceful_number (dataType : BdDataType) {α : Type} (c : LeCodec α) (value : α) :
    Graceful Bitwise (BdWriter.writeScalar dataType c value) :=
  graceful_writes fun _ => writes_scalar dataType c value

theorem graceful_bytes (buffer : List UInt8) : Graceful Bitwise (BdWriter.writeBytes buffer) :=
  graceful_writes fun _ => writes_bytes buffer

theorem graceful_writeAuthData (crypto : SessionCrypto) (seed : UInt32) (response : AuthResponse) :
    Graceful Bitwise (response.writeAuthData crypto seed) := by
  cases response with
  | onlyCode response => exact keeps_pure ()
  | steam response =>
    have serialized := response.ticket.graceful_serialize BdWriter.new BdWriter.ready_new
    refine keeps_bind (graceful_number _ _ _) fun _ => ?_
    generalize exec response.ticket.serialize BdWriter.new = result at serialized ⊢
    obtain ⟨outcome, ticketWriter⟩ := result
    cases outcome with
    | error fault => exact keeps_throw (serialized.2 fault rfl)
    | ok done =>
      obtain ⟨encrypted, padded, _⟩ := encryptBufferInPlace_ok crypto
        (resize ticketWriter.out (nextMultipleOf ticketWriter.out.length blockSize))
        response.ticket.sessionKey.toList (crypto.generateIvFromSeed seed)
      dsimp only
      rw [padded]
      exact keeps_bind (graceful_ofExcept (by simp)) fun _ =>
        keeps_bind (graceful_bytes _) fun _ => graceful_bytes _

theorem graceful_toResponse (crypto : SessionCrypto) (seed : UInt32) (response : AuthResponse)
    {fault : Fault} (failed : response.toResponse crypto seed = .error fault) :
    fault.isError = true := by
  have unchecked : exec (BdWriter.setTypeChecked false) BdWriter.new = (.ok (), BdWriter.new) := rfl
  have switched : exec (BdWriter.setMode .bitMode) BdWriter.new
      = (.ok (), { BdWriter.new with mode := .bitMode }) := rfl
  have start : Bitwise { BdWriter.new with mode := .bitMode } :=
    ⟨false, BdWriter.ready_setMode BdWriter.ready_new⟩
  have checked : Graceful Bitwise (BdWriter.setTypeChecked true) :=
    keeps_modify fun w ⟨_, ready⟩ => ⟨true, { ready with checked := rfl }⟩
  have flagged : Graceful Bitwise BdWriter.writeTypeCheckedBit :=
    graceful_writes fun _ => writes_typeCheckedBit
  have rest : Graceful Bitwise (do
      BdWriter.writeU8 response.messageType.toU8
      BdWriter.setTypeChecked true
      BdWriter.writeTypeCheckedBit
      BdWriter.writeU32 response.errorCode.toU32
      response.writeAuthData crypto seed) :=
    keeps_bind (graceful_number _ _ _) fun _ => keeps_bind checked fun _ =>
      keeps_bind flagged fun _ => keeps_bind (graceful_number _ _ _) fun _ =>
        response.graceful_writeAuthData crypto seed
  have written := rest { BdWriter.new with mode := .bitMode } start
  rw [toResponse, write, exec_bind_ok _ unchecked, exec_bind_ok _ switched] at failed
  split at failed
  next => cases failed
  next other _ ran =>
    obtain rfl := Except.error.inj failed
    exact written.2 other (by rw [ran])

end AuthResponse

namespace AuthServer

theorem yields_readFrom {σ α : Type} {kept : σ → Prop} {message : BdReader} {m : ReadM α}
    (sound : BdReader.Sound message) (graceful : Graceful BdReader.Sound m) :
    Yields kept (fun fault => fault.isError = true) (fun read => BdReader.Sound read.2)
      (readFrom message m : Fallible σ (α × BdReader)) := by
  have ran := graceful message sound
  rw [readFrom]
  generalize exec m message = result at ran
  obtain ⟨outcome, reader⟩ := result
  cases outcome with
  | ok a => exact yields_pure ran.1
  | error fault => exact yields_throw (ran.2 fault rfl)

theorem graceful_handleMessage (server : AuthServer) (aes : Aes256Cbc) (crypto : SessionCrypto)
    (draws : AuthDraws) {message : BdReader} (sound : BdReader.Sound message) :
    Graceful (fun _ => True) (server.handleMessage aes crypto draws message) := by
  refine keeps_bind_yields (yields_readFrom sound (BdReader.graceful_readScalar _ _)) ?_
  rintro ⟨messageTypeInput, later⟩ sound
  refine keeps_bind (graceful_okOr _ _) fun handlerType => ?_
  cases server.authHandlers handlerType with
  | none =>
    refine keeps_bind (graceful_of_ok handlerType.replyCode_ok) fun replyCode => ?_
    exact graceful_ofExcept fun fault failed =>
      AuthResponse.graceful_toResponse crypto draws.ivSeed _ failed
  | some handler =>
    refine keeps_bind ?_ fun response => graceful_ofExcept fun fault failed =>
      response.graceful_toResponse crypto draws.ivSeed failed
    cases handler with
    | steam =>
      exact keeps_bind (SteamAuthHandler.graceful_handleMessage aes draws.now draws.keyNow
        draws.fresh sound) fun _ => keeps_pure _

theorem graceful_frame {σ : Type} {kept : σ → Prop} (crypto : SessionCrypto) (seed : UInt32)
    (response : BdResponse) (key : Option (List UInt8)) :
    Graceful kept (MonadExcept.ofExcept (response.frame crypto seed key) :
      Fallible σ (List UInt8)) := by
  obtain ⟨body, framed, _⟩ := response.frame_ok crypto seed key
  rw [framed]
  exact graceful_ofExcept (by simp)

theorem graceful_serve (server : AuthServer) (aes : Aes256Cbc) (crypto : SessionCrypto)
    (draws : AuthDraws) (session : BdSession) (buf : List UInt8) :
    Graceful (fun _ => True) (server.serve aes crypto draws session buf) := by
  refine keeps_bind_yields (BdMessage.yields_new crypto session buf) fun message sound => ?_
  refine keeps_bind (server.graceful_handleMessage aes crypto draws sound) fun response => ?_
  exact graceful_frame _ _ _ _

end AuthServer

section Handling

variable {ω α : Type}

-- the reader of the message stays sound while it is handled
abbrev Handled (m : HandleM ω α) : Prop := Graceful (fun h => BdReader.Sound h.reader) m

theorem handled_perform {m : ReadM α} (graceful : Graceful BdReader.Sound m) :
    Handled (perform m : HandleM ω α) := by
  intro h sound
  have ran := graceful h.reader sound
  rw [exec, perform]
  generalize exec m h.reader = result at ran
  obtain ⟨outcome, reader⟩ := result
  cases outcome with
  | ok a => exact ⟨ran.1, by simp⟩
  | error fault => exact ⟨ran.1, fun other same => ran.2 other (by simpa using same)⟩

theorem handled_call {m : Fallible ω α} (graceful : Graceful (fun _ => True) m) :
    Handled (call m) := by
  intro h sound
  rw [exec_call]
  exact ⟨sound, (graceful h.world trivial).2⟩

theorem handled_withOnlyErrorCode (errorCode : BdErrorCode) (operationId : UInt8) :
    Yields (fun h : Handling ω => BdReader.Sound h.reader) (fun fault => fault.isError = true)
      (fun reply => ∃ transactionId,
        reply = .task (TaskReply.withOnlyErrorCode transactionId errorCode operationId))
      (withOnlyErrorCode errorCode operationId) := by
  have counted : Handled (nextTransactionId : HandleM ω UInt64) :=
    keeps_get_bind fun _ _ => keeps_bind (keeps_modify fun _ sound => sound) fun _ => keeps_pure _
  exact yields_bind counted.yields fun transactionId _ => yields_pure ⟨transactionId, rfl⟩

theorem handled_respond {reply : Reply}
    (fine : ∀ fault, reply.toResponse = .error fault → fault.isError = true) :
    Handled (respond reply : HandleM ω BdResponse) := by
  rw [respond]
  split
  next => exact keeps_pure _
  next fault failed => exact keeps_throw (fine fault failed)

theorem handled_deny (errorCode : BdErrorCode) :
    Handled (do
      let reply ← withOnlyErrorCode errorCode 0
      respond reply : HandleM ω BdResponse) := by
  refine keeps_bind_yields (handled_withOnlyErrorCode _ _) ?_
  rintro reply ⟨transactionId, rfl⟩
  refine handled_respond fun fault failed => ?_
  obtain ⟨data, n, built, _⟩ := @TaskReply.toResponse_code
    (TaskReply.withOnlyErrorCode transactionId errorCode 0) (by simp [TaskReply.withOnlyErrorCode])
  rw [Reply.toResponse_task, built] at failed
  cases failed

end Handling

namespace ConnectionIdResponse

theorem graceful_toResponse (response : ConnectionIdResponse) {fault : Fault}
    (failed : (Reply.connectionId response).toResponse = .error fault) : fault.isError = true := by
  obtain ⟨data, built⟩ := response.toResponse_ok
  rw [built] at failed
  cases failed

end ConnectionIdResponse

namespace ClientOpaqueAuthProof

theorem graceful_cursorTake (n : Nat) : Graceful (fun _ => True) (cursorTake n) := by
  refine keeps_get_bind fun bytes _ => keeps_ite (fun _ => ?_) fun _ => graceful_fail _
  exact keeps_bind (keeps_set trivial) fun _ => keeps_pure _

theorem graceful_cursorRead {α : Type} (c : LeCodec α) :
    Graceful (fun _ => True) (cursorRead c) :=
  keeps_bind (graceful_cursorTake _) fun _ => keeps_pure _

theorem graceful_readFields : Graceful (fun _ => True) readFields := by
  refine keeps_bind (graceful_cursorTake 8) fun _ => ?_
  refine keeps_bind (graceful_cursorRead _) fun titleId => ?_
  refine keeps_bind (graceful_okOr _ _) fun title => ?_
  refine keeps_bind (graceful_cursorRead _) fun timeExpires => ?_
  refine keeps_bind (graceful_cursorRead _) fun licenseId => ?_
  refine keeps_bind (graceful_cursorRead _) fun userId => ?_
  refine keeps_bind (graceful_cursorTake 24) fun sessionKey => ?_
  refine keeps_bind (graceful_cursorTake 64) fun usernameBuffer => ?_
  refine keeps_bind (graceful_okOr _ _) fun username => ?_
  exact keeps_bind (graceful_cursorRead _) fun _ => keeps_pure _

theorem graceful_deserialize (aes : Aes256Cbc) (now : Int) (buf : Vector UInt8 128) :
    Graceful (fun _ => True) (deserialize aes now buf) := by
  intro ring _
  rw [exec_deserialize]
  cases (KeyStore.getValidKeys now ring).find? (yieldsMagic aes buf.toList) with
  | none => exact ⟨trivial, by simp [Fault.isError]⟩
  | some key => exact ⟨trivial, (graceful_readFields _ trivial).2⟩

end ClientOpaqueAuthProof

namespace LsgHandler

theorem graceful_authenticate (aes : Aes256Cbc) (keysNow now : Int) (session : BdSession)
    (title : Title) (authProof : List UInt8) :
    Graceful (fun _ => True) (authenticate aes keysNow now session title authProof) := by
  refine keeps_get_bind fun world _ => ?_
  have opened := ClientOpaqueAuthProof.graceful_deserialize aes keysNow (arrayOf 128 authProof)
    world.keyStore trivial
  refine keeps_bind (graceful_ofExcept opened.2) fun proof => ?_
  refine keeps_bind (graceful_ensure _ _) fun _ => keeps_bind (graceful_ensure _ _) fun _ => ?_
  exact keeps_set trivial

theorem handled_answer {ω : Type} {service : LsgService ω}
    (graceful : ∀ session title authProof,
      Graceful (fun _ => True) (service.authenticate session title authProof))
    (session : BdSession) :
    Yields (fun h : Handling ω => BdReader.Sound h.reader) (fun fault => fault.isError = true)
      (fun reply => reply = .connectionId ⟨session.id⟩) (answer service session) := by
  refine yields_bind (handled_perform (BdReader.graceful_readScalar _ _)).yields fun titleId _ => ?_
  refine yields_bind (graceful_okOr _ _).yields fun title _ => ?_
  refine yields_bind (handled_perform (BdReader.graceful_readScalar _ _)).yields fun ivSeed _ => ?_
  refine yields_bind (handled_perform (BdReader.graceful_readBytes 128)).yields fun authProof _ => ?_
  exact yields_bind (handled_call (graceful _ _ _)).yields fun _ _ => yields_pure rfl

end LsgHandler

namespace LobbyServer

variable {ρ : Type}

theorem graceful_onLsg {α : Type} {m : Fallible LsgWorld α}
    (graceful : Graceful (fun _ => True) m) :
    Graceful (fun _ => True) (onLsg m : Fallible (LobbyWorld ρ) α) := by
  intro world _
  rw [exec_onLsg]
  exact ⟨trivial, (graceful world.lsg trivial).2⟩

theorem graceful_enterFraming {ω : Type} (maybeHandler : Option (LobbyHandler ω)) :
    Graceful BdReader.Sound (enterFraming maybeHandler) :=
  keeps_ite (fun _ => keeps_bind (BdReader.graceful_setMode _) fun _ =>
    BdReader.graceful_readTypeCheckedBit) fun _ => keeps_pure ()

theorem handled_handleMessage (aes : Aes256Cbc) (clock : LsgClock)
    (added : LobbyServiceId → Option (AddedHandler (LobbyWorld ρ))) {session : BdSession}
    (unauthenticated : session.authentication = none) :
    Handled ((withServices aes clock added).handleMessage session) := by
  refine keeps_bind (handled_perform graceful_readServiceId) fun serviceId => ?_
  refine keeps_bind (handled_perform (graceful_enterFraming _)) fun _ => ?_
  rw [withServices]
  dsimp only
  by_cases lobby : serviceId = .lobbyService
  next =>
    rw [if_pos lobby]
    refine keeps_ite (fun _ => handled_deny _) fun _ => ?_
    refine keeps_bind_yields (LsgHandler.handled_answer (fun _ _ _ => graceful_onLsg
      (LsgHandler.graceful_authenticate _ _ _ _ _ _)) session) ?_
    rintro reply rfl
    exact handled_respond fun fault failed => ConnectionIdResponse.graceful_toResponse _ failed
  next =>
    rw [if_neg lobby]
    cases added serviceId with
    | none => exact handled_deny _
    | some handler =>
      have denied : (handler.val.requiresAuthentication && session.authentication.isNone) = true := by
        rw [handler.property, unauthenticated]
        rfl
      dsimp only [Option.map_some]
      rw [if_pos denied]
      exact handled_deny _

theorem graceful_handling (server : LobbyServer (LobbyWorld ρ)) (session : BdSession)
    (counter : UInt64) {message : BdReader} (sound : BdReader.Sound message)
    (handled : Handled (server.handleMessage session)) :
    Graceful (fun _ => True) (server.handling session counter message) := by
  intro world _
  exact ⟨trivial, (handled ⟨message, [], counter, world⟩ sound).2⟩

theorem graceful_serve (aes : Aes256Cbc) (crypto : SessionCrypto)
    (added : LobbyServiceId → Option (AddedHandler (LobbyWorld ρ))) {arrival : Arrival}
    {world : LobbyWorld ρ}
    (unauthenticated : world.lsg.authentications.get arrival.session = none) {fault : Fault}
    (failed : (exec (serve aes crypto added arrival) world).1 = .error fault) :
    fault.isError = true := by
  rw [serve, exec_bind_ok _ (exec_get world)] at failed
  refine graceful_error ?_ failed
  refine keeps_bind_yields (BdMessage.yields_new _ _ _) fun message sound => ?_
  refine keeps_bind (graceful_handling _ _ _ sound (handled_handleMessage aes arrival.clock added
    unauthenticated)) fun response => ?_
  exact keeps_get_bind fun after _ => AuthServer.graceful_frame _ _ _ _

end LobbyServer

/--
Neither server panics on anything that a peer sends before it has authenticated,
whatever keys the ring holds.
-/
theorem unauthenticated_never_panics {ρ : Type} (aes : Aes256Cbc) (crypto : SessionCrypto) :
    (∀ (draws : AuthDraws) (session : BdSession) (buf : List UInt8) (calls : List KeyStore.Call)
        (p : Panic),
      (exec (AuthServer.new.serve aes crypto draws session buf) (KeyStore.after calls)).1
        ≠ .error (.panic p))
      ∧ ∀ (added : LobbyServiceId → Option (AddedHandler (LobbyWorld ρ)))
        (arrival : LobbyServer.Arrival) (world : LobbyWorld ρ),
        world.lsg.authentications.get arrival.session = none → ∀ p : Panic,
          (exec (LobbyServer.serve aes crypto added arrival) world).1 ≠ .error (.panic p) := by
  constructor
  · intro draws session buf calls p failed
    have graceful := AuthServer.new.graceful_serve aes crypto draws session buf
    cases graceful_error graceful failed
  · intro added arrival world unauthenticated p failed
    cases LobbyServer.graceful_serve aes crypto added unauthenticated failed

-- stands in for the cipher of the ring where a message is served
def plainAes : Aes256Cbc where
  encrypt _ buf := buf
  decrypt _ buf := buf
  length_encrypt _ _ := rfl
  decrypt_encrypt _ _ _ := rfl

def shortMessage : LobbyServer.Arrival :=
  { session := 1
    peerAddr := none
    buf := [0, LobbyServiceId.lobbyService.toU8]
    clock := { keysNow := 1000, now := 1000 }
    counter := 0
    frameSeed := 5 }

theorem shortMessage_fails :
    (exec (LobbyServer.serve plainAes plainCrypto (fun _ => none) shortMessage)
        { lsg := { keyStore := .new, authentications := ∅, recipients := ∅ }, services := () }).1
      ≠ .error (.panic .indexOutOfBounds) :=
  (unauthenticated_never_panics plainAes plainCrypto).2 (fun _ => none) shortMessage
    { lsg := { keyStore := .new, authentications := ∅, recipients := ∅ }, services := () } rfl
    .indexOutOfBounds

end BitDemon
