import BitDemon.DwServer.Auth
import BitDemon.Lobby.LsgAuthentication

set_option autoImplicit false

/-!
# How long a proof is accepted

A proof says when it expires. Whether the lobby server still takes it then
hangs on the key that sealed it, which the ring may have given up before.
-/

namespace BitDemon

open Machine Bits KeyStore ClientOpaqueAuthProof

inductive Issuer where
  | http | steam
  deriving DecidableEq, Repr

namespace Issuer

inductive Issues (aes : Aes256Cbc) (ring : InMemoryKeyState) (now keyNow : Int)
    (fresh : BackendPrivateKey) :
    Issuer → ClientOpaqueAuthProof → Vector UInt8 128 → InMemoryKeyState → Prop
  | http {sessionKey : Vector UInt8 24} {authorization : Option String}
      {request : DwAuth.AuthRequest} {title : Title} {userId : UInt64} {username : String}
      {reply : DwAuth.AuthReply} {after : InMemoryKeyState}
      (titled : Title.fromU32 (DwAuth.parseU32 request.titleId) = some title)
      (identified : DwAuth.identify authorization = some (userId, username))
      (answered : exec (DwAuth.handleAuth aes now keyNow fresh sessionKey authorization request) ring
        = (.ok (.ok reply), after)) :
      Issues aes ring now keyNow fresh .http
        ((DwAuth.httpTicket now title userId username sessionKey).proof
          (now + DwAuth.ticketLifetimeSeconds))
        reply.serverTicket after
  | steam {message : BdReader} {response : SteamAuthResponse} {after : InMemoryKeyState}
      (answered : exec (SteamAuthHandler.handleMessage aes now keyNow fresh message) ring
        = (.ok response, after)) :
      Issues aes ring now keyNow fresh .steam
        (response.ticket.proof (now + SteamAuthHandler.ticketIssueLength))
        response.serializedProofData after

def Accepted (outcome : Except Fault Reply × Handling LsgWorld) (session : BdSession)
    (proof : ClientOpaqueAuthProof) : Prop :=
  outcome.1 = .ok (.connectionId ⟨session.id⟩)
    ∧ outcome.2.world.authentications.get session.id = some proof.received.authentication

variable {aes : Aes256Cbc} {ring after : InMemoryKeyState} {now keyNow : Int}
  {fresh : BackendPrivateKey} {issuer : Issuer} {proof : ClientOpaqueAuthProof}
  {bytes : Vector UInt8 128}

theorem sealed_http {sessionKey : Vector UInt8 24} {authorization : Option String}
    {request : DwAuth.AuthRequest} {title : Title} {userId : UInt64} {username : String}
    {reply : DwAuth.AuthReply}
    (titled : Title.fromU32 (DwAuth.parseU32 request.titleId) = some title)
    (identified : DwAuth.identify authorization = some (userId, username))
    (answered : exec (DwAuth.handleAuth aes now keyNow fresh sessionKey authorization request) ring
      = (.ok (.ok reply), after)) :
    exec (serialize aes keyNow fresh ((DwAuth.httpTicket now title userId username sessionKey).proof
      (now + DwAuth.ticketLifetimeSeconds))) ring = (.ok reply.serverTicket, after) := by
  rw [DwAuth.handleAuth] at answered
  split at answered
  next other => simp [DwAuth.reject] at answered
  next task =>
    rw [titled, identified] at answered
    dsimp only at answered
    split at answered
    next p _ => simp [panicWith] at answered
    next e _ => simp [DwAuth.reject] at answered
    next clientTicket _ =>
      rw [exec_bind] at answered
      rcases ran : exec (serialize aes keyNow fresh ((DwAuth.httpTicket now title userId username
        sessionKey).proof (now + DwAuth.ticketLifetimeSeconds))) ring with ⟨outcome, t⟩
      rw [ran] at answered
      cases outcome with
      | error fault => cases answered
      | ok sealed =>
        cases answered
        rfl

theorem sealed_steam {message : BdReader} {response : SteamAuthResponse}
    (answered : exec (SteamAuthHandler.handleMessage aes now keyNow fresh message) ring
      = (.ok response, after)) :
    exec (serialize aes keyNow fresh (response.ticket.proof
      (now + SteamAuthHandler.ticketIssueLength))) ring
        = (.ok response.serializedProofData, after) := by
  rw [SteamAuthHandler.handleMessage] at answered
  cases parsed : (exec SteamAuthHandler.readRequest message).1 with
  | error fault =>
    rw [parsed, exec_bind_error _ (exec_ofExcept _ ring)] at answered
    cases answered
  | ok authenticationRequest =>
    obtain ⟨ivSeed, title, ⟨steamId, sessionKey, username⟩⟩ := authenticationRequest
    rw [parsed, exec_bind_ok _ (exec_ofExcept _ ring)] at answered
    dsimp only at answered
    rw [exec_bind] at answered
    let ticket := AuthTicket.issue now SteamAuthHandler.ticketIssueLength 1234 title steamId
      username sessionKey
    rcases ran : exec (serialize aes keyNow fresh (ticket.proof
      (now + SteamAuthHandler.ticketIssueLength))) ring with ⟨outcome, t⟩
    rw [ran] at answered
    cases outcome with
    | error fault => cases answered
    | ok sealed =>
      cases answered
      exact ran

theorem Issues.sealed (issues : Issues aes ring now keyNow fresh issuer proof bytes after) :
    exec (serialize aes keyNow fresh proof) ring = (.ok bytes, after) := by
  cases issues with
  | http titled identified answered => exact sealed_http titled identified answered
  | steam answered => exact sealed_steam answered

theorem Issues.after_eq (issues : Issues aes ring now keyNow fresh issuer proof bytes after) :
    after = step ring (.current keyNow fresh) :=
  (serialize_ok issues.sealed).2.2

theorem Issues.bytes_eq (issues : Issues aes ring now keyNow fresh issuer proof bytes after) :
    bytes = arrayOf 128 (aes.encrypt (getCurrentKey keyNow fresh ring).1 proof.layout) := by
  rw [← (serialize_ok issues.sealed).2.1, arrayOf_toList]

theorem Issues.expires_http (issues : Issues aes ring now keyNow fresh .http proof bytes after)
    (positive : 0 < now) : proof.timeExpires.toInt ≤ now + DwAuth.ticketLifetimeSeconds := by
  have lifetime : DwAuth.ticketLifetimeSeconds = 300 := rfl
  cases issues with
  | http titled identified answered =>
    change (Int64.ofInt (now + DwAuth.ticketLifetimeSeconds)).toInt ≤ _
    have size : (Int64.size : Int) = 18446744073709551616 := rfl
    rw [Int64.toInt_ofInt, Int.bmod_def, size]
    split <;> omega

theorem exec_authenticate {keysNow useNow : Int} {world : LsgWorld} {session : BdSession}
    {key : BackendPrivateKey} (size : proof.layout.length = 128)
    (sealed : bytes.toList = aes.encrypt key proof.layout)
    (valid : key ∈ getValidKeys keysNow world.keyStore)
    (others : ∀ other ∈ getValidKeys keysNow world.keyStore,
      yieldsMagic aes bytes.toList other = true → other = key)
    (inTime : useNow ≤ proof.timeExpires.toInt) :
    ∃ recipients, exec (LsgHandler.authenticate aes keysNow useNow session proof.title bytes.toList)
        world
      = (.ok (), { world with
          authentications := world.authentications.put session.id proof.received.authentication
          recipients := recipients }) := by
  have opened := exec_deserialize_sealed size sealed valid others
  have early : decide (useNow ≤ proof.received.timeExpires.toInt) = true := decide_eq_true inTime
  refine ⟨world.recipients.put proof.userId ⟨session.id, proof.sessionKey.toList⟩, ?_⟩
  rw [LsgHandler.authenticate, exec_bind_ok _ (exec_get world), arrayOf_toList, opened,
    exec_bind_ok _ (exec_ofExcept _ world), early, ensure_true, pure_bind,
    show (proof.received.title == proof.title) = true from beq_self_eq_true _, ensure_true,
    pure_bind]
  rfl

theorem exec_authenticate_unknown {keysNow useNow : Int} {world : LsgWorld} {session : BdSession}
    {title : Title}
    (closed : ∀ key ∈ getValidKeys keysNow world.keyStore,
      yieldsMagic aes bytes.toList key = false) :
    exec (LsgHandler.authenticate aes keysNow useNow session title bytes.toList) world
      = (.error (.error .unknownKey), world) := by
  rw [LsgHandler.authenticate, exec_bind_ok _ (exec_get world), arrayOf_toList,
    exec_deserialize_unknown closed, exec_bind_error _ (exec_ofExcept _ world)]

/--
An unexpired proof is accepted exactly if it was issued over HTTP or the key
that sealed it is still valid.
-/
theorem accepted_iff (aes : Aes256Cbc) {before middle : List Call}
    {now keyNow keysNow useNow : Int} {fresh : BackendPrivateKey} {issuer : Issuer}
    {proof : ClientOpaqueAuthProof} {bytes : Vector UInt8 128} {ring : InMemoryKeyState}
    {session : BdSession} {h : Handling LsgWorld}
    (positive : 0 < now) (issuedBy : now ≤ keyNow) (usedFrom : keysNow ≤ useNow)
    (schedule : Schedule (before ++ .current keyNow fresh :: (middle ++ [.valid keysNow])))
    (issues : Issues aes (KeyStore.after before) now keyNow fresh issuer proof bytes ring)
    (inTime : useNow ≤ proof.timeExpires.toInt)
    (turned : h.world.keyStore = Runs.run step ring middle)
    (carries : LsgHandler.Carries h.reader proof.title bytes.toList)
    (others : ∀ other ∈ validSlots keysNow h.world.keyStore,
      other ≠ encrypting keyNow fresh (KeyStore.after before) →
      yieldsMagic aes bytes.toList other.export = false) :
    Accepted (exec (LsgHandler.answer (LsgHandler.service aes keysNow useNow) session) h) session
        proof
      ↔ issuer = .http
        ∨ keysNow ≤ (encrypting keyNow fresh (KeyStore.after before)).validUntil := by
  obtain ⟨size, sealed, _⟩ := serialize_ok issues.sealed
  obtain ⟨reader, answered⟩ :=
    @LsgHandler.exec_answer _ (LsgHandler.service aes keysNow useNow) session _ _ _
      (Vector.length_toList) carries
  rw [answered]
  have spaced : Spaced keyNow (KeyStore.after before) :=
    spaced_run spaced_new (between_of_schedule schedule)
  have keyPositive : 0 < keyNow := schedule.1 (.current keyNow fresh) (by simp)
  constructor
  · intro accepted
    by_contra refused
    obtain ⟨_, expired⟩ := not_or.mp refused
    -- every key that is still valid is another one
    have closed : ∀ key ∈ getValidKeys keysNow h.world.keyStore,
        yieldsMagic aes bytes.toList key = false := by
      intro key member
      obtain ⟨other, valid, rfl⟩ := List.mem_map.mp member
      apply others other valid
      rintro rfl
      exact expired (mem_validSlots.mp valid).2
    have unknown : exec ((LsgHandler.service aes keysNow useNow).authenticate session proof.title
        bytes.toList) h.world = _ := exec_authenticate_unknown closed
    rw [unknown] at accepted
    cases accepted.1
  · intro condition
    have live : keysNow ≤ (encrypting keyNow fresh (KeyStore.after before)).validUntil := by
      rcases condition with rfl | live
      · have expires := issues.expires_http positive
        have lives := encrypting_lives keyNow fresh (KeyStore.after before)
        have lifetime : DwAuth.ticketLifetimeSeconds = 300 := rfl
        have timeout : inMemoryKeyTimeout = 840 := rfl
        omega
      · exact live
    have stays := encrypting_stays spaced keyPositive (between_after schedule) live
    rw [← issues.after_eq, ← turned] at stays
    have valid : (getCurrentKey keyNow fresh (KeyStore.after before)).1
        ∈ getValidKeys keysNow h.world.keyStore := by
      rw [← encrypting_export]
      exact List.mem_map_of_mem stays
    have only : ∀ other ∈ getValidKeys keysNow h.world.keyStore,
        yieldsMagic aes bytes.toList other = true →
        other = (getCurrentKey keyNow fresh (KeyStore.after before)).1 := by
      intro key member yields
      obtain ⟨other, valid, rfl⟩ := List.mem_map.mp member
      by_cases same : other = encrypting keyNow fresh (KeyStore.after before)
      · rw [same, encrypting_export]
      · rw [others other valid same] at yields
        cases yields
    obtain ⟨recipients, taken⟩ := @exec_authenticate aes proof bytes keysNow useNow h.world session
      _ size sealed valid only inTime
    have authenticated : exec ((LsgHandler.service aes keysNow useNow).authenticate session
        proof.title bytes.toList) h.world = _ := taken
    rw [authenticated]
    exact ⟨rfl, Table.get_put_self _ _ _⟩

-- stands in for the block cipher where a run is evaluated
def xorCipher : Aes256Cbc where
  encrypt key buf := buf.map (· ^^^ key.aesKey[0])
  decrypt key buf := buf.map (· ^^^ key.aesKey[0])
  length_encrypt := by simp
  decrypt_encrypt := by
    intro key buf _
    rw [List.map_map]
    apply List.map_id''
    intro b
    rw [Function.comp_apply, UInt8.xor_assoc, UInt8.xor_self, UInt8.xor_zero]

def ringKey (b : UInt8) : BackendPrivateKey := ⟨Vector.replicate 32 b, Vector.replicate 16 0⟩

def playerKey : Vector UInt8 24 := Vector.replicate 24 9

def connection : BdSession := ⟨1, none, none⟩

def presenting (ring : InMemoryKeyState) (title : Title) (authProof : List UInt8) :
    Handling LsgWorld :=
  { reader := .new (LeCodec.u32.toLeBytes title.toU32 ++ (LeCodec.u32.toLeBytes 5 ++ authProof))
    demanded := [], transactionIdCounter := 1
    world := { keyStore := ring, authentications := ∅, recipients := ∅ } }

theorem carries_presenting (ring : InMemoryKeyState) (title : Title) (authProof : List UInt8) :
    LsgHandler.Carries (presenting ring title authProof).reader title authProof := by
  refine ⟨.byteMode, false, 5, [], ⟨rfl, rfl, rfl, Nat.zero_lt_succ 7, Nat.le_refl 8,
    fun _ => rfl⟩, ?_⟩
  rw [BdReader.bits_whole rfl]
  simp [presenting, BdReader.new, Format.scalarCode, Format.tagCode]

def httpProof : ClientOpaqueAuthProof :=
  (DwAuth.httpTicket 1000 .t6Pc 7 "player" playerKey).proof (1000 + DwAuth.ticketLifetimeSeconds)

def httpBytes : Vector UInt8 128 := arrayOf 128 (xorCipher.encrypt (ringKey 1) httpProof.layout)

theorem ok_of_isSome {ε ε' σ α : Type} {ran : Except ε (Except ε' α) × σ}
    (some : (ran.1.toOption.bind Except.toOption).isSome = true) :
    ∃ a after, ran = (.ok (.ok a), after) := by
  rcases ran with ⟨_ | _ | a, after⟩
  · cases some
  · cases some
  · exact ⟨a, after, rfl⟩

theorem issues_httpProof :
    Issues xorCipher .new 1000 1000 (ringKey 1) .http httpProof httpBytes
      (step .new (.current 1000 (ringKey 1))) := by
  have granted : ((exec (DwAuth.handleAuth xorCipher 1000 1000 (ringKey 1) playerKey
      (some "IW4x1.0 xuid=7;gamertag=player") ⟨"44", "18397", "5"⟩) .new).1.toOption.bind
        Except.toOption).isSome = true := by decide +kernel
  obtain ⟨reply, after, answered⟩ := ok_of_isSome granted
  have titled : Title.fromU32 (DwAuth.parseU32 "18397") = some .t6Pc := by decide +kernel
  have identified : DwAuth.identify (some "IW4x1.0 xuid=7;gamertag=player") = some (7, "player") := by
    decide +kernel
  have issues : Issues xorCipher .new 1000 1000 (ringKey 1) .http httpProof reply.serverTicket
      after := @Issues.http _ _ _ _ _ _ _ ⟨"44", "18397", "5"⟩ _ _ _ _ _ titled identified answered
  have bytes : reply.serverTicket = httpBytes := issues.bytes_eq
  rw [← bytes]
  exact issues.after_eq ▸ issues

-- the ring has turned when the proof is presented
def httpUse : Handling LsgWorld :=
  presenting (Runs.run step (step .new (.current 1000 (ringKey 1))) [.current 1061 (ringKey 2)])
    .t6Pc httpBytes.toList

theorem accepted_iff_http :
    Accepted (exec (LsgHandler.answer (LsgHandler.service xorCipher 1100 1101) connection) httpUse)
      connection httpProof := by
  have schedule : Schedule ([] ++ .current 1000 (ringKey 1) ::
      ([.current 1061 (ringKey 2)] ++ [.valid 1100])) := by
    constructor
    · simp [Call.now]
    · simp [Call.now]
  have inTime : (1101 : Int) ≤ httpProof.timeExpires.toInt := by decide +kernel
  have turned : httpUse.world.keyStore = Runs.run step (step .new (.current 1000 (ringKey 1)))
      [.current 1061 (ringKey 2)] := rfl
  have carries : LsgHandler.Carries httpUse.reader httpProof.title httpBytes.toList :=
    carries_presenting _ _ _
  have others : ∀ other ∈ validSlots 1100 httpUse.world.keyStore,
      other ≠ encrypting 1000 (ringKey 1) .new →
      yieldsMagic xorCipher httpBytes.toList other.export = false := by decide +kernel
  have iff := @accepted_iff xorCipher [] [.current 1061 (ringKey 2)] 1000 1000 1100 1101 (ringKey 1)
    .http httpProof httpBytes (step .new (.current 1000 (ringKey 1))) connection httpUse
    (by decide) (Int.le_refl 1000) (by decide) schedule issues_httpProof inTime turned carries others
  exact iff.mpr (.inl rfl)

-- `0xDEADBABE`, the steam id, the size of the secret data, the session key and the name
def customTicket : List UInt8 :=
  LeCodec.u32.toLeBytes 0xDEADBABE ++ LeCodec.u64.toLeBytes 7 ++ LeCodec.u32.toLeBytes 88
    ++ playerKey.toList ++ Utf8.encode "player" ++ [0]

def steamMessage : BdReader :=
  .new (pack (false :: ofBytes (LeCodec.u32.toLeBytes 5 ++ LeCodec.u32.toLeBytes Title.t6Pc.toU32
    ++ LeCodec.u32.toLeBytes (UInt32.ofNat customTicket.length) ++ customTicket)))

def steamTicket : AuthTicket :=
  .issue 1000 SteamAuthHandler.ticketIssueLength 1234 .t6Pc 7 "player" playerKey

def steamProof : ClientOpaqueAuthProof :=
  steamTicket.proof (1000 + SteamAuthHandler.ticketIssueLength)

def steamBytes : Vector UInt8 128 := arrayOf 128 (xorCipher.encrypt (ringKey 1) steamProof.layout)

theorem readRequest_steamMessage :
    (exec SteamAuthHandler.readRequest steamMessage).1
      = .ok ⟨5, .t6Pc, .custom ⟨7, playerKey, "player"⟩⟩ := by decide +kernel

theorem issues_steamProof :
    Issues xorCipher .new 1000 1000 (ringKey 1) .steam steamProof steamBytes
      (step .new (.current 1000 (ringKey 1))) := by
  have short : (Utf8.encode steamProof.username).length ≤ 64 := by decide +kernel
  obtain ⟨sealed, ran⟩ := @exec_serialize xorCipher 1000 (ringKey 1) steamProof .new short
  have answered : exec (SteamAuthHandler.handleMessage xorCipher 1000 1000 (ringKey 1) steamMessage)
      .new = (.ok ⟨steamTicket, sealed⟩, step .new (.current 1000 (ringKey 1))) := by
    rw [SteamAuthHandler.handleMessage, readRequest_steamMessage,
      exec_bind_ok _ (exec_ofExcept _ _)]
    exact exec_bind_ok _ ran
  have issues : Issues xorCipher .new 1000 1000 (ringKey 1) .steam steamProof sealed _ :=
    .steam answered
  have bytes : sealed = steamBytes := issues.bytes_eq
  exact bytes ▸ issues

theorem steamProof_refused :
    Issues xorCipher .new 1000 1000 (ringKey 1) .steam steamProof steamBytes
        (step .new (.current 1000 (ringKey 1)))
      ∧ steamProof.timeExpires.toInt = 301000
      ∧ (exec (LsgHandler.answer (LsgHandler.service xorCipher 1901 1901) connection)
          (presenting (step .new (.current 1000 (ringKey 1))) .t6Pc steamBytes.toList)).1
        = .error (.error .unknownKey) := by
  refine ⟨issues_steamProof, by decide +kernel, ?_⟩
  have none : getValidKeys 1901 (step .new (.current 1000 (ringKey 1))) = [] := by decide +kernel
  have closed : ∀ key ∈ getValidKeys 1901 (step .new (.current 1000 (ringKey 1))),
      yieldsMagic xorCipher steamBytes.toList key = false := by simp [none]
  generalize ringAt : step .new (.current 1000 (ringKey 1)) = ring at closed
  have unknown : exec ((LsgHandler.service xorCipher 1901 1901).authenticate connection .t6Pc
      steamBytes.toList) (presenting ring .t6Pc steamBytes.toList).world = _ :=
    exec_authenticate_unknown closed
  obtain ⟨reader, answered⟩ := @LsgHandler.exec_answer _ (LsgHandler.service xorCipher 1901 1901)
    connection (presenting ring .t6Pc steamBytes.toList) .t6Pc steamBytes.toList
    (Vector.length_toList) (carries_presenting ring .t6Pc steamBytes.toList)
  rw [answered, unknown]

end Issuer

end BitDemon
