import BitDemon.DwServer.ProofLifetime
import BitDemon.Library.Runs

set_option autoImplicit false

/-!
# Connections and the message router

The router copies the user and the key out of a session when it authenticates. It
forgets the session when its connection ends.
-/

namespace BitDemon

open Machine

/-- The entries of other sessions are kept. -/
def LsgWorld.unregister (world : LsgWorld) (session : SessionId) : LsgWorld :=
  { world with recipients := world.recipients.retain fun recipient => recipient.session ≠ session }

-- the message of an authentication, and the clock when it is handled
structure SignIn where
  session : SessionId
  title : Title
  authProof : List UInt8
  keysNow : Int
  now : Int

inductive ConnectionEvent where
  | connect (session : SessionId)
  | keys (call : KeyStore.Call)
  | signIn (message : SignIn)
  | disconnect (session : SessionId)

structure Connections where
  -- history: no session id is given out twice
  issued : List SessionId
  connected : List SessionId
  lsg : LsgWorld

namespace Connections

def start (keyStore : KeyStore.InMemoryKeyState) : Connections :=
  { issued := []
    connected := []
    lsg := { keyStore := keyStore, authentications := ∅, recipients := ∅ } }

variable (aes : Aes256Cbc)

def admits (c : Connections) (message : SignIn) : Option ClientOpaqueAuthProof :=
  LsgHandler.admits aes message.keysNow message.now c.lsg.keyStore message.title message.authProof

def session (c : Connections) (id : SessionId) : BdSession :=
  { id := id, authentication := c.lsg.authentications.get id, peerAddr := none }

def step (c : Connections) : ConnectionEvent → Connections
  | .connect session =>
    if session ∈ c.issued then c
    else { c with issued := session :: c.issued, connected := session :: c.connected }
  | .keys call => { c with lsg := { c.lsg with keyStore := KeyStore.step c.lsg.keyStore call } }
  | .signIn message =>
    if message.session ∈ c.connected then
      { c with
        lsg := (exec (LsgHandler.authenticate aes message.keysNow message.now
          (c.session message.session) message.title message.authProof) c.lsg).2 }
    else c
  | .disconnect session =>
    -- the callbacks still see the session; it is dropped after them
    let lsg := c.lsg.unregister session
    { c with
      connected := c.connected.filter (· ≠ session)
      lsg := { lsg with authentications := lsg.authentications.remove session } }

def Current (c : Connections) : Prop :=
  ∀ user recipient, c.lsg.recipients.get user = some recipient →
    recipient.session ∈ c.connected
      ∧ ∃ authentication, c.lsg.authentications.get recipient.session = some authentication
        ∧ authentication.userId = user ∧ authentication.sessionKey = recipient.key

/-- A proof of one user does not take over a session by which the router reaches another. -/
def Settled (c : Connections) : ConnectionEvent → Prop
  | .signIn message =>
    message.session ∈ c.connected → ∀ proof, c.admits aes message = some proof →
      ∀ user recipient, c.lsg.recipients.get user = some recipient →
        recipient.session = message.session → user = proof.userId
  | _ => True

variable {aes}

theorem step_signIn (c : Connections) (message : SignIn) :
    step aes c (.signIn message) = c
      ∨ message.session ∈ c.connected ∧ ∃ proof, c.admits aes message = some proof
        ∧ step aes c (.signIn message) = { c with lsg := c.lsg.enroll message.session proof } := by
  rw [step]
  split
  next here =>
    cases admitted : c.admits aes message with
    | none =>
      obtain ⟨fault, ran⟩ := @LsgHandler.exec_authenticate_of_refused aes message.keysNow message.now
        (c.session message.session) message.title message.authProof c.lsg admitted
      left
      rw [ran]
    | some proof =>
      have ran := @LsgHandler.exec_authenticate_of_admits aes message.keysNow message.now
        (c.session message.session) message.title message.authProof c.lsg proof admitted
      right
      refine ⟨here, proof, rfl, ?_⟩
      rw [ran]
      rfl
  next away =>
    left
    rfl

theorem step_admitted {c : Connections} {message : SignIn} {proof : ClientOpaqueAuthProof}
    (here : message.session ∈ c.connected) (admitted : c.admits aes message = some proof) :
    step aes c (.signIn message) = { c with lsg := c.lsg.enroll message.session proof } := by
  have ran := @LsgHandler.exec_authenticate_of_admits aes message.keysNow message.now
    (c.session message.session) message.title message.authProof c.lsg proof admitted
  rw [step, if_pos here, ran]
  rfl

theorem get_unregister (world : LsgWorld) (session : SessionId) (user : UInt64)
    (recipient : Recipient) :
    (world.unregister session).recipients.get user = some recipient
      ↔ world.recipients.get user = some recipient ∧ recipient.session ≠ session := by
  rw [LsgWorld.unregister, Table.get_retain, Option.filter_eq_some_iff, decide_eq_true_eq]

theorem current_disconnect {c : Connections} (current : Current c) (session : SessionId) :
    Current (step aes c (.disconnect session)) := by
  intro user recipient found
  obtain ⟨entry, other⟩ := (get_unregister c.lsg session user recipient).mp found
  obtain ⟨connected, authentication, has, same⟩ := current user recipient entry
  constructor
  · exact List.mem_filter.mpr ⟨connected, decide_eq_true other⟩
  · refine ⟨authentication, ?_, same⟩
    exact (Table.get_remove_of_ne _ other).trans has

theorem current_connect {c : Connections} (current : Current c) (session : SessionId) :
    Current (step aes c (.connect session)) := by
  rw [step]
  split
  next => exact current
  next =>
    intro user recipient found
    obtain ⟨connected, has⟩ := current user recipient found
    exact ⟨List.mem_cons_of_mem _ connected, has⟩

theorem current_enroll_iff {c : Connections} (current : Current c) {session : SessionId}
    (here : session ∈ c.connected) (proof : ClientOpaqueAuthProof) :
    Current { c with lsg := c.lsg.enroll session proof }
      ↔ ∀ user recipient, c.lsg.recipients.get user = some recipient →
        recipient.session = session → user = proof.userId := by
  constructor
  · intro stays user recipient found same
    by_contra other
    have kept : (c.lsg.enroll session proof).recipients.get user = some recipient :=
      (Table.get_put_of_ne _ _ other).trans found
    obtain ⟨_, authentication, has, who, _⟩ := stays user recipient kept
    rw [same] at has
    have now : (c.lsg.enroll session proof).authentications.get session
        = some proof.authentication := Table.get_put_self _ _ _
    obtain rfl := Option.some.inj (now.symm.trans has)
    exact other who.symm
  · intro settled user recipient found
    have entry : (c.lsg.recipients.put proof.userId ⟨session, proof.sessionKey.toList⟩).get user
        = some recipient := found
    rw [Table.get_put] at entry
    split at entry
    next own =>
      obtain rfl := Option.some.inj entry
      exact ⟨here, proof.authentication, Table.get_put_self _ _ _, own.symm, rfl⟩
    next other =>
      obtain ⟨connected, authentication, has, same⟩ := current user recipient entry
      have apart : recipient.session ≠ session := fun own => other (settled user recipient entry own)
      exact ⟨connected, authentication, (Table.get_put_of_ne _ _ apart).trans has, same⟩

theorem current_step_iff {c : Connections} (current : Current c) (event : ConnectionEvent) :
    Current (step aes c event) ↔ Settled aes c event := by
  cases event with
  | connect session => exact iff_of_true (current_connect current session) trivial
  | keys call => exact iff_of_true current trivial
  | disconnect session => exact iff_of_true (current_disconnect current session) trivial
  | signIn message =>
    by_cases here : message.session ∈ c.connected
    next =>
      cases admitted : c.admits aes message with
      | none =>
        have unchanged : step aes c (.signIn message) = c := by
          rcases step_signIn c message with same | ⟨_, proof, other, _⟩
          · exact same
          · rw [admitted] at other
            cases other
        rw [unchanged]
        refine iff_of_true current fun _ proof other => ?_
        rw [admitted] at other
        cases other
      | some proof =>
        rw [step_admitted here admitted, current_enroll_iff current here]
        constructor
        · intro settled _ other found
          rw [admitted] at found
          obtain rfl := Option.some.inj found
          exact settled
        · intro settled
          exact settled here proof admitted
    next =>
      have unchanged : step aes c (.signIn message) = c := by rw [step, if_neg here]
      rw [unchanged]
      exact iff_of_true current fun connected => absurd connected here

theorem current_start (keyStore : KeyStore.InMemoryKeyState) : Current (start keyStore) := by
  intro user recipient found
  cases found

def Attached (c : Connections) : Prop :=
  ∀ user recipient, c.lsg.recipients.get user = some recipient → recipient.session ∈ c.connected

theorem attached_start (keyStore : KeyStore.InMemoryKeyState) : Attached (start keyStore) := by
  intro user recipient found
  cases found

theorem attached_step {c : Connections} (attached : Attached c) (event : ConnectionEvent) :
    Attached (step aes c event) := by
  cases event with
  | connect session =>
    rw [step]
    split
    next => exact attached
    next => exact fun user recipient found => List.mem_cons_of_mem _ (attached user recipient found)
  | keys call => exact attached
  | signIn message =>
    rcases @step_signIn aes c message with same | ⟨here, proof, _, enrolled⟩
    · rw [same]
      exact attached
    · rw [enrolled]
      intro user recipient found
      have entry : (c.lsg.recipients.put proof.userId ⟨message.session, proof.sessionKey.toList⟩).get
          user = some recipient := found
      rw [Table.get_put] at entry
      split at entry
      next =>
        obtain rfl := Option.some.inj entry
        exact here
      next => exact attached user recipient entry
  | disconnect session =>
    intro user recipient found
    obtain ⟨entry, other⟩ := (get_unregister c.lsg session user recipient).mp found
    exact List.mem_filter.mpr ⟨attached user recipient entry, decide_eq_true other⟩

/--
Every entry of the router is current throughout a run exactly when no proof of one
user ever takes over a session by which the router reaches another.
-/
theorem always_current_iff (aes : Aes256Cbc) (keyStore : KeyStore.InMemoryKeyState)
    (events : List ConnectionEvent) :
    Runs.Always (step aes) Current (start keyStore) events
      ↔ Runs.Meets (step aes) (Settled aes) (start keyStore) events :=
  @Runs.always_iff_meets _ _ _ (fun _ => True) Current (Settled aes) (fun _ _ _ _ _ => trivial)
    (fun _ event _ current => current_step_iff current event) _ _ trivial (current_start keyStore)

open Issuer

def proofOf (userId : UInt64) : ClientOpaqueAuthProof :=
  (DwAuth.httpTicket 1000 .t6Pc userId "player" playerKey).proof
    (1000 + DwAuth.ticketLifetimeSeconds)

def signInAs (session : SessionId) (userId : UInt64) : ConnectionEvent :=
  .signIn
    { session := session
      title := .t6Pc
      authProof := xorCipher.encrypt (ringKey 1) (proofOf userId).layout
      keysNow := 1000
      now := 1000 }

def takenOver : List ConnectionEvent :=
  [.keys (.current 1000 (ringKey 1)), .connect 1, signInAs 1 7, signInAs 1 8]

theorem takenOver_stale : ¬Runs.Always (step xorCipher) Current (start .new) takenOver := by
  intro always
  have current := Runs.always_iff_prefixes.mp always takenOver [] rfl
  have entry : (Runs.run (step xorCipher) (start .new) takenOver).lsg.recipients.get 7
      = some ⟨1, playerKey.toList⟩ := by decide +kernel
  have user : ((Runs.run (step xorCipher) (start .new) takenOver).lsg.authentications.get 1).map
      SessionAuthentication.userId = some 8 := by decide +kernel
  obtain ⟨_, authentication, has, who, _⟩ := current 7 _ entry
  rw [has, Option.map_some, who] at user
  exact absurd user (by decide)

end Connections

end BitDemon
