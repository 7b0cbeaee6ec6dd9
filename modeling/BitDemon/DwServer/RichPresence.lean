import BitDemon.DwServer.Connections
import BitDemon.Lobby.Handlers.RichPresence

set_option autoImplicit false

/-!
# The rich presence service

What a user has set is kept with the session that set it. The end of a connection
removes it, under the user that the session is authenticated as by then.
-/

namespace BitDemon

open Machine

structure DwRichPresenceService where
  richPresences : Table UInt64 (SessionId × List UInt8)

namespace DwRichPresenceService

def maxRichPresenceSize : Nat := 1024

def maxUserRichPresenceCount : Nat := 64

def new : DwRichPresenceService := { richPresences := ∅ }

def setInfo (session : BdSession) (userId : UInt64) (richPresenceData : List UInt8) :
    Fallible DwRichPresenceService (Except RichPresenceServiceError Unit) := do
  let authentication ← unwrap session.authentication
  if authentication.userId ≠ userId then
    pure (.error .permissionDeniedError)
  else if maxRichPresenceSize < richPresenceData.length then
    pure (.error .richPresenceDataTooLargeError)
  else do
    modify fun service =>
      { service with
        richPresences := service.richPresences.put userId (session.id, richPresenceData) }
    pure (.ok ())

def getInfo (_session : BdSession) (users : List UInt64) :
    Fallible DwRichPresenceService
      (Except RichPresenceServiceError (List (Option (List UInt8)))) := do
  if maxUserRichPresenceCount < users.length then
    pure (.error .tooManyUsersError)
  else do
    let service ← get
    pure (.ok (users.map fun user => (service.richPresences.get user).map Prod.snd))

def service : RichPresenceService DwRichPresenceService := { setInfo := setInfo, getInfo := getInfo }

def removeRichPresenceForDisconnect (userId : UInt64) (sessionId : SessionId)
    (service : DwRichPresenceService) : DwRichPresenceService :=
  if (service.richPresences.get userId).map Prod.fst = some sessionId then
    { service with richPresences := service.richPresences.remove userId }
  else
    service

-- the callback of `register_session_manager_callbacks`
def sessionUnregistered (session : BdSession) (service : DwRichPresenceService) :
    DwRichPresenceService :=
  match session.authentication with
  | some authentication =>
    removeRichPresenceForDisconnect authentication.userId session.id service
  | none => service

inductive Event where
  | connection (event : ConnectionEvent)
  | setInfo (session : SessionId) (userId : UInt64) (richPresenceData : List UInt8)

structure State where
  connections : Connections
  presence : DwRichPresenceService

def start (keyStore : KeyStore.InMemoryKeyState) : State :=
  { connections := .start keyStore, presence := new }

variable (aes : Aes256Cbc)

def step (s : State) : Event → State
  | .connection event =>
    { connections := s.connections.step aes event
      presence :=
        match event with
        | .disconnect session =>
          if session ∈ s.connections.connected then
            sessionUnregistered (s.connections.session session) s.presence
          else s.presence
        | _ => s.presence }
  | .setInfo session userId richPresenceData =>
    if session ∈ s.connections.connected then
      { s with
        presence := (exec (DwRichPresenceService.setInfo (s.connections.session session) userId
          richPresenceData) s.presence).2 }
    else s

def Live (s : State) : Prop :=
  ∀ user owner data, s.presence.richPresences.get user = some (owner, data) →
    owner ∈ s.connections.connected

def Faithful (s : State) : Event → Prop
  | .connection (.disconnect session) =>
    session ∈ s.connections.connected → ∀ user data,
      s.presence.richPresences.get user = some (session, data) →
        (s.connections.lsg.authentications.get session).map SessionAuthentication.userId
          = some user
  | _ => True

def Spared (before after : State) (session : SessionId) : Prop :=
  ∀ user owner data, owner ≠ session →
    before.presence.richPresences.get user = some (owner, data) →
    after.presence.richPresences.get user = some (owner, data)

variable {aes}

theorem get_sessionUnregistered (session : BdSession) (service : DwRichPresenceService)
    (user : UInt64) (owner : SessionId) (data : List UInt8) :
    (sessionUnregistered session service).richPresences.get user = some (owner, data)
      ↔ service.richPresences.get user = some (owner, data)
        ∧ (owner = session.id →
          session.authentication.map SessionAuthentication.userId ≠ some user) := by
  rw [sessionUnregistered]
  cases session.authentication with
  | none => simp
  | some authentication =>
    dsimp only
    rw [removeRichPresenceForDisconnect, Option.map_some]
    by_cases own : (service.richPresences.get authentication.userId).map Prod.fst
        = some session.id
    next =>
      rw [if_pos own, Table.get_remove]
      by_cases same : user = authentication.userId
      next =>
        subst same
        rw [if_pos rfl]
        refine iff_of_false (by simp) ?_
        rintro ⟨found, other⟩
        rw [found, Option.map_some] at own
        exact other (Option.some.inj own) rfl
      next =>
        rw [if_neg same]
        refine (and_iff_left fun _ who => same ?_).symm
        exact (Option.some.inj who).symm
    next =>
      rw [if_neg own]
      refine (and_iff_left_of_imp fun found isOwn who => own ?_).symm
      rw [Option.some.inj who, found, isOwn]
      rfl

theorem exec_setInfo (session : BdSession) (userId : UInt64) (richPresenceData : List UInt8)
    (service : DwRichPresenceService) :
    (exec (setInfo session userId richPresenceData) service).2 = service
      ∨ (exec (setInfo session userId richPresenceData) service).2
        = { service with
            richPresences := service.richPresences.put userId (session.id, richPresenceData) } := by
  rw [setInfo]
  cases session.authentication with
  | none => exact .inl rfl
  | some authentication =>
    have unwrapped : exec (unwrap (some authentication)) service = (.ok authentication, service) :=
      rfl
    rw [exec_bind_ok _ unwrapped]
    split
    next => exact .inl rfl
    next =>
      split
      next => exact .inl rfl
      next => exact .inr rfl

theorem spared_disconnect (s : State) (session : SessionId) :
    Spared s (step aes s (.connection (.disconnect session))) session := by
  intro user owner data other found
  rw [step]
  dsimp only
  split
  next =>
    refine (get_sessionUnregistered _ _ _ _ _).mpr ⟨found, fun own => ?_⟩
    exact absurd own other
  next => exact found

theorem live_disconnect_iff {s : State} (live : Live s) (session : SessionId) :
    Live (step aes s (.connection (.disconnect session)))
      ↔ Faithful s (.connection (.disconnect session)) := by
  rw [Faithful]
  by_cases here : session ∈ s.connections.connected
  next =>
    have gone : session ∉ (step aes s (.connection (.disconnect session))).connections.connected :=
      fun member => of_decide_eq_true (List.mem_filter.mp member).2 rfl
    have presence : (step aes s (.connection (.disconnect session))).presence
        = sessionUnregistered (s.connections.session session) s.presence := by
      rw [step]
      exact if_pos here
    constructor
    · intro stays _ user data found
      by_contra other
      refine gone (stays user session data ?_)
      rw [presence]
      exact (get_sessionUnregistered _ _ _ _ _).mpr ⟨found, fun _ => other⟩
    · intro faithful user owner data found
      rw [presence] at found
      obtain ⟨entry, kept⟩ := (get_sessionUnregistered _ _ _ _ _).mp found
      have other : owner ≠ session := by
        rintro rfl
        exact kept rfl (faithful here user data entry)
      exact List.mem_filter.mpr ⟨live user owner data entry, decide_eq_true other⟩
  next =>
    refine iff_of_true ?_ fun connected => absurd connected here
    intro user owner data found
    have entry : s.presence.richPresences.get user = some (owner, data) := by
      rw [step] at found
      dsimp only at found
      rwa [if_neg here] at found
    have connected := live user owner data entry
    have other : owner ≠ session := by
      rintro rfl
      exact here connected
    exact List.mem_filter.mpr ⟨connected, decide_eq_true other⟩

theorem connected_signIn (c : Connections) (message : SignIn) :
    (c.step aes (.signIn message)).connected = c.connected := by
  rw [Connections.step]
  split <;> rfl

theorem connected_connect (c : Connections) (session : SessionId) :
    c.connected ⊆ (c.step aes (.connect session)).connected := by
  rw [Connections.step]
  split
  next => exact List.Subset.refl _
  next => exact List.subset_cons_self _ _

theorem live_setInfo {s : State} (live : Live s) (session : SessionId) (userId : UInt64)
    (richPresenceData : List UInt8) :
    Live (step aes s (.setInfo session userId richPresenceData)) := by
  rw [step]
  split
  next here =>
    rcases exec_setInfo (s.connections.session session) userId richPresenceData s.presence with
      same | put
    · rw [same]
      exact live
    · rw [put]
      intro user owner data found
      have entry : (s.presence.richPresences.put userId (session, richPresenceData)).get user
          = some (owner, data) := found
      rw [Table.get_put] at entry
      split at entry
      next own =>
        obtain ⟨rfl, rfl⟩ := Prod.mk.inj (Option.some.inj entry)
        exact here
      next other => exact live user owner data entry
  next => exact live

theorem live_step_iff {s : State} (live : Live s) (event : Event) :
    Live (step aes s event) ↔ Faithful s event := by
  cases event with
  | setInfo session userId richPresenceData =>
    exact iff_of_true (live_setInfo live session userId richPresenceData) trivial
  | connection event =>
    cases event with
    | disconnect session => exact live_disconnect_iff live session
    | keys call => exact iff_of_true live trivial
    | connect session =>
      refine iff_of_true ?_ trivial
      intro user owner data found
      exact @connected_connect aes s.connections session _ (live user owner data found)
    | signIn message =>
      refine iff_of_true ?_ trivial
      intro user owner data found
      have connected := live user owner data found
      rwa [← @connected_signIn aes s.connections message] at connected

theorem live_start (keyStore : KeyStore.InMemoryKeyState) : Live (start keyStore) := by
  intro user owner data found
  cases found

/--
Presence never outlives its connection, nor is it removed by another one's end, exactly
in the runs in which every connection has set presence only under the user that it is
authenticated as when it ends.
-/
theorem presence_live_iff (aes : Aes256Cbc) (keyStore : KeyStore.InMemoryKeyState)
    (events : List Event) :
    (Runs.Always (step aes) Live (start keyStore) events
        ∧ ∀ first session rest, events = first ++ .connection (.disconnect session) :: rest →
          Spared (Runs.run (step aes) (start keyStore) first)
            (Runs.run (step aes) (start keyStore) (first ++ [.connection (.disconnect session)]))
            session)
      ↔ Runs.Meets (step aes) Faithful (start keyStore) events := by
  have always : Runs.Always (step aes) Live (start keyStore) events
      ↔ Runs.Meets (step aes) Faithful (start keyStore) events :=
    @Runs.always_iff_meets _ _ _ (fun _ => True) Live Faithful (fun _ _ _ _ _ => trivial)
      (fun _ event _ live => live_step_iff live event) _ _ trivial (live_start keyStore)
  refine (and_iff_left fun first session rest _ => ?_).trans always
  rw [Runs.run_append]
  exact spared_disconnect _ session

open Issuer Connections

def leftBehind : List Event :=
  [.connection (.keys (.current 1000 (ringKey 1))), .connection (.connect 1),
    .connection (signInAs 1 7), .setInfo 1 7 [1], .connection (signInAs 1 8),
    .connection (.disconnect 1)]

theorem leftBehind_stays : ¬Runs.Always (step xorCipher) Live (start .new) leftBehind := by
  intro always
  have live := Runs.always_iff_prefixes.mp always leftBehind [] rfl
  have entry : (Runs.run (step xorCipher) (start .new) leftBehind).presence.richPresences.get 7
      = some (1, [1]) := by decide +kernel
  have gone : (Runs.run (step xorCipher) (start .new) leftBehind).connections.connected = [] := by
    decide +kernel
  have connected := live 7 1 [1] entry
  rw [gone] at connected
  cases connected

end DwRichPresenceService

end BitDemon
