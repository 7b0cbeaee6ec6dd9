import BitDemon.Lobby.Handlers.Bandwidth
import BitDemon.Lobby.Handlers.ContentStreaming
import BitDemon.Lobby.Handlers.Counter
import BitDemon.Lobby.Handlers.Group
import BitDemon.Lobby.Handlers.League
import BitDemon.Lobby.Handlers.Lsg
import BitDemon.Lobby.Handlers.Matchmaking
import BitDemon.Lobby.Handlers.Messaging
import BitDemon.Lobby.Handlers.Profile
import BitDemon.Lobby.Handlers.RichPresence
import BitDemon.Lobby.Handlers.Storage

set_option autoImplicit false

/-!
# The lobby server

The server reads the service id in byte mode. The framing of the handler then
decides whether the rest of the message is read as bits.
-/

namespace BitDemon

open Machine BdReader

inductive LobbyServiceId where
  | teams | stats | matchMaking | messaging | lobbyService | profile | friends | storage
  | messaging2 | titleUtilities | keyArchive | performance | bandwidthTest | stats2 | matchmaking
  | stats3 | counter | dml | group | mail | twitch | youtube | twitter | facebook | anticheat
  | contentStreaming | tags | voteRank | linkCode | pooledStorage | subscription | eventLog
  | richPresence | league | league2
  deriving DecidableEq, Repr

namespace LobbyServiceId

def toU8 : LobbyServiceId → UInt8
  | .teams => 3
  | .stats => 4
  | .matchMaking => 5
  | .messaging => 6
  | .lobbyService => 7
  | .profile => 8
  | .friends => 9
  | .storage => 10
  | .messaging2 => 11
  | .titleUtilities => 12
  | .keyArchive => 15
  | .performance => 17
  | .bandwidthTest => 18
  | .stats2 => 19
  | .matchmaking => 21
  | .stats3 => 22
  | .counter => 23
  | .dml => 27
  | .group => 28
  | .mail => 29
  | .twitch => 31
  | .youtube => 33
  | .twitter => 35
  | .facebook => 36
  | .anticheat => 38
  | .contentStreaming => 50
  | .tags => 52
  | .voteRank => 55
  | .linkCode => 57
  | .pooledStorage => 58
  | .subscription => 66
  | .eventLog => 67
  | .richPresence => 68
  | .league => 81
  | .league2 => 82

def all : List LobbyServiceId :=
  [.teams, .stats, .matchMaking, .messaging, .lobbyService, .profile, .friends, .storage,
    .messaging2, .titleUtilities, .keyArchive, .performance, .bandwidthTest, .stats2,
    .matchmaking, .stats3, .counter, .dml, .group, .mail, .twitch, .youtube, .twitter, .facebook,
    .anticheat, .contentStreaming, .tags, .voteRank, .linkCode, .pooledStorage, .subscription,
    .eventLog, .richPresence, .league, .league2]

def fromU8 (value : UInt8) : Option LobbyServiceId :=
  all.find? fun serviceId => serviceId.toU8 == value

end LobbyServiceId

inductive Framing where
  | bitBuffer | bytes
  deriving DecidableEq, Repr

inductive LobbyHandler (ω : Type) where
  | bandwidth (endpoint : BandwidthTestServer ω)
  | contentStreaming (handler : ContentStreamingHandler ω)
  | counter (service : CounterService ω)
  | group (service : GroupService ω)
  | league
  | lsg (service : LsgService ω)
  | matchMaking (handler : MatchMakingHandler ω)
  | messaging (router : MessageRouter ω)
  | performance
  | profile (service : ProfileService ω)
  | richPresence (service : RichPresenceService ω)
  | storage (handler : StorageHandler ω)

structure LobbyServer (ω : Type) where
  lobbyHandlers : LobbyServiceId → Option (LobbyHandler ω)

variable {ω : Type}

namespace LobbyHandler

def framing : LobbyHandler ω → Framing
  | .bandwidth _ => .bytes
  | _ => .bitBuffer

def requiresAuthentication : LobbyHandler ω → Bool
  | .lsg _ => false
  | _ => true

-- every handler but that of authentications begins with the id of the task
def readTask (run : UInt8 → HandleM ω Reply) : HandleM ω Reply := do
  let taskIdValue ← perform readU8
  run taskIdValue

def answer (handler : LobbyHandler ω) (session : BdSession) : HandleM ω Reply :=
  match handler with
  | .bandwidth endpoint => do
    perform (setTypeChecked false)
    readTask (BandwidthHandler.handleTask endpoint session)
  | .contentStreaming handler => readTask (handler.handleTask session)
  | .counter service => readTask (CounterHandler.handleTask service session)
  | .group service => readTask (GroupHandler.handleTask service session)
  | .league => readTask LeagueHandler.handleTask
  | .lsg service => LsgHandler.answer service session
  | .matchMaking handler => readTask (handler.handleTask session)
  | .messaging router => readTask (MessagingHandler.handleTask router session)
  | .performance => readTask PerformanceHandler.handleTask
  | .profile service => readTask (ProfileHandler.handleTask service session)
  | .richPresence service => readTask (RichPresenceHandler.handleTask service session)
  | .storage handler => readTask (handler.handleTask session)

def handleMessage (handler : LobbyHandler ω) (session : BdSession) : HandleM ω BdResponse := do
  let reply ← handler.answer session
  respond reply

end LobbyHandler

namespace LobbyServer

def enterFraming (maybeHandler : Option (LobbyHandler ω)) : ReadM Unit :=
  if maybeHandler.map LobbyHandler.framing ≠ some .bytes then do
    setMode .bitMode
    readTypeCheckedBit
  else
    pure ()

def readServiceId : ReadM LobbyServiceId := do
  setTypeChecked false
  let serviceIdInput ← readU8
  okOr (LobbyServiceId.fromU8 serviceIdInput) (.illegalServiceId serviceIdInput)

def handleMessage (server : LobbyServer ω) (session : BdSession) : HandleM ω BdResponse := do
  let serviceId ← perform readServiceId
  let maybeHandler := server.lobbyHandlers serviceId
  perform (enterFraming maybeHandler)
  match maybeHandler with
  | some handler =>
    if handler.requiresAuthentication && session.authentication.isNone then
      let reply ← withOnlyErrorCode .accessDenied 0
      respond reply
    else
      handler.handleMessage session
  | none =>
    let reply ← withOnlyErrorCode .serviceNotAvailable 0
    respond reply

end LobbyServer

namespace LobbyHandler

def leadingValues (handler : LobbyHandler ω) (taskIdValue : UInt8) : Option (List ValueKind) :=
  match handler with
  | .contentStreaming _ => ContentStreamingHandler.leadingValues taskIdValue
  | .group _ => GroupHandler.leadingValues taskIdValue
  | .league => LeagueHandler.leadingValues taskIdValue
  | .profile _ => ProfileHandler.leadingValues taskIdValue
  | _ => none

-- an error when one of the values is malformed
def readLeading : Option (List ValueKind) → ReadM Bool
  | none => pure false
  | some kinds => do
    let _values ← readValues kinds
    pure true

def reachesByteRead (handler : LobbyHandler ω) : ReadM Bool :=
  match handler with
  | .lsg _ => pure false
  | _ => do
    let taskIdValue ← readU8
    readLeading (handler.leadingValues taskIdValue)

end LobbyHandler

namespace LobbyServer

def reachesByteRead (server : LobbyServer ω) (session : BdSession) : ReadM Bool := do
  let serviceId ← readServiceId
  match server.lobbyHandlers serviceId with
  | none => pure false
  | some handler =>
    if handler.framing = .bytes then pure false
    else if handler.requiresAuthentication && session.authentication.isNone then pure false
    else do
      setMode .bitMode
      readTypeCheckedBit
      handler.reachesByteRead

end LobbyServer

/-- Run on the message alone, `p` tells whether `m` asks for a mode in vain. -/
def Foretells {α : Type} (mode : StreamMode) (p : ReadM Bool) (m : HandleM ω α) : Prop :=
  ∀ s : Handling ω, s.reader.mode = mode → s.demanded = [] →
    ((exec m s).2.demanded ≠ [] ↔ (exec p s.reader).1 = .ok true)

section Foretells

variable {α β : Type} {mode : StreamMode}

theorem foretells_of_undisturbed {m : HandleM ω α} (quiet : Undisturbed mode m) :
    Foretells mode (pure false) m := by
  intro s inMode fresh
  have kept := (quiet s ⟨inMode, fresh⟩).1.2
  simp [kept]

theorem foretells_of_refusedAfter {leading : Option (List ValueKind)} {m : HandleM ω α}
    (refused : RefusedAfter leading m) :
    Foretells .bitMode (LobbyHandler.readLeading leading) m := by
  cases leading with
  | none => exact foretells_of_undisturbed refused
  | some kinds =>
    intro s inMode fresh
    refine (refused s inMode fresh).trans ?_
    rw [LobbyHandler.readLeading, exec_bind]
    rcases exec (readValues kinds) s.reader with ⟨outcome, r⟩
    cases outcome <;> simp

theorem foretells_tail {p : ReadM Bool} {m : HandleM ω α} {f : α → HandleM ω β}
    (told : Foretells mode p m) (silent : ∀ a s, (exec (f a) s).2.demanded = s.demanded) :
    Foretells mode p (m >>= f) := by
  intro s inMode fresh
  refine Iff.trans ?_ (told s inMode fresh)
  rw [exec_bind]
  rcases exec m s with ⟨outcome, t⟩
  cases outcome with
  | ok a => simp [silent a t]
  | error fault => simp

theorem foretells_perform {next : StreamMode} {m : ReadM α} {p : α → ReadM Bool}
    {f : α → HandleM ω β}
    (arrives : ∀ r a t, r.mode = mode → exec m r = (.ok a, t) → t.mode = next)
    (silent : ∀ r fault t, r.mode = mode → exec m r = (.error fault, t) →
      fault.demandedMode = none)
    (told : ∀ a, Foretells next (p a) (f a)) :
    Foretells mode (m >>= p) (perform m >>= f) := by
  intro s inMode fresh
  rcases ran : exec m s.reader with ⟨outcome, r⟩
  cases outcome with
  | ok a =>
    have went : exec (perform m) s = (.ok a, { s with reader := r }) := by
      rw [exec, perform, ran]
    rw [exec_bind_ok f went, exec_bind_ok p ran]
    exact told a { s with reader := r } (arrives _ _ _ inMode ran) fresh
  | error fault =>
    have stopped : exec (perform m) s = (.error fault, { s with reader := r }) := by
      rw [exec, perform, ran]
      simp [silent _ _ _ inMode ran]
    rw [exec_bind_error f stopped, exec_bind_error p ran]
    simp [fresh]

theorem foretells_bind {m : ReadM α} {p : α → ReadM Bool} {f : α → HandleM ω β}
    (safe : SafeIn mode m) (told : ∀ a, Foretells mode (p a) (f a)) :
    Foretells mode (m >>= p) (perform m >>= f) := by
  refine foretells_perform (fun r a t inMode ran => ?_) (fun r fault t inMode ran => ?_) told
  · have kept := (safe r inMode).1
    rwa [ran] at kept
  · have allowed := (safe r inMode).2
    rw [ran] at allowed
    exact allowed fault rfl

end Foretells

namespace LobbyHandler

theorem foretells_readTask (handler : LobbyHandler ω) {run : UInt8 → HandleM ω Reply}
    (refused : ∀ task, RefusedAfter (handler.leadingValues task) (run task)) :
    Foretells .bitMode
      (do
        let taskIdValue ← readU8
        readLeading (handler.leadingValues taskIdValue))
      (readTask run) :=
  foretells_bind safe_readU8 fun task => foretells_of_refusedAfter (refused task)

theorem foretells_answer (handler : LobbyHandler ω) (session : BdSession)
    (framed : handler.framing = .bitBuffer) :
    Foretells .bitMode handler.reachesByteRead (handler.answer session) := by
  cases handler with
  | bandwidth endpoint => cases framed
  | contentStreaming handler =>
    exact foretells_readTask (.contentStreaming handler) (handler.handleTask_refusedAfter session)
  | counter service =>
    exact foretells_readTask (.counter service) (CounterHandler.undisturbed_handleTask service session)
  | group service =>
    exact foretells_readTask (.group service) (GroupHandler.handleTask_refusedAfter service session)
  | league => exact foretells_readTask .league LeagueHandler.handleTask_refusedAfter
  | lsg service => exact foretells_of_undisturbed (LsgHandler.undisturbed_answer service session)
  | matchMaking handler =>
    exact foretells_readTask (.matchMaking handler) (handler.undisturbed_handleTask session)
  | messaging router =>
    exact foretells_readTask (.messaging router)
      (MessagingHandler.undisturbed_handleTask router session)
  | performance => exact foretells_readTask .performance PerformanceHandler.undisturbed_handleTask
  | profile service =>
    exact foretells_readTask (.profile service)
      (ProfileHandler.handleTask_refusedAfter service session)
  | richPresence service =>
    exact foretells_readTask (.richPresence service)
      (RichPresenceHandler.undisturbed_handleTask service session)
  | storage handler =>
    exact foretells_readTask (.storage handler) (handler.undisturbed_handleTask session)

theorem silent_respond (reply : Reply) (s : Handling ω) :
    (exec (respond reply : HandleM ω BdResponse) s).2.demanded = s.demanded := by
  rw [respond]
  split <;> rfl

theorem foretells_handleMessage (handler : LobbyHandler ω) (session : BdSession)
    (framed : handler.framing = .bitBuffer) :
    Foretells .bitMode handler.reachesByteRead (handler.handleMessage session) :=
  foretells_tail (handler.foretells_answer session framed) silent_respond

theorem undisturbed_handleMessage_bytes (handler : LobbyHandler ω) (session : BdSession)
    (framed : handler.framing = .bytes) :
    Undisturbed .byteMode (handler.handleMessage session) := by
  cases handler with
  | bandwidth endpoint =>
    have answered : Undisturbed .byteMode (LobbyHandler.answer (.bandwidth endpoint) session) := by
      refine keeps_bind (undisturbed_perform (safe_setTypeChecked false)) fun _ => ?_
      exact keeps_bind (undisturbed_perform safe_readU8) fun task =>
        BandwidthHandler.undisturbed_handleTask endpoint session task
    exact keeps_bind answered fun reply => undisturbed_respond reply
  | _ => cases framed

end LobbyHandler

namespace LobbyServer

theorem safe_readServiceId : SafeIn .byteMode readServiceId :=
  keeps_bind (safe_setTypeChecked false) fun _ =>
    keeps_bind safe_readU8 fun _ => safe_okOr _ rfl

theorem exec_enterFraming_mode {maybeHandler : Option (LobbyHandler ω)}
    (framed : maybeHandler.map LobbyHandler.framing ≠ some .bytes) (r : BdReader) :
    exec (enterFraming maybeHandler) r
      = exec readTypeCheckedBit { r with mode := .bitMode } := by
  rw [enterFraming, if_pos framed]
  rfl

theorem undisturbed_deny {mode : StreamMode} (errorCode : BdErrorCode) :
    Undisturbed mode (do
      let reply ← withOnlyErrorCode errorCode 0
      respond reply : HandleM ω BdResponse) :=
  keeps_bind (undisturbed_withOnlyErrorCode _ _) fun reply => undisturbed_respond reply

theorem foretells_enterFraming {α : Type} {maybeHandler : Option (LobbyHandler ω)}
    {p : ReadM Bool} {m : HandleM ω α}
    (framed : maybeHandler.map LobbyHandler.framing ≠ some .bytes)
    (told : Foretells .bitMode p m) :
    Foretells .byteMode (enterFraming maybeHandler >>= fun _ => p)
      (perform (enterFraming maybeHandler) >>= fun _ => m) := by
  refine foretells_perform (fun r a t _ ran => ?_) (fun r fault t _ ran => ?_) fun _ => told
  · have kept := (safe_readTypeCheckedBit { r with mode := .bitMode } rfl).1
    rw [exec_enterFraming_mode framed] at ran
    rwa [ran] at kept
  · have allowed := (safe_readTypeCheckedBit { r with mode := .bitMode } rfl).2
    rw [exec_enterFraming_mode framed] at ran
    rw [ran] at allowed
    exact allowed fault rfl

theorem foretells_never {α : Type} {mode : StreamMode} {p : ReadM Bool} {m : HandleM ω α}
    (told : Foretells mode p m) (never : ∀ r, (exec p r).1 ≠ .ok true) :
    Foretells mode (pure false) m := by
  intro s inMode fresh
  refine (told s inMode fresh).trans ?_
  simp [never]

theorem foretells_denied {maybeHandler : Option (LobbyHandler ω)} (errorCode : BdErrorCode)
    (framed : maybeHandler.map LobbyHandler.framing ≠ some .bytes) :
    Foretells .byteMode (pure false) (do
      perform (enterFraming maybeHandler)
      let reply ← withOnlyErrorCode errorCode 0
      respond reply : HandleM ω BdResponse) := by
  have told := foretells_enterFraming framed (foretells_of_undisturbed (undisturbed_deny errorCode))
  refine foretells_never told fun r => ?_
  rw [exec_bind]
  rcases exec (enterFraming maybeHandler) r with ⟨outcome, t⟩
  cases outcome <;> simp

theorem foretells_bytes (handler : LobbyHandler ω) (session : BdSession)
    (framed : handler.framing = .bytes) :
    Foretells .byteMode (pure false) (do
      perform (enterFraming (some handler))
      if handler.requiresAuthentication && session.authentication.isNone then
        let reply ← withOnlyErrorCode .accessDenied 0
        respond reply
      else
        handler.handleMessage session : HandleM ω BdResponse) := by
  have stays : SafeIn .byteMode (enterFraming (some handler)) := by
    rw [enterFraming, if_neg (by simp [framed])]
    exact keeps_pure ()
  refine foretells_of_undisturbed (keeps_bind (undisturbed_perform stays) fun _ => ?_)
  exact keeps_ite (fun _ => undisturbed_deny _) fun _ =>
    handler.undisturbed_handleMessage_bytes session framed

theorem foretells_dispatch (handler : LobbyHandler ω) (session : BdSession)
    (framed : handler.framing = .bitBuffer) :
    Foretells .byteMode
      (do
        setMode .bitMode
        readTypeCheckedBit
        handler.reachesByteRead)
      (do
        perform (enterFraming (some handler))
        handler.handleMessage session) := by
  have bits : (some handler).map LobbyHandler.framing ≠ some .bytes := by simp [framed]
  have told := foretells_enterFraming bits (handler.foretells_handleMessage session framed)
  have entered : (enterFraming (some handler) >>= fun _ => handler.reachesByteRead) = (do
      setMode .bitMode
      readTypeCheckedBit
      handler.reachesByteRead) := by
    rw [enterFraming, if_pos bits, bind_assoc]
  rwa [entered] at told

theorem foretells_server (server : LobbyServer ω) (session : BdSession) :
    Foretells .byteMode (server.reachesByteRead session) (server.handleMessage session) := by
  refine foretells_bind safe_readServiceId fun serviceId => ?_
  cases server.lobbyHandlers serviceId with
  | none => exact foretells_denied _ (by simp)
  | some handler =>
    dsimp only
    cases framed : handler.framing with
    | bytes => exact foretells_bytes handler session framed
    | bitBuffer =>
      rw [if_neg (by simp)]
      split
      next denied => exact foretells_denied _ (by simp [framed])
      next allowed => exact foretells_dispatch handler session framed

def received (body : List UInt8) (counter : UInt64) (world : ω) : Handling ω :=
  { reader := BdReader.new body, demanded := [], transactionIdCounter := counter, world := world }

/-- No read is refused unless the request reaches a read that demands byte mode. -/
theorem demanded_nil_iff (server : LobbyServer ω) (session : BdSession) (body : List UInt8)
    (counter : UInt64) (world : ω) :
    (exec (server.handleMessage session) (received body counter world)).2.demanded = []
      ↔ (exec (server.reachesByteRead session) (BdReader.new body)).1 ≠ .ok true := by
  have told := foretells_server server session (received body counter world) rfl rfl
  rw [← not_iff_not, not_not]
  exact told

def emptyGroups : GroupService Unit :=
  { setGroups := fun _ _ => pure (), getGroupCounts := fun _ _ => pure [] }

def groupServer : LobbyServer Unit :=
  { lobbyHandlers := fun serviceId => if serviceId = .group then some (.group emptyGroups) else none }

def player : BdSession :=
  { id := 1, authentication := some ⟨7, "player", [], .t6Pc⟩, peerAddr := none }

theorem setGroups_refused :
    (exec (groupServer.handleMessage player) (received [28, 2, 0] 0 ())).2.demanded
      = [.byteMode] := by
  decide

end LobbyServer

end BitDemon
