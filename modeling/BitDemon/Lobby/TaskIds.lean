import BitDemon.Lobby.Handlers.Serviceless
import BitDemon.Lobby.Server

set_option autoImplicit false

/-!
# The task a reply names

A handler writes the id of the task into its reply at every place where it
returns.
-/

namespace BitDemon

open Machine BdReader

/-- The handlers of the lobby, those without a service included. -/
inductive ServiceHandler (ω : Type) where
  | lobby (handler : LobbyHandler ω)
  | antiCheat
  | dml
  | eventLog
  | keyArchive
  | titleUtilities (now : Fallible ω Int64)
  | twitch
  | voteRank
  | youtube

-- `none` for the replies outside the task format
def Reply.operationId : Reply → Option UInt8
  | .task reply => some reply.operationId
  | .lsgTask _ => none
  | .connectionId _ => none

def ServiceReply.operationId : ServiceReply → Option UInt8
  | .lobby reply => reply.operationId
  | .fixed reply => some reply.operationId

variable {ω : Type}

namespace ServiceHandler

def readTask (run : UInt8 → HandleM ω ServiceReply) : HandleM ω ServiceReply := do
  let taskIdValue ← perform readU8
  run taskIdValue

def answer (handler : ServiceHandler ω) (session : BdSession) : HandleM ω ServiceReply :=
  match handler with
  | .lobby handler => do
    let reply ← handler.answer session
    pure (.lobby reply)
  | .antiCheat => readTask AntiCheatHandler.handleTask
  | .dml => readTask DmlHandler.handleTask
  | .eventLog => readTask EventLogHandler.handleTask
  | .keyArchive => readTask KeyArchiveHandler.handleTask
  | .titleUtilities now => readTask (TitleUtilitiesHandler.handleTask now)
  | .twitch => readTask TwitchHandler.handleTask
  | .voteRank => readTask VoteRankHandler.handleTask
  | .youtube => readTask YoutubeHandler.handleTask

def send (reply : ServiceReply) : HandleM ω BdResponse :=
  match reply.toResponse with
  | .ok response => pure response
  | .error fault => throw fault

def handleMessage (handler : ServiceHandler ω) (session : BdSession) : HandleM ω BdResponse := do
  let reply ← handler.answer session
  send reply

theorem handleMessage_lobby (handler : LobbyHandler ω) (session : BdSession) :
    (lobby handler).handleMessage session = handler.handleMessage session := by
  rw [handleMessage, LobbyHandler.handleMessage, answer, bind_assoc]
  rfl

def readTaskId : ServiceHandler ω → ReadM UInt8
  | .lobby (.bandwidth _) => do
    setTypeChecked false
    readU8
  | _ => readU8

def unknownOperation (rest : BdReader) : Option UInt8 :=
  match (exec readU8 rest).1 with
  | .ok operation => if operation = 0 ∨ operation = 1 then none else some operation
  | .error _ => none

def wrongId (handler : ServiceHandler ω) (taskIdValue : UInt8) (rest : BdReader) : Option UInt8 :=
  match handler with
  | .lobby (.profile _) => if taskIdValue = 2 then some 1 else none
  | .lobby (.bandwidth _) => if taskIdValue = 1 then unknownOperation rest else none
  | .dml => if taskIdValue = 3 then some 2 else none
  | .eventLog => if taskIdValue = 5 then some 3 else none
  | .keyArchive => if taskIdValue = 4 then some 3 else none
  | .twitch => if taskIdValue = 2 then some 1 else none
  | .voteRank => if taskIdValue = 2 then some 1 else none
  | _ => none

def Answers (handler : ServiceHandler ω) (session : BdSession) (h : Handling ω)
    (operationId : UInt8) : Prop :=
  ∃ response reply, (exec (handler.handleMessage session) h).1 = .ok response
    ∧ (exec (handler.answer session) h).1 = .ok reply ∧ reply.toResponse = .ok response
    ∧ reply.operationId = some operationId

theorem reply_of_response {handler : ServiceHandler ω} {session : BdSession} {h : Handling ω}
    {response : BdResponse} (returned : (exec (handler.handleMessage session) h).1 = .ok response) :
    ∃ reply, (exec (handler.answer session) h).1 = .ok reply ∧ reply.toResponse = .ok response := by
  rw [handleMessage, exec_bind] at returned
  rcases ran : exec (handler.answer session) h with ⟨_ | reply, t⟩
  next =>
    rw [ran] at returned
    cases returned
  next =>
    rw [ran] at returned
    refine ⟨reply, rfl, ?_⟩
    dsimp only at returned
    rw [send] at returned
    split at returned
    next sent => rw [sent, Except.ok.inj returned]
    next => cases returned

theorem answers_of_ran {handler : ServiceHandler ω} {session : BdSession} {h : Handling ω}
    {operationId : UInt8}
    (returned : (exec (handler.handleMessage session) h).1.toOption.isSome = true)
    (named : (exec (handler.answer session) h).1.toOption.bind ServiceReply.operationId
      = some operationId) : handler.Answers session h operationId := by
  rcases ended : (exec (handler.handleMessage session) h).1 with _ | response
  next =>
    rw [ended] at returned
    cases returned
  next =>
    obtain ⟨reply, ran, sent⟩ := reply_of_response ended
    rw [ran] at named
    exact ⟨response, reply, ended, ran, sent, named⟩

end ServiceHandler

section Names

variable {ρ α : Type} {named : ρ → Option UInt8} {operationId : UInt8}

abbrev Names (named : ρ → Option UInt8) (operationId : UInt8) (m : HandleM ω ρ) : Prop :=
  Yields (fun _ => True) (fun _ => True) (fun reply => ∀ sent, named reply = some sent →
    sent = operationId) m

theorem names_bind {m : HandleM ω α} {f : α → HandleM ω ρ}
    (next : ∀ a, Names named operationId (f a)) : Names named operationId (m >>= f) :=
  yields_bind (yields_any m) fun a _ => next a

theorem names_nothing {reply : ρ} (other : named reply = none) :
    Names named operationId (pure reply : HandleM ω ρ) :=
  yields_pure fun sent same => by
    rw [other] at same
    cases same

theorem names_withOnlyErrorCode (errorCode : BdErrorCode) (operationId : UInt8) :
    Names Reply.operationId operationId (withOnlyErrorCode errorCode operationId : HandleM ω Reply) :=
  names_bind fun _ => yields_pure fun _ same => (Option.some.inj same).symm

theorem names_withResults (operationId : UInt8) (results : List TaskResult) :
    Names Reply.operationId operationId (withResults operationId results : HandleM ω Reply) :=
  names_bind fun _ => yields_pure fun _ same => (Option.some.inj same).symm

theorem names_withSingleResult (operationId : UInt8) (result : TaskResult) :
    Names Reply.operationId operationId (withSingleResult operationId result : HandleM ω Reply) :=
  names_bind fun _ => yields_pure fun _ same => (Option.some.inj same).symm

theorem names_answerOnly (errorCode : BdErrorCode) (operationId : UInt8) :
    Names ServiceReply.operationId operationId
      (answerOnly errorCode operationId : HandleM ω ServiceReply) :=
  yields_bind (names_withOnlyErrorCode errorCode operationId) fun _ names => yields_pure names

theorem names_answerWith (operationId : UInt8) (results : List FixedResult) :
    Names ServiceReply.operationId operationId
      (answerWith operationId results : HandleM ω ServiceReply) :=
  names_bind fun _ => yields_pure fun _ same => (Option.some.inj same).symm

theorem toU8_of_find {τ : Type} {all : List τ} {toU8 : τ → UInt8} {value : UInt8} {task : τ}
    (known : all.find? (fun taskId => toU8 taskId == value) = some task) : toU8 task = value := by
  simpa using List.find?_some known

end Names

section Lobby

open Reply (operationId)

variable (session : BdSession) (taskIdValue : UInt8)

theorem CounterHandler.names_handleTask (service : CounterService ω) :
    Names operationId taskIdValue (handleTask service session taskIdValue) := by
  rw [handleTask]
  cases known : CounterTaskId.fromU8 taskIdValue with
  | none => exact names_withOnlyErrorCode _ _
  | some task =>
    obtain rfl := toU8_of_find known
    cases task with
    | incrementCounters => exact names_bind fun _ => names_bind fun _ => names_withOnlyErrorCode _ _
    | getCounterTotals => exact names_bind fun _ => names_bind fun _ => names_withResults _ _

theorem GroupHandler.names_handleTask (service : GroupService ω) :
    Names operationId taskIdValue (handleTask service session taskIdValue) := by
  rw [handleTask]
  cases known : GroupTaskId.fromU8 taskIdValue with
  | none => exact names_withOnlyErrorCode _ _
  | some task =>
    obtain rfl := toU8_of_find known
    cases task with
    | setGroups => exact names_bind fun _ => names_bind fun _ => names_withOnlyErrorCode _ _
    | getGroupCounts =>
      exact names_bind fun _ => names_bind fun _ => names_bind fun _ => names_withResults _ _
    | setGroupsForEntity => exact names_withOnlyErrorCode _ _
    | getEntityGroups => exact names_withOnlyErrorCode _ _

theorem LeagueHandler.names_readIdsOnly (taskId : LeagueTaskId) :
    Names operationId taskId.toU8 (readIdsOnly taskId : HandleM ω Reply) :=
  names_bind fun _ => names_withOnlyErrorCode _ _

theorem LeagueHandler.names_handleTask :
    Names operationId taskIdValue (handleTask taskIdValue : HandleM ω Reply) := by
  rw [handleTask]
  cases known : LeagueTaskId.fromU8 taskIdValue with
  | none => exact names_withOnlyErrorCode _ _
  | some task =>
    obtain rfl := toU8_of_find known
    cases task with
    | getTeamId => exact names_readIdsOnly _
    | getTeamInfos => exact names_readIdsOnly _
    | getTeamMemberInfos => exact names_readIdsOnly _
    | getTeamSubdivisionInfos => exact names_readIdsOnly _
    | getTeamIDsForUser =>
      exact names_bind fun _ => names_bind fun _ => names_bind fun _ => names_bind fun _ =>
        names_bind fun _ => names_withOnlyErrorCode _ _
    | getTeamSubdivisions =>
      exact names_bind fun _ => names_bind fun _ => names_withOnlyErrorCode _ _
    | setTeamName => exact names_bind fun _ => names_bind fun _ => names_withOnlyErrorCode _ _
    | getTeamSubdivisionHistory =>
      exact names_bind fun _ => names_bind fun _ => names_bind fun _ => names_withOnlyErrorCode _ _

theorem MatchMakingHandler.names_handleTask (handler : MatchMakingHandler ω) :
    Names operationId taskIdValue (handler.handleTask session taskIdValue) := by
  refine names_bind fun _ => ?_
  cases known : MatchMakingTaskId.fromU8 taskIdValue with
  | none => exact names_withOnlyErrorCode _ _
  | some task =>
    obtain rfl := toU8_of_find known
    cases task with
    | createSession => exact names_bind fun _ => names_bind fun _ => names_withResults _ _
    | updateSession =>
      exact names_bind fun _ => names_bind fun _ => names_bind fun _ => names_withOnlyErrorCode _ _
    | deleteSession => exact names_bind fun _ => names_bind fun _ => names_withOnlyErrorCode _ _
    | findSessions =>
      exact names_bind fun _ => names_bind fun _ => names_bind fun _ => names_withResults _ _

theorem MessagingHandler.names_handleTask (router : MessageRouter ω) :
    Names operationId taskIdValue (handleTask router session taskIdValue) := by
  refine names_bind fun _ => ?_
  cases known : MessagingTaskId.fromU8 taskIdValue with
  | none => exact names_withOnlyErrorCode _ _
  | some task =>
    obtain rfl := toU8_of_find known
    cases task
    exact names_bind fun _ => names_bind fun _ => names_bind fun _ => names_bind fun _ =>
      names_bind fun _ => names_bind fun _ => names_bind fun _ => names_withOnlyErrorCode _ _

theorem PerformanceHandler.names_handleTask :
    Names operationId taskIdValue (handleTask taskIdValue : HandleM ω Reply) := by
  rw [handleTask]
  cases known : PerformanceTaskId.fromU8 taskIdValue with
  | none => exact names_withOnlyErrorCode _ _
  | some task =>
    obtain rfl := toU8_of_find known
    cases task with
    | reportInfo => exact names_bind fun _ => names_bind fun _ => names_withOnlyErrorCode _ _
    | reportPlayers => exact names_bind fun _ => names_bind fun _ => names_withResults _ _

theorem RichPresenceHandler.names_handleRichPresenceError (code : RichPresenceServiceError)
    (taskId : RichPresenceTaskId) :
    Names operationId taskId.toU8 (handleRichPresenceError code taskId : HandleM ω Reply) := by
  cases code <;> exact names_withOnlyErrorCode _ _

theorem RichPresenceHandler.names_handleTask (service : RichPresenceService ω) :
    Names operationId taskIdValue (handleTask service session taskIdValue) := by
  rw [handleTask]
  cases known : RichPresenceTaskId.fromU8 taskIdValue with
  | none => exact names_withOnlyErrorCode _ _
  | some task =>
    obtain rfl := toU8_of_find known
    cases task with
    | setInfo =>
      refine names_bind fun _ => names_bind fun _ => names_bind fun _ => names_bind fun result => ?_
      cases result with
      | ok _ => exact names_withOnlyErrorCode _ _
      | error code => exact names_handleRichPresenceError code .setInfo
    | getInfo =>
      refine names_bind fun _ => names_bind fun result => ?_
      cases result with
      | ok presences => exact names_withResults _ _
      | error code => exact names_handleRichPresenceError code .getInfo

theorem StorageHandler.names_answerForFileInfos (taskId : StorageTaskId)
    (result : Except StorageServiceError (List StorageFileInfo)) :
    Names operationId taskId.toU8 (answerForFileInfos taskId result : HandleM ω Reply) := by
  cases result with
  | ok infos => exact names_withResults _ _
  | error error => exact names_withOnlyErrorCode _ _

theorem StorageHandler.names_handleTask (handler : StorageHandler ω) :
    Names operationId taskIdValue (handler.handleTask session taskIdValue) := by
  refine names_bind fun _ => ?_
  cases known : StorageTaskId.fromU8 taskIdValue with
  | none => exact names_withOnlyErrorCode _ _
  | some task =>
    obtain rfl := toU8_of_find known
    cases task with
    | createFile =>
      refine names_bind fun _ => names_bind fun _ => names_bind fun _ => names_bind fun _ =>
        names_bind fun _ => names_bind fun result => ?_
      cases result with
      | ok info => exact names_withSingleResult _ _
      | error error => exact names_withOnlyErrorCode _ _
    | updateFileById =>
      refine names_bind fun _ => names_bind fun _ => names_bind fun _ => names_bind fun result => ?_
      cases result <;> exact names_withOnlyErrorCode _ _
    | getFileById =>
      refine names_bind fun _ => names_bind fun _ => names_bind fun result => ?_
      cases result with
      | ok file => exact names_withSingleResult _ _
      | error error => exact names_withOnlyErrorCode _ _
    | listFilesByOwner =>
      refine names_bind fun _ => names_bind fun _ => names_bind fun _ => names_bind fun filtered => ?_
      refine yields_ite (fun _ => ?_) fun _ => ?_
      next => exact names_bind fun _ => names_bind fun result => names_answerForFileInfos _ result
      next => exact names_bind fun result => names_answerForFileInfos _ result
    | listPublisherFiles =>
      refine names_bind fun _ => names_bind fun _ => names_bind fun filtered => ?_
      refine yields_ite (fun _ => ?_) fun _ => ?_
      next => exact names_bind fun _ => names_bind fun result => names_answerForFileInfos _ result
      next => exact names_bind fun result => names_answerForFileInfos _ result

theorem ContentStreamingHandler.names_answerForStreamInfos (taskId : ContentStreamingTaskId)
    (result : Except ContentStreamingServiceError (List StreamInfo)) :
    Names operationId taskId.toU8 (answerForStreamInfos taskId result : HandleM ω Reply) := by
  cases result with
  | ok streams => exact names_withResults _ _
  | error error => exact names_withOnlyErrorCode _ _

theorem ContentStreamingHandler.names_answerForStreamUrl (taskId : ContentStreamingTaskId)
    (result : Except ContentStreamingServiceError StreamUrl) :
    Names operationId taskId.toU8 (answerForStreamUrl taskId result : HandleM ω Reply) := by
  cases result with
  | ok url => exact names_withResults _ _
  | error error => exact names_withOnlyErrorCode _ _

theorem ContentStreamingHandler.names_handleTask (handler : ContentStreamingHandler ω) :
    Names operationId taskIdValue (handler.handleTask session taskIdValue) := by
  rw [handleTask]
  cases known : ContentStreamingTaskId.fromU8 taskIdValue with
  | none => exact names_withOnlyErrorCode _ _
  | some task =>
    obtain rfl := toU8_of_find known
    cases task with
    | getFileMetadataById =>
      exact names_bind fun _ => names_bind fun _ => names_bind fun result =>
        names_answerForStreamInfos _ result
    | listFilesByOwner =>
      exact names_bind fun _ => names_bind fun _ => names_bind fun result =>
        names_answerForStreamInfos _ result
    | listAllPublisherFiles =>
      refine names_bind fun _ => names_bind fun filtered => ?_
      refine yields_ite (fun _ => ?_) fun _ => ?_
      next => exact names_bind fun _ => names_bind fun result => names_answerForStreamInfos _ result
      next => exact names_bind fun result => names_answerForStreamInfos _ result
    | preUploadFile =>
      exact names_bind fun _ => names_bind fun _ => names_bind fun _ => names_bind fun _ =>
        names_bind fun _ => names_bind fun _ => names_bind fun result =>
          names_answerForStreamUrl _ result
    | postUploadFile =>
      refine names_bind fun _ => names_bind fun _ => names_bind fun _ => names_bind fun _ =>
        names_bind fun _ => names_bind fun _ => names_bind fun _ => names_bind fun _ =>
          names_bind fun _ => names_bind fun result => ?_
      cases result with
      | ok fileId => exact names_withResults _ _
      | error error => exact names_withOnlyErrorCode _ _
    | preDeleteFile =>
      exact names_bind fun _ => names_bind fun result => names_answerForStreamUrl _ result
    | preDownloadByFileId =>
      refine names_bind fun _ => names_bind fun _ => names_bind fun result => ?_
      cases result with
      | error error => exact names_withOnlyErrorCode _ _
      | ok info =>
        dsimp only
        cases info.getLast? with
        | none => exact names_withOnlyErrorCode _ _
        | some stream => exact names_withResults _ _
    | preDownloadPublisherFile =>
      refine names_bind fun _ => names_bind fun _ => names_bind fun result => ?_
      cases result with
      | ok stream => exact names_withResults _ _
      | error error => exact names_withOnlyErrorCode _ _
    | listFilesByOwners =>
      exact names_bind fun _ => names_bind fun _ => names_bind fun result =>
        names_answerForStreamInfos _ result
    | _ => exact names_withOnlyErrorCode _ _

theorem ProfileHandler.names_handleProfileError (code : ProfileServiceError)
    (taskId : ProfileTaskId) :
    Names operationId taskId.toU8 (handleProfileError code taskId : HandleM ω Reply) := by
  cases code <;> exact names_withOnlyErrorCode _ _

theorem ProfileHandler.names_handleTask (service : ProfileService ω) :
    Names operationId (if taskIdValue = 2 then 1 else taskIdValue)
      (handleTask service session taskIdValue) := by
  rw [handleTask]
  cases known : ProfileTaskId.fromU8 taskIdValue with
  | none =>
    have other : taskIdValue ≠ 2 := by
      rintro rfl
      cases known
    rw [if_neg other]
    exact names_withOnlyErrorCode _ _
  | some task =>
    obtain rfl := toU8_of_find known
    cases task with
    | getPublicInfos =>
      refine names_bind fun _ => names_bind fun result => ?_
      cases result with
      | ok profileInfos => exact names_withResults _ _
      | error code => exact names_handleProfileError code .getPublicInfos
    | getPrivateInfo =>
      refine names_bind fun result => ?_
      cases result with
      | ok profileInfo => exact names_withResults _ _
      | error code => exact names_handleProfileError code .getPublicInfos
    | setPublicInfo =>
      refine names_bind fun _ => names_bind fun _ => names_bind fun result => ?_
      cases result with
      | ok _ => exact names_withOnlyErrorCode _ _
      | error code => exact names_handleProfileError code .setPublicInfo
    | setPrivateInfo =>
      refine names_bind fun _ => names_bind fun _ => names_bind fun result => ?_
      cases result with
      | ok _ => exact names_withOnlyErrorCode _ _
      | error code => exact names_handleProfileError code .setPrivateInfo
    | deleteProfile =>
      refine names_bind fun result => ?_
      cases result with
      | ok _ => exact names_withOnlyErrorCode _ _
      | error code => exact names_handleProfileError code .deleteProfile

theorem BandwidthHandler.names_start (endpoint : BandwidthTestServer ω) (any : UInt8) :
    Names operationId any (start endpoint session) := by
  refine names_bind fun _ => ?_
  rcases session.peerAddr with _ | octets | octets
  · exact names_nothing rfl
  · exact names_bind fun _ => names_nothing rfl
  · exact names_nothing rfl

theorem BandwidthHandler.names_finalize (endpoint : BandwidthTestServer ω) :
    Names operationId 1 (finalize endpoint session) :=
  names_bind fun _ => names_bind fun _ => names_withOnlyErrorCode _ _

theorem BandwidthHandler.names_operation (endpoint : BandwidthTestServer ω) (operation : UInt8) :
    Names operationId (if operation = 0 ∨ operation = 1 then 1 else operation)
      (match BandwidthOperation.fromU8 operation with
        | some .start => start endpoint session
        | some .finalize => finalize endpoint session
        | none => withOnlyErrorCode .serviceNotAvailable operation) := by
  cases known : BandwidthOperation.fromU8 operation with
  | some task =>
    obtain rfl := toU8_of_find known
    cases task with
    | start => exact names_start session endpoint 1
    | finalize => exact names_finalize session endpoint
  | none =>
    have other : ¬(operation = 0 ∨ operation = 1) := by
      rintro (rfl | rfl) <;> cases known
    rw [if_neg other]
    exact names_withOnlyErrorCode _ _

theorem BandwidthHandler.names_handleTask (endpoint : BandwidthTestServer ω)
    (other : taskIdValue ≠ 1) : Names operationId taskIdValue
      (handleTask endpoint session taskIdValue) := by
  rw [handleTask]
  cases known : BandwidthTaskId.fromU8 taskIdValue with
  | none => exact names_withOnlyErrorCode _ _
  | some task =>
    obtain rfl := toU8_of_find known
    cases task
    exact absurd rfl other

theorem BandwidthHandler.names_of_ok (endpoint : BandwidthTestServer ω) {h : Handling ω}
    {reply : Reply} (ran : (exec (handleTask endpoint session taskIdValue) h).1 = .ok reply) :
    ∀ sent, reply.operationId = some sent →
      sent = ((ServiceHandler.lobby (.bandwidth endpoint)).wrongId taskIdValue h.reader).getD
        taskIdValue := by
  by_cases first : taskIdValue = 1
  next =>
    subst first
    change (exec (handleBandwidthTask endpoint session) h).1 = .ok reply at ran
    rcases asked : exec readU8 h.reader with ⟨_ | operation, rest⟩
    next =>
      rw [handleBandwidthTask, exec_bind, exec, perform, asked] at ran
      cases ran
    next =>
      have wrong : ((ServiceHandler.lobby (.bandwidth endpoint)).wrongId 1 h.reader).getD 1
          = if operation = 0 ∨ operation = 1 then 1 else operation := by
        rw [ServiceHandler.wrongId, if_pos rfl, ServiceHandler.unknownOperation, asked]
        dsimp only
        split <;> rfl
      rw [handleBandwidthTask, exec_bind_ok _ (exec_perform_ok asked)] at ran
      rw [wrong]
      exact (names_operation session endpoint operation _ trivial).2.1 reply ran
  next =>
    have own : (ServiceHandler.lobby (.bandwidth endpoint)).wrongId taskIdValue h.reader = none :=
      if_neg first
    rw [own]
    exact (names_handleTask session taskIdValue endpoint first h trivial).2.1 reply ran

end Lobby

section Fixed

open ServiceReply (operationId)

variable (taskIdValue : UInt8)

theorem AntiCheatHandler.names_handleTask :
    Names operationId taskIdValue (handleTask taskIdValue : HandleM ω ServiceReply) := by
  rw [handleTask]
  cases known : AntiCheatTaskId.fromU8 taskIdValue with
  | none => exact names_answerOnly _ _
  | some task =>
    obtain rfl := toU8_of_find known
    cases task with
    | reportConsoleDetails =>
      exact names_bind fun _ => names_bind fun _ => names_bind fun _ => names_bind fun _ =>
        names_bind fun _ => names_bind fun _ => names_bind fun _ => names_answerOnly _ _
    | answerChallenges => exact names_answerOnly _ _
    | reportConsoleId => exact names_answerOnly _ _

theorem TitleUtilitiesHandler.names_handleTask (now : Fallible ω Int64) :
    Names operationId taskIdValue (handleTask now taskIdValue) := by
  rw [handleTask]
  cases known : TitleUtilitiesTaskId.fromU8 taskIdValue with
  | none => exact names_answerOnly _ _
  | some task =>
    obtain rfl := toU8_of_find known
    cases task with
    | getServerTime => exact names_bind fun _ => names_answerWith _ _
    | _ => exact names_answerOnly _ _

theorem YoutubeHandler.names_handleTask :
    Names operationId taskIdValue (handleTask taskIdValue : HandleM ω ServiceReply) := by
  rw [handleTask]
  cases known : YoutubeTaskId.fromU8 taskIdValue with
  | none => exact names_answerOnly _ _
  | some task =>
    obtain rfl := toU8_of_find known
    cases task with
    | startAccountRegistration => exact names_answerOnly _ _
    | isRegistered => exact names_answerWith _ _
    | unregister => exact names_answerOnly _ _
    | uploadVideo =>
      exact names_bind fun _ => names_bind fun _ => names_bind fun _ => names_bind fun _ =>
        names_answerOnly _ _
    | getUserToken => exact names_answerOnly _ _

theorem DmlHandler.names_handleTask :
    Names operationId (if taskIdValue = 3 then 2 else taskIdValue)
      (handleTask taskIdValue : HandleM ω ServiceReply) := by
  rw [handleTask]
  cases known : DmlTaskId.fromU8 taskIdValue with
  | none =>
    rw [if_neg (by rintro rfl; cases known)]
    exact names_answerOnly _ _
  | some task =>
    obtain rfl := toU8_of_find known
    cases task with
    | recordIp => exact names_bind fun _ => names_answerOnly _ _
    | getUserData => exact names_answerWith _ _
    | getUserHierarchicalData => exact names_answerWith _ _

theorem EventLogHandler.names_handleTask :
    Names operationId (if taskIdValue = 5 then 3 else taskIdValue)
      (handleTask taskIdValue : HandleM ω ServiceReply) := by
  rw [handleTask]
  cases known : EventLogTaskId.fromU8 taskIdValue with
  | none =>
    rw [if_neg (by rintro rfl; cases known)]
    exact names_answerOnly _ _
  | some task =>
    obtain rfl := toU8_of_find known
    cases task with
    | recordEvent => exact names_bind fun _ => names_bind fun _ => names_answerOnly _ _
    | recordEventBin => exact names_bind fun _ => names_bind fun _ => names_answerOnly _ _
    | recordEvents =>
      exact names_bind fun _ => names_bind fun _ => names_bind fun _ => names_answerOnly _ _
    | recordEventsMixed => exact names_bind fun _ => names_bind fun _ => names_answerOnly _ _

theorem KeyArchiveHandler.names_handleTask :
    Names operationId (if taskIdValue = 4 then 3 else taskIdValue)
      (handleTask taskIdValue : HandleM ω ServiceReply) := by
  rw [handleTask]
  cases known : KeyArchiveTaskId.fromU8 taskIdValue with
  | none =>
    rw [if_neg (by rintro rfl; cases known)]
    exact names_answerOnly _ _
  | some task =>
    obtain rfl := toU8_of_find known
    cases task with
    | write => exact names_bind fun _ => names_bind fun _ => names_answerOnly _ _
    | read => exact names_bind fun _ => names_bind fun _ => names_answerOnly _ _
    | readAll => exact names_answerOnly _ _
    | readMultipleEntityIds => exact names_answerOnly _ _

theorem TwitchHandler.names_handleTask :
    Names operationId (if taskIdValue = 2 then 1 else taskIdValue)
      (handleTask taskIdValue : HandleM ω ServiceReply) := by
  rw [handleTask]
  cases known : TwitchTaskId.fromU8 taskIdValue with
  | none =>
    rw [if_neg (by rintro rfl; cases known)]
    exact names_answerOnly _ _
  | some task =>
    obtain rfl := toU8_of_find known
    cases task with
    | linkAccount => exact names_bind fun _ => names_answerOnly _ _
    | unlinkAccount => exact names_answerOnly _ _
    | isLinked => exact names_answerWith _ _
    | getUserInfo => exact names_answerOnly _ _

theorem VoteRankHandler.names_handleTask :
    Names operationId (if taskIdValue = 2 then 1 else taskIdValue)
      (handleTask taskIdValue : HandleM ω ServiceReply) := by
  rw [handleTask]
  cases known : VoteRankTaskId.fromU8 taskIdValue with
  | none =>
    rw [if_neg (by rintro rfl; cases known)]
    exact names_answerOnly _ _
  | some task =>
    obtain rfl := toU8_of_find known
    cases task with
    | submitRating => exact names_bind fun _ => names_answerOnly _ _
    | submitCategorizedRating => exact names_bind fun _ => names_answerOnly _ _
    | getVoteHistory =>
      exact names_bind fun _ => names_bind fun _ => names_bind fun _ => names_answerWith _ _

end Fixed

namespace ServiceHandler

variable {session : BdSession} {h : Handling ω} {taskIdValue : UInt8} {rest : BdReader}

theorem sent_of_task {ρ : Type} {named : ρ → Option UInt8} {operationId : UInt8}
    {run : UInt8 → HandleM ω ρ} {reply : ρ} (asks : exec readU8 h.reader = (.ok taskIdValue, rest))
    (names : Names named operationId (run taskIdValue))
    (ran : (exec (perform readU8 >>= run) h).1 = .ok reply) :
    ∀ sent, named reply = some sent → sent = operationId := by
  rw [exec_bind_ok _ (exec_perform_ok asks)] at ran
  exact (names _ trivial).2.1 reply ran

theorem getD_wrong {own wrong : UInt8} (c : Prop) [Decidable c] :
    (if c then some wrong else none).getD own = if c then wrong else own := by
  split <;> rfl

theorem sent_of_lobby (handler : LobbyHandler ω) {reply : Reply}
    (asks : exec (lobby handler).readTaskId h.reader = (.ok taskIdValue, rest))
    (ran : (exec (handler.answer session) h).1 = .ok reply) :
    ∀ sent, reply.operationId = some sent →
      sent = ((lobby handler).wrongId taskIdValue rest).getD taskIdValue := by
  cases handler with
  | bandwidth endpoint =>
    have untyped : exec (setTypeChecked false) h.reader
        = (.ok (), { h.reader with typeChecked := false }) := rfl
    rw [readTaskId, exec_bind_ok _ untyped] at asks
    rw [LobbyHandler.answer, exec_bind_ok _ (exec_perform_ok untyped), LobbyHandler.readTask,
      exec_bind_ok _ (exec_perform_ok asks)] at ran
    exact BandwidthHandler.names_of_ok session taskIdValue endpoint ran
  | contentStreaming handler => exact sent_of_task asks (handler.names_handleTask session _) ran
  | counter service =>
    exact sent_of_task asks (CounterHandler.names_handleTask session _ service) ran
  | group service => exact sent_of_task asks (GroupHandler.names_handleTask session _ service) ran
  | league => exact sent_of_task asks (LeagueHandler.names_handleTask _) ran
  | lsg service =>
    have other : Names Reply.operationId taskIdValue (LsgHandler.answer service session) :=
      names_bind fun _ => names_bind fun _ => names_bind fun _ => names_bind fun _ =>
        names_bind fun _ => names_nothing rfl
    exact (other h trivial).2.1 reply ran
  | matchMaking handler =>
    exact sent_of_task asks (MatchMakingHandler.names_handleTask session _ handler) ran
  | messaging router =>
    exact sent_of_task asks (MessagingHandler.names_handleTask session _ router) ran
  | performance => exact sent_of_task asks (PerformanceHandler.names_handleTask _) ran
  | profile service =>
    rw [wrongId, getD_wrong]
    exact sent_of_task asks (ProfileHandler.names_handleTask session _ service) ran
  | richPresence service =>
    exact sent_of_task asks (RichPresenceHandler.names_handleTask session _ service) ran
  | storage handler => exact sent_of_task asks (handler.names_handleTask session _) ran

theorem sent_of_answer (handler : ServiceHandler ω) {reply : ServiceReply}
    (asks : exec handler.readTaskId h.reader = (.ok taskIdValue, rest))
    (ran : (exec (handler.answer session) h).1 = .ok reply) :
    ∀ sent, reply.operationId = some sent →
      sent = (handler.wrongId taskIdValue rest).getD taskIdValue := by
  cases handler with
  | lobby handler =>
    rw [answer, exec_bind] at ran
    rcases answered : exec (handler.answer session) h with ⟨_ | reply, t⟩
    next =>
      rw [answered] at ran
      cases ran
    next =>
      rw [answered] at ran
      cases ran
      exact sent_of_lobby handler asks (congrArg Prod.fst answered)
  | antiCheat => exact sent_of_task asks (AntiCheatHandler.names_handleTask _) ran
  | dml =>
    rw [wrongId, getD_wrong]
    exact sent_of_task asks (DmlHandler.names_handleTask _) ran
  | eventLog =>
    rw [wrongId, getD_wrong]
    exact sent_of_task asks (EventLogHandler.names_handleTask _) ran
  | keyArchive =>
    rw [wrongId, getD_wrong]
    exact sent_of_task asks (KeyArchiveHandler.names_handleTask _) ran
  | titleUtilities now => exact sent_of_task asks (TitleUtilitiesHandler.names_handleTask _ now) ran
  | twitch =>
    rw [wrongId, getD_wrong]
    exact sent_of_task asks (TwitchHandler.names_handleTask _) ran
  | voteRank =>
    rw [wrongId, getD_wrong]
    exact sent_of_task asks (VoteRankHandler.names_handleTask _) ran
  | youtube => exact sent_of_task asks (YoutubeHandler.names_handleTask _) ran

theorem wrongId_ne {handler : ServiceHandler ω} {other : UInt8}
    (wrong : handler.wrongId taskIdValue rest = some other) : other ≠ taskIdValue := by
  have differs {task id : UInt8} (apart : id ≠ task)
      (swapped : (if taskIdValue = task then some id else none) = some other) :
      other ≠ taskIdValue := by
    split at swapped
    next same =>
      rw [same, ← Option.some.inj swapped]
      exact apart
    next => cases swapped
  cases handler with
  | lobby handler =>
    cases handler with
    | profile service => exact differs (by decide) wrong
    | bandwidth endpoint =>
      rw [wrongId] at wrong
      split at wrong
      next first =>
        rw [unknownOperation] at wrong
        split at wrong
        next operation _ =>
          split at wrong
          next => cases wrong
          next unknown =>
            rw [first, ← Option.some.inj wrong]
            exact fun same => unknown (.inr same)
        next => cases wrong
      next => cases wrong
    | _ => cases wrong
  | dml => exact differs (by decide) wrong
  | eventLog => exact differs (by decide) wrong
  | keyArchive => exact differs (by decide) wrong
  | twitch => exact differs (by decide) wrong
  | voteRank => exact differs (by decide) wrong
  | _ => cases wrong

/--
Whatever message a handler answers with a task reply, the reply names the task of
the request, except for one task of six handlers and the unknown operations of a
bandwidth test.
-/
theorem names_task_iff (handler : ServiceHandler ω) (session : BdSession) (h : Handling ω)
    (taskIdValue operationId : UInt8) (rest : BdReader)
    (asks : exec handler.readTaskId h.reader = (.ok taskIdValue, rest))
    (answers : handler.Answers session h operationId) :
    operationId = taskIdValue ↔ handler.wrongId taskIdValue rest = none := by
  obtain ⟨_, reply, _, ran, _, named⟩ := answers
  have sent := sent_of_answer handler asks ran operationId named
  cases wrong : handler.wrongId taskIdValue rest with
  | none =>
    rw [wrong] at sent
    exact ⟨fun _ => rfl, fun _ => sent⟩
  | some other =>
    rw [wrong] at sent
    refine ⟨fun same => ?_, nofun⟩
    exact absurd (sent.symm.trans same) (wrongId_ne wrong)

-- a message after its framing
def asking (mode : StreamMode) (body : List UInt8) : Handling Unit :=
  { reader := { BdReader.new body with mode, typeChecked := false }, demanded := []
    transactionIdCounter := 0, world := () }

theorem names_isLinked : (3 : UInt8) = 3
    ↔ (twitch : ServiceHandler Unit).wrongId 3 (exec readU8 (asking .bitMode [3]).reader).2 = none :=
  names_task_iff (twitch : ServiceHandler Unit) LobbyServer.player (asking .bitMode [3]) 3 3 _
    (by decide +kernel) (answers_of_ran (by decide +kernel) (by decide +kernel))

def privateProfiles : ProfileService Unit :=
  { getPublicProfiles := fun _ _ => pure (.error .noProfileInfoFound)
    getPrivateProfile := fun _ => pure (.ok ⟨7, [1]⟩)
    setPublicProfile := fun _ _ => pure (.ok ())
    setPrivateProfile := fun _ _ => pure (.ok ())
    deleteProfile := fun _ => pure (.ok ()) }

def bandwidthEndpoint : BandwidthTestServer Unit :=
  { port := 3074, take := fun _ => pure (), drawToken := pure (.replicate 8 0) }

theorem other_task_named :
    (exec (twitch : ServiceHandler Unit).readTaskId (asking .bitMode [2]).reader).1 = .ok 2
      ∧ (twitch : ServiceHandler Unit).Answers LobbyServer.player (asking .bitMode [2]) 1
      ∧ (exec (lobby (.profile privateProfiles)).readTaskId (asking .bitMode [2]).reader).1 = .ok 2
      ∧ (lobby (.profile privateProfiles)).Answers LobbyServer.player (asking .bitMode [2]) 1
      ∧ (exec (lobby (.bandwidth bandwidthEndpoint)).readTaskId
          (asking .byteMode [1, 9]).reader).1 = .ok 1
      ∧ (lobby (.bandwidth bandwidthEndpoint)).Answers LobbyServer.player
          (asking .byteMode [1, 9]) 9 :=
  ⟨by decide +kernel, answers_of_ran (by decide +kernel) (by decide +kernel), by decide +kernel,
    answers_of_ran (by decide +kernel) (by decide +kernel), by decide +kernel,
    answers_of_ran (by decide +kernel) (by decide +kernel)⟩

end ServiceHandler

end BitDemon
