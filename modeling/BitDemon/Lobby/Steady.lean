import BitDemon.Lobby.Server

set_option autoImplicit false

/-!
# What a handler keeps

A handler changes the world through its services only. Whatever each of their calls
keeps is kept while a message is handled.
-/

namespace BitDemon

open Machine BdReader

section Steady

variable {ω α : Type} {P : ω → Prop}

-- of a call to a service, and of a handler
abbrev CallSpares (P : ω → Prop) (m : Fallible ω α) : Prop := Keeps P (fun _ => True) m

abbrev Steady (P : ω → Prop) (m : HandleM ω α) : Prop :=
  Keeps (fun h => P h.world) (fun _ => True) m

theorem steady_perform (m : ReadM α) : Steady P (perform m : HandleM ω α) := by
  intro h holds
  rw [exec, perform]
  rcases exec m h.reader with ⟨outcome, reader⟩
  cases outcome <;> exact ⟨holds, fun _ _ => trivial⟩

theorem steady_call {m : Fallible ω α} (spares : CallSpares P m) : Steady P (call m) := by
  intro h holds
  exact ⟨(spares h.world holds).1, fun _ _ => trivial⟩

theorem steady_withOnlyErrorCode (errorCode : BdErrorCode) (operationId : UInt8) :
    Steady P (withOnlyErrorCode errorCode operationId : HandleM ω Reply) :=
  keeps_withOnlyErrorCode (fun _ _ holds => holds) _ _

theorem steady_withResults (operationId : UInt8) (results : List TaskResult) :
    Steady P (withResults operationId results : HandleM ω Reply) :=
  keeps_withResults (fun _ _ holds => holds) _ _

theorem steady_withSingleResult (operationId : UInt8) (result : TaskResult) :
    Steady P (withSingleResult operationId result : HandleM ω Reply) :=
  keeps_withSingleResult (fun _ _ holds => holds) _ _

theorem steady_nextEntryFits (bits : Nat) : Steady P (nextEntryFits bits : HandleM ω Bool) :=
  keeps_bind (steady_perform _) fun _ => keeps_ite (fun _ => steady_perform _) fun _ => keeps_pure _

theorem steady_nextIs (m : ReadM Bool) : Steady P (unwrapOr (perform m) false : HandleM ω Bool) :=
  keeps_unwrapOr _ (steady_perform m)

end Steady

section Services

variable {ω : Type} (P : ω → Prop)

structure BandwidthTestServer.Spares (endpoint : BandwidthTestServer ω) : Prop where
  take : ∀ address, CallSpares P (endpoint.take address)
  drawToken : CallSpares P endpoint.drawToken

structure UserContentStreamingService.Spares (service : UserContentStreamingService ω) : Prop where
  getUserStreamsById : ∀ session ids, CallSpares P (service.getUserStreamsById session ids)
  listStreamsOfUsers : ∀ session users page,
    CallSpares P (service.listStreamsOfUsers session users page)
  requestStreamUpload : ∀ session request,
    CallSpares P (service.requestStreamUpload session request)
  finishStreamUpload : ∀ session stream,
    CallSpares P (service.finishStreamUpload session stream)
  requestStreamDeletion : ∀ session slot,
    CallSpares P (service.requestStreamDeletion session slot)

structure PublisherContentStreamingService.Spares
    (service : PublisherContentStreamingService ω) : Prop where
  getPublisherStreamById : ∀ session id,
    CallSpares P (service.getPublisherStreamById session id)
  listPublisherStreams : ∀ session page,
    CallSpares P (service.listPublisherStreams session page)
  filterPublisherStreams : ∀ session page filter,
    CallSpares P (service.filterPublisherStreams session page filter)

structure CounterService.Spares (service : CounterService ω) : Prop where
  getCounterTotals : ∀ session ids, CallSpares P (service.getCounterTotals session ids)
  incrementCounters : ∀ session increments,
    CallSpares P (service.incrementCounters session increments)

structure GroupService.Spares (service : GroupService ω) : Prop where
  setGroups : ∀ session groups, CallSpares P (service.setGroups session groups)
  getGroupCounts : ∀ session groups, CallSpares P (service.getGroupCounts session groups)

structure LsgService.Spares (service : LsgService ω) : Prop where
  authenticate : ∀ session title authProof,
    CallSpares P (service.authenticate session title authProof)

structure SessionRegistry.Spares (registry : SessionRegistry ω) : Prop where
  create : ∀ session info, CallSpares P (registry.create session info)
  update : ∀ session info, CallSpares P (registry.update session info)
  delete : ∀ session id, CallSpares P (registry.delete session id)
  listFor : ∀ session query, CallSpares P (registry.listFor session query)

structure MessageRouter.Spares (router : MessageRouter ω) : Prop where
  deliver : ∀ message, CallSpares P (router.deliver message)
  now : CallSpares P router.now

structure ProfileService.Spares (service : ProfileService ω) : Prop where
  getPublicProfiles : ∀ session users, CallSpares P (service.getPublicProfiles session users)
  getPrivateProfile : ∀ session, CallSpares P (service.getPrivateProfile session)
  setPublicProfile : ∀ session data, CallSpares P (service.setPublicProfile session data)
  setPrivateProfile : ∀ session data, CallSpares P (service.setPrivateProfile session data)
  deleteProfile : ∀ session, CallSpares P (service.deleteProfile session)

structure RichPresenceService.Spares (service : RichPresenceService ω) : Prop where
  setInfo : ∀ session user data, CallSpares P (service.setInfo session user data)
  getInfo : ∀ session users, CallSpares P (service.getInfo session users)

structure UserStorageService.Spares (service : UserStorageService ω) : Prop where
  getStorageFileDataById : ∀ session owner id,
    CallSpares P (service.getStorageFileDataById session owner id)
  listStorageFiles : ∀ session owner page,
    CallSpares P (service.listStorageFiles session owner page)
  filterStorageFiles : ∀ session owner page filter,
    CallSpares P (service.filterStorageFiles session owner page filter)
  createStorageFile : ∀ session owner filename visibility data,
    CallSpares P (service.createStorageFile session owner filename visibility data)
  updateStorageFileData : ∀ session owner id data,
    CallSpares P (service.updateStorageFileData session owner id data)

structure PublisherStorageService.Spares (service : PublisherStorageService ω) : Prop where
  getPublisherFileDataById : ∀ session id,
    CallSpares P (service.getPublisherFileDataById session id)
  listPublisherFiles : ∀ session page, CallSpares P (service.listPublisherFiles session page)
  filterPublisherFiles : ∀ session page filter,
    CallSpares P (service.filterPublisherFiles session page filter)

/-- No call to a service of the handler leaves `P`. -/
def LobbyHandler.Spares : LobbyHandler ω → Prop
  | .bandwidth endpoint => endpoint.Spares P
  | .contentStreaming handler =>
    handler.contentStreamingService.Spares P ∧ handler.publisherContentStreamingService.Spares P
  | .counter service => service.Spares P
  | .group service => service.Spares P
  | .league => True
  | .lsg service => service.Spares P
  | .matchMaking handler => handler.registry.Spares P
  | .messaging router => router.Spares P
  | .performance => True
  | .profile service => service.Spares P
  | .richPresence service => service.Spares P
  | .storage handler =>
    handler.storageService.Spares P ∧ handler.publisherStorageService.Spares P

end Services

variable {ω : Type} {P : ω → Prop}

namespace BandwidthHandler

theorem steady_handleTask {endpoint : BandwidthTestServer ω} (spares : endpoint.Spares P)
    (session : BdSession) (taskIdValue : UInt8) :
    Steady P (handleTask endpoint session taskIdValue) := by
  rw [handleTask]
  rcases BandwidthTaskId.fromU8 taskIdValue with _ | task
  · exact steady_withOnlyErrorCode _ _
  refine keeps_bind (steady_perform _) fun operation => ?_
  rcases BandwidthOperation.fromU8 operation with _ | known
  · exact steady_withOnlyErrorCode _ _
  cases known with
  | start =>
    refine keeps_bind (steady_perform _) fun _ => ?_
    rcases session.peerAddr with _ | octets | octets
    · exact keeps_pure _
    · exact keeps_bind (steady_call spares.drawToken) fun _ => keeps_pure _
    · exact keeps_pure _
  | finalize =>
    refine keeps_bind (keeps_unwrapOr _ (steady_perform _)) fun _ => ?_
    have measured : Steady P (takeMeasurement endpoint session) := by
      rw [takeMeasurement]
      cases session.peerAddr with
      | none => exact keeps_pure ()
      | some address => exact steady_call (spares.take address)
    exact keeps_bind measured fun _ => steady_withOnlyErrorCode _ _

end BandwidthHandler

namespace ContentStreamingHandler

theorem steady_answerForStreamInfos (taskId : ContentStreamingTaskId)
    (result : Except ContentStreamingServiceError (List StreamInfo)) :
    Steady P (answerForStreamInfos taskId result : HandleM ω Reply) := by
  cases result with
  | ok streams => exact steady_withResults _ _
  | error error => exact steady_withOnlyErrorCode _ _

theorem steady_answerForStreamUrl (taskId : ContentStreamingTaskId)
    (result : Except ContentStreamingServiceError StreamUrl) :
    Steady P (answerForStreamUrl taskId result : HandleM ω Reply) := by
  cases result with
  | ok url => exact steady_withResults _ _
  | error error => exact steady_withOnlyErrorCode _ _

theorem steady_readPage : Steady P (readPage : HandleM ω StreamPage) :=
  keeps_bind (steady_perform _) fun _ => keeps_bind (steady_perform _) fun _ =>
    keeps_bind (steady_perform _) fun _ => keeps_bind (steady_perform _) fun _ => keeps_pure _

variable {handler : ContentStreamingHandler ω}

theorem steady_handleTask (users : handler.contentStreamingService.Spares P)
    (publisher : handler.publisherContentStreamingService.Spares P) (session : BdSession)
    (taskIdValue : UInt8) : Steady P (handler.handleTask session taskIdValue) := by
  rw [handleTask]
  rcases ContentStreamingTaskId.fromU8 taskIdValue with _ | task
  · exact steady_withOnlyErrorCode _ _
  cases task with
  | getFileMetadataById =>
    refine keeps_bind (steady_perform _) fun numIds => ?_
    refine keeps_bind (keeps_readEach (steady_perform _) _) fun fileIds => ?_
    exact keeps_bind (steady_call (users.getUserStreamsById _ _)) fun result =>
      steady_answerForStreamInfos _ result
  | listFilesByOwner =>
    refine keeps_bind (steady_perform _) fun ownerId => keeps_bind steady_readPage fun page => ?_
    exact keeps_bind (steady_call (users.listStreamsOfUsers _ _ _)) fun result =>
      steady_answerForStreamInfos _ result
  | listAllPublisherFiles =>
    refine keeps_bind steady_readPage fun page => keeps_bind (steady_nextIs _) fun filtered => ?_
    refine keeps_ite (fun _ => ?_) fun _ => ?_
    · refine keeps_bind (steady_perform _) fun filter => ?_
      exact keeps_bind (steady_call (publisher.filterPublisherStreams _ _ _)) fun result =>
        steady_answerForStreamInfos _ result
    · exact keeps_bind (steady_call (publisher.listPublisherStreams _ _)) fun result =>
        steady_answerForStreamInfos _ result
  | preUploadFile =>
    refine keeps_bind (steady_perform _) fun filename => keeps_bind (steady_perform _) fun slot => ?_
    refine keeps_bind (steady_perform _) fun size => keeps_bind (steady_perform _) fun category => ?_
    refine keeps_bind (steady_perform _) fun checksum => keeps_bind (steady_perform _) fun loc => ?_
    exact keeps_bind (steady_call (users.requestStreamUpload _ _)) fun result =>
      steady_answerForStreamUrl _ result
  | postUploadFile =>
    refine keeps_bind (steady_perform _) fun filename => keeps_bind (steady_perform _) fun slot => ?_
    refine keeps_bind (steady_perform _) fun kind => keeps_bind (steady_perform _) fun index => ?_
    refine keeps_bind (steady_perform _) fun size => keeps_bind (steady_perform _) fun category => ?_
    refine keeps_bind (steady_perform _) fun metadata => keeps_bind (steady_perform _) fun tags => ?_
    refine keeps_bind (steady_perform _) fun loc => ?_
    refine keeps_bind (steady_call (users.finishStreamUpload _ _)) fun result => ?_
    cases result with
    | ok fileId => exact steady_withResults _ _
    | error error => exact steady_withOnlyErrorCode _ _
  | preDeleteFile =>
    refine keeps_bind (steady_perform _) fun slot => ?_
    exact keeps_bind (steady_call (users.requestStreamDeletion _ _)) fun result =>
      steady_answerForStreamUrl _ result
  | preDownloadByFileId =>
    refine keeps_bind (steady_perform _) fun fileId => keeps_bind (steady_perform _) fun _ => ?_
    refine keeps_bind (steady_call (users.getUserStreamsById _ _)) fun result => ?_
    cases result with
    | error error => exact steady_withOnlyErrorCode _ _
    | ok info =>
      dsimp only
      cases info.getLast? with
      | none => exact steady_withOnlyErrorCode _ _
      | some stream => exact steady_withResults _ _
  | preDownloadPublisherFile =>
    refine keeps_bind (steady_perform _) fun fileId => keeps_bind (steady_perform _) fun _ => ?_
    refine keeps_bind (steady_call (publisher.getPublisherStreamById _ _)) fun result => ?_
    cases result with
    | ok stream => exact steady_withResults _ _
    | error error => exact steady_withOnlyErrorCode _ _
  | listFilesByOwners =>
    refine keeps_bind (steady_perform _) fun ownerIds => keeps_bind steady_readPage fun page => ?_
    exact keeps_bind (steady_call (users.listStreamsOfUsers _ _ _)) fun result =>
      steady_answerForStreamInfos _ result
  | _ => exact steady_withOnlyErrorCode _ _

end ContentStreamingHandler

namespace CounterHandler

theorem steady_handleTask {service : CounterService ω} (spares : service.Spares P)
    (session : BdSession) (taskIdValue : UInt8) :
    Steady P (handleTask service session taskIdValue) := by
  rw [handleTask]
  rcases CounterTaskId.fromU8 taskIdValue with _ | task
  · exact steady_withOnlyErrorCode _ _
  cases task with
  | incrementCounters =>
    refine keeps_bind (keeps_collectOk (steady_perform _)) fun values => ?_
    exact keeps_bind (steady_call (spares.incrementCounters _ _)) fun _ =>
      steady_withOnlyErrorCode _ _
  | getCounterTotals =>
    refine keeps_bind (keeps_collectWhile (steady_nextIs _) (steady_perform _)) fun ids => ?_
    exact keeps_bind (steady_call (spares.getCounterTotals _ _)) fun _ => steady_withResults _ _

end CounterHandler

namespace GroupHandler

theorem steady_countResults (groups : List UInt32) :
    ∀ counts, Steady P (countResults groups counts : HandleM ω (List TaskResult)) := by
  induction groups with
  | nil => exact fun _ => keeps_pure _
  | cons group groups ih =>
    intro counts
    cases counts with
    | nil => exact keeps_throw trivial
    | cons count counts => exact keeps_bind (ih counts) fun _ => keeps_pure _

theorem steady_handleTask {service : GroupService ω} (spares : service.Spares P)
    (session : BdSession) (taskIdValue : UInt8) :
    Steady P (handleTask service session taskIdValue) := by
  rw [handleTask]
  rcases GroupTaskId.fromU8 taskIdValue with _ | task
  · exact steady_withOnlyErrorCode _ _
  cases task with
  | setGroups =>
    refine keeps_bind (steady_perform _) fun groups => ?_
    exact keeps_bind (steady_call (spares.setGroups _ _)) fun _ => steady_withOnlyErrorCode _ _
  | getGroupCounts =>
    refine keeps_bind (steady_perform _) fun groups => ?_
    refine keeps_bind (steady_call (spares.getGroupCounts _ _)) fun counts => ?_
    exact keeps_bind (steady_countResults groups counts) fun _ => steady_withResults _ _
  | setGroupsForEntity => exact steady_withOnlyErrorCode _ _
  | getEntityGroups => exact steady_withOnlyErrorCode _ _

end GroupHandler

namespace LeagueHandler

theorem steady_readIdsOnly (taskId : LeagueTaskId) :
    Steady P (readIdsOnly taskId : HandleM ω Reply) :=
  keeps_bind (steady_perform _) fun _ => steady_withOnlyErrorCode _ _

theorem steady_handleTask (taskIdValue : UInt8) :
    Steady P (handleTask taskIdValue : HandleM ω Reply) := by
  rw [handleTask]
  rcases LeagueTaskId.fromU8 taskIdValue with _ | task
  · exact steady_withOnlyErrorCode _ _
  cases task with
  | getTeamId => exact steady_readIdsOnly _
  | getTeamIDsForUser =>
    refine keeps_bind (steady_perform _) fun _ => keeps_bind (steady_perform _) fun order => ?_
    refine keeps_bind (keeps_okOr _ _) fun _ => keeps_bind (steady_perform _) fun _ => ?_
    exact keeps_bind (steady_perform _) fun _ => steady_withOnlyErrorCode _ _
  | getTeamSubdivisions =>
    refine keeps_bind (steady_perform _) fun _ => keeps_bind (steady_perform _) fun _ => ?_
    exact steady_withOnlyErrorCode _ _
  | setTeamName =>
    refine keeps_bind (steady_perform _) fun _ => keeps_bind (steady_perform _) fun _ => ?_
    exact steady_withOnlyErrorCode _ _
  | getTeamInfos => exact steady_readIdsOnly _
  | getTeamMemberInfos => exact steady_readIdsOnly _
  | getTeamSubdivisionInfos => exact steady_readIdsOnly _
  | getTeamSubdivisionHistory =>
    refine keeps_bind (steady_perform _) fun _ => keeps_bind (steady_perform _) fun _ => ?_
    exact keeps_bind (steady_perform _) fun _ => steady_withOnlyErrorCode _ _

end LeagueHandler

namespace LsgHandler

theorem steady_answer {service : LsgService ω} (spares : service.Spares P) (session : BdSession) :
    Steady P (answer service session) := by
  refine keeps_bind (steady_perform _) fun titleId => keeps_bind (keeps_okOr _ _) fun title => ?_
  refine keeps_bind (steady_perform _) fun _ => keeps_bind (steady_perform _) fun authProof => ?_
  exact keeps_bind (steady_call (spares.authenticate _ _ _)) fun _ => keeps_pure _

end LsgHandler

namespace MatchMakingHandler

theorem steady_handleTask {handler : MatchMakingHandler ω} (spares : handler.registry.Spares P)
    (session : BdSession) (taskIdValue : UInt8) :
    Steady P (handler.handleTask session taskIdValue) := by
  refine keeps_bind (steady_perform _) fun _ => ?_
  rcases MatchMakingTaskId.fromU8 taskIdValue with _ | task
  · exact steady_withOnlyErrorCode _ _
  cases task with
  | createSession =>
    refine keeps_bind (steady_perform _) fun info => ?_
    exact keeps_bind (steady_call (spares.create _ _)) fun _ => steady_withResults _ _
  | updateSession =>
    refine keeps_bind (steady_perform _) fun info => keeps_bind (handler.keeps_traceUpdate info) fun _ => ?_
    exact keeps_bind (steady_call (spares.update _ _)) fun _ => steady_withOnlyErrorCode _ _
  | deleteSession =>
    refine keeps_bind (steady_perform _) fun id => ?_
    exact keeps_bind (steady_call (spares.delete _ _)) fun _ => steady_withOnlyErrorCode _ _
  | findSessions =>
    refine keeps_bind (steady_perform _) fun query => keeps_bind (steady_perform _) fun _ => ?_
    exact keeps_bind (steady_call (spares.listFor _ _)) fun _ => steady_withResults _ _

end MatchMakingHandler

namespace MessagingHandler

theorem steady_readRecipients (single : Bool) :
    Steady P (readRecipients single : HandleM ω (List UInt64)) :=
  keeps_ite (fun _ => keeps_bind (steady_perform _) fun _ => keeps_pure _) fun _ =>
    keeps_collectWhile (steady_nextEntryFits _) (steady_perform _)

theorem steady_deliverAll {router : MessageRouter ω} (spares : router.Spares P)
    (sender : SessionAuthentication) (timestamp : UInt32) (payload : List UInt8)
    (recipients : List UInt64) :
    Steady P (deliverAll router sender timestamp payload recipients) := by
  induction recipients with
  | nil => exact keeps_pure ()
  | cons recipient recipients ih => exact keeps_bind (steady_call (spares.deliver _)) fun _ => ih

theorem steady_handleTask {router : MessageRouter ω} (spares : router.Spares P)
    (session : BdSession) (taskIdValue : UInt8) :
    Steady P (handleTask router session taskIdValue) := by
  refine keeps_bind (steady_perform _) fun _ => ?_
  rcases MessagingTaskId.fromU8 taskIdValue with _ | task
  · exact steady_withOnlyErrorCode _ _
  cases task
  refine keeps_bind (steady_perform _) fun payload => keeps_bind (steady_perform _) fun _ => ?_
  refine keeps_bind (steady_perform _) fun single => ?_
  refine keeps_bind (steady_readRecipients single) fun recipients => ?_
  refine keeps_bind (keeps_unwrap _) fun sender => keeps_bind (steady_call spares.now) fun now => ?_
  exact keeps_bind (steady_deliverAll spares _ _ _ _) fun _ => steady_withOnlyErrorCode _ _

end MessagingHandler

namespace PerformanceHandler

theorem steady_handleTask (taskIdValue : UInt8) :
    Steady P (handleTask taskIdValue : HandleM ω Reply) := by
  rw [handleTask]
  rcases PerformanceTaskId.fromU8 taskIdValue with _ | task
  · exact steady_withOnlyErrorCode _ _
  cases task with
  | reportInfo =>
    have entry : Steady P (readInfo : HandleM ω PerformanceInfo) :=
      keeps_bind (steady_perform _) fun _ => keeps_bind (steady_perform _) fun _ => keeps_pure _
    refine keeps_bind (steady_perform _) fun _ => ?_
    exact keeps_bind (keeps_collectWhile (steady_nextEntryFits _) entry) fun _ =>
      steady_withOnlyErrorCode _ _
  | reportPlayers =>
    refine keeps_bind (steady_perform _) fun _ => ?_
    exact keeps_bind (keeps_collectWhile (steady_nextEntryFits _) (steady_perform _)) fun _ =>
      steady_withResults _ _

end PerformanceHandler

namespace ProfileHandler

theorem steady_handleProfileError (code : ProfileServiceError) (taskId : ProfileTaskId) :
    Steady P (handleProfileError code taskId : HandleM ω Reply) := by
  cases code <;> exact steady_withOnlyErrorCode _ _

theorem steady_handleTask {service : ProfileService ω} (spares : service.Spares P)
    (session : BdSession) (taskIdValue : UInt8) :
    Steady P (handleTask service session taskIdValue) := by
  rw [handleTask]
  rcases ProfileTaskId.fromU8 taskIdValue with _ | task
  · exact steady_withOnlyErrorCode _ _
  cases task with
  | getPublicInfos =>
    refine keeps_bind (keeps_collectWhile (steady_perform _) (steady_perform _)) fun userIds => ?_
    refine keeps_bind (steady_call (spares.getPublicProfiles _ _)) fun result => ?_
    cases result with
    | ok profileInfos => exact steady_withResults _ _
    | error code => exact steady_handleProfileError _ _
  | getPrivateInfo =>
    refine keeps_bind (steady_call (spares.getPrivateProfile _)) fun result => ?_
    cases result with
    | ok profileInfo => exact steady_withResults _ _
    | error code => exact steady_handleProfileError _ _
  | setPublicInfo =>
    refine keeps_bind (steady_perform _) fun length => keeps_bind (steady_perform _) fun data => ?_
    refine keeps_bind (steady_call (spares.setPublicProfile _ _)) fun result => ?_
    cases result with
    | ok _ => exact steady_withOnlyErrorCode _ _
    | error code => exact steady_handleProfileError _ _
  | setPrivateInfo =>
    refine keeps_bind (steady_perform _) fun length => keeps_bind (steady_perform _) fun data => ?_
    refine keeps_bind (steady_call (spares.setPrivateProfile _ _)) fun result => ?_
    cases result with
    | ok _ => exact steady_withOnlyErrorCode _ _
    | error code => exact steady_handleProfileError _ _
  | deleteProfile =>
    refine keeps_bind (steady_call (spares.deleteProfile _)) fun result => ?_
    cases result with
    | ok _ => exact steady_withOnlyErrorCode _ _
    | error code => exact steady_handleProfileError _ _

end ProfileHandler

namespace RichPresenceHandler

theorem steady_handleRichPresenceError (code : RichPresenceServiceError)
    (taskId : RichPresenceTaskId) :
    Steady P (handleRichPresenceError code taskId : HandleM ω Reply) := by
  cases code <;> exact steady_withOnlyErrorCode _ _

theorem steady_handleTask {service : RichPresenceService ω} (spares : service.Spares P)
    (session : BdSession) (taskIdValue : UInt8) :
    Steady P (handleTask service session taskIdValue) := by
  rw [handleTask]
  rcases RichPresenceTaskId.fromU8 taskIdValue with _ | task
  · exact steady_withOnlyErrorCode _ _
  cases task with
  | setInfo =>
    have acting (userId : UInt64) : Steady P (actingUser session userId : HandleM ω UInt64) :=
      keeps_ite (fun _ => keeps_bind (keeps_unwrap _) fun _ => keeps_pure _) fun _ => keeps_pure _
    refine keeps_bind (steady_perform _) fun userId => keeps_bind (acting userId) fun userId => ?_
    refine keeps_bind (steady_perform _) fun data => ?_
    refine keeps_bind (steady_call (spares.setInfo _ _ _)) fun result => ?_
    cases result with
    | ok _ => exact steady_withOnlyErrorCode _ _
    | error code => exact steady_handleRichPresenceError _ _
  | getInfo =>
    refine keeps_bind (keeps_collectWhile (steady_nextIs _) (steady_perform _)) fun userIds => ?_
    refine keeps_bind (steady_call (spares.getInfo _ _)) fun result => ?_
    cases result with
    | ok presences => exact steady_withResults _ _
    | error code => exact steady_handleRichPresenceError _ _

end RichPresenceHandler

namespace StorageHandler

theorem steady_answerForFileInfos (taskId : StorageTaskId)
    (result : Except StorageServiceError (List StorageFileInfo)) :
    Steady P (answerForFileInfos taskId result : HandleM ω Reply) := by
  cases result with
  | ok infos => exact steady_withResults _ _
  | error error => exact steady_withOnlyErrorCode _ _

variable {handler : StorageHandler ω}

theorem spares_findFile (users : handler.storageService.Spares P)
    (publisher : handler.publisherStorageService.Spares P) (session : BdSession)
    (ownerId fileId : UInt64) : CallSpares P (handler.findFile session ownerId fileId) := by
  refine keeps_bind (users.getStorageFileDataById _ _ _) fun result => ?_
  cases result with
  | ok file => exact keeps_pure _
  | error _ => exact publisher.getPublisherFileDataById _ _

theorem steady_handleTask (users : handler.storageService.Spares P)
    (publisher : handler.publisherStorageService.Spares P) (session : BdSession)
    (taskIdValue : UInt8) : Steady P (handler.handleTask session taskIdValue) := by
  refine keeps_bind (steady_perform _) fun _ => ?_
  rcases StorageTaskId.fromU8 taskIdValue with _ | task
  · exact steady_withOnlyErrorCode _ _
  cases task with
  | createFile =>
    refine keeps_bind (steady_perform _) fun _ => keeps_bind (steady_perform _) fun filename => ?_
    refine keeps_bind (steady_perform _) fun _ => keeps_bind (steady_perform _) fun data => ?_
    refine keeps_bind (keeps_unwrap _) fun authentication => ?_
    refine keeps_bind (steady_call (users.createStorageFile _ _ _ _ _)) fun result => ?_
    cases result with
    | ok info => exact steady_withSingleResult _ _
    | error error => exact steady_withOnlyErrorCode _ _
  | updateFileById =>
    refine keeps_bind (steady_perform _) fun fileId => keeps_bind (steady_perform _) fun data => ?_
    refine keeps_bind (keeps_unwrap _) fun authentication => ?_
    refine keeps_bind (steady_call (users.updateStorageFileData _ _ _ _)) fun result => ?_
    cases result <;> exact steady_withOnlyErrorCode _ _
  | getFileById =>
    refine keeps_bind (steady_perform _) fun fileId => ?_
    refine keeps_bind (keeps_unwrap _) fun authentication => ?_
    refine keeps_bind (steady_call (spares_findFile users publisher _ _ _)) fun result => ?_
    cases result with
    | ok file => exact steady_withSingleResult _ _
    | error error => exact steady_withOnlyErrorCode _ _
  | listFilesByOwner =>
    refine keeps_bind (steady_perform _) fun owner => keeps_bind (steady_perform _) fun since => ?_
    refine keeps_bind (steady_perform _) fun count => keeps_bind (steady_nextIs _) fun filtered => ?_
    refine keeps_ite (fun _ => keeps_bind (steady_perform _) fun filter => ?_) fun _ => ?_
    · exact keeps_bind (steady_call (users.filterStorageFiles _ _ _ _)) fun result =>
        steady_answerForFileInfos _ result
    · exact keeps_bind (steady_call (users.listStorageFiles _ _ _)) fun result =>
        steady_answerForFileInfos _ result
  | listPublisherFiles =>
    refine keeps_bind (steady_perform _) fun since => keeps_bind (steady_perform _) fun count => ?_
    refine keeps_bind (steady_nextIs _) fun filtered => ?_
    refine keeps_ite (fun _ => keeps_bind (steady_perform _) fun filter => ?_) fun _ => ?_
    · exact keeps_bind (steady_call (publisher.filterPublisherFiles _ _ _)) fun result =>
        steady_answerForFileInfos _ result
    · exact keeps_bind (steady_call (publisher.listPublisherFiles _ _)) fun result =>
        steady_answerForFileInfos _ result

end StorageHandler

namespace LobbyHandler

theorem steady_readTask {run : UInt8 → HandleM ω Reply} (steady : ∀ task, Steady P (run task)) :
    Steady P (readTask run) :=
  keeps_bind (steady_perform _) steady

theorem steady_answer {handler : LobbyHandler ω} (spares : handler.Spares P)
    (session : BdSession) : Steady P (handler.answer session) := by
  cases handler with
  | bandwidth endpoint =>
    refine keeps_bind (steady_perform _) fun _ => ?_
    exact steady_readTask (BandwidthHandler.steady_handleTask spares session)
  | contentStreaming handler =>
    exact steady_readTask (ContentStreamingHandler.steady_handleTask spares.1 spares.2 session)
  | counter service => exact steady_readTask (CounterHandler.steady_handleTask spares session)
  | group service => exact steady_readTask (GroupHandler.steady_handleTask spares session)
  | league => exact steady_readTask LeagueHandler.steady_handleTask
  | lsg service => exact LsgHandler.steady_answer spares session
  | matchMaking handler => exact steady_readTask (MatchMakingHandler.steady_handleTask spares session)
  | messaging router => exact steady_readTask (MessagingHandler.steady_handleTask spares session)
  | performance => exact steady_readTask PerformanceHandler.steady_handleTask
  | profile service => exact steady_readTask (ProfileHandler.steady_handleTask spares session)
  | richPresence service =>
    exact steady_readTask (RichPresenceHandler.steady_handleTask spares session)
  | storage handler =>
    exact steady_readTask (StorageHandler.steady_handleTask spares.1 spares.2 session)

theorem steady_handleMessage {handler : LobbyHandler ω} (spares : handler.Spares P)
    (session : BdSession) : Steady P (handler.handleMessage session) :=
  keeps_bind (steady_answer spares session) fun reply => keeps_respond reply

end LobbyHandler

end BitDemon
