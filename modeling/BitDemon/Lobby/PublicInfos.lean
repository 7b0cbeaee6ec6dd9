import BitDemon.Lobby.ArgumentLists

set_option autoImplicit false

/-!
# Asking for public profiles

The handler looks for another user id after the last one and fails if not even a
tag is left. Whether one is left hangs on how many ids there are.
-/

namespace BitDemon

open Machine Bits BdReader Format

namespace ProfileHandler

variable {ω : Type}

/-- What follows the service id: the last byte is filled up, and bytes of zeros follow it. -/
def publicInfosBody (userIds : List UInt64) (padding : Nat) : List UInt8 :=
  pack (true :: (Value.code .bitMode true (.u8 ProfileTaskId.getPublicInfos.toU8)
      ++ userIds.flatMap userCode))
    ++ List.replicate padding 0

-- the server enters the framing before it calls the handler
def receive (service : ProfileService ω) (session : BdSession) : HandleM ω BdResponse := do
  perform (LobbyServer.enterFraming (some (.profile service)))
  (LobbyHandler.profile service).handleMessage session

def answerProfiles : Except ProfileServiceError (List ProfileInfo) → HandleM ω Reply
  | .ok profileInfos =>
    withResults ProfileTaskId.getPublicInfos.toU8 (profileInfos.map .profileInfo)
  | .error code => handleProfileError code .getPublicInfos

def Served (userIds : List UInt64) (padding : Nat) : Prop :=
  ∀ (ω : Type) (service : ProfileService ω) (session : BdSession) (h : Handling ω),
    h.reader.Ready .byteMode false → h.reader.cursor = publicInfosBody userIds padding →
    (∃ reader, exec (receive service session) h
        = exec (call (service.getPublicProfiles session userIds) >>= answerProfiles >>= respond)
          { h with reader := reader })
      ∧ ∀ result world,
        exec (service.getPublicProfiles session userIds) h.world = (.ok result, world) →
        ∃ response, (exec (receive service session) h).1 = .ok response

def bitsAfter (userIds : List UInt64) (padding : Nat) : Nat :=
  (8 - (14 + 69 * userIds.length) % 8) % 8 + 8 * padding

theorem length_users (userIds : List UInt64) :
    (userIds.flatMap userCode).length = 69 * userIds.length := by
  induction userIds with
  | nil => rfl
  | cons userId rest ih =>
    have here : (userCode userId).length = 69 := length_scalarCode _ _ _
    rw [List.flatMap_cons, List.length_append, ih, here, List.length_cons]
    omega

theorem ofBytes_zeros (n : Nat) : ofBytes (List.replicate n 0) = List.replicate (8 * n) false := by
  induction n with
  | zero => rfl
  | succ n ih =>
    have byte : ofByte 0 = List.replicate 8 false := by decide
    rw [List.replicate_succ, ofBytes_cons, ih, byte, List.replicate_append_replicate]
    congr 1
    omega

theorem ofBytes_publicInfosBody (userIds : List UInt64) (padding : Nat) :
    ofBytes (publicInfosBody userIds padding)
      = true :: (Value.code .bitMode true (.u8 ProfileTaskId.getPublicInfos.toU8)
        ++ (userIds.flatMap userCode ++ List.replicate (bitsAfter userIds padding) false)) := by
  have task : (Value.code .bitMode true (.u8 ProfileTaskId.getPublicInfos.toU8)).length = 13 :=
    length_scalarCode _ _ _
  have size : (true :: (Value.code .bitMode true (.u8 ProfileTaskId.getPublicInfos.toU8)
      ++ userIds.flatMap userCode)).length = 14 + 69 * userIds.length := by
    rw [List.length_cons, List.length_append, task, length_users]
    omega
  rw [publicInfosBody, ofBytes_append, ofBytes_pack, size, ofBytes_zeros, List.append_assoc,
    List.replicate_append_replicate, List.cons_append, List.append_assoc]
  rfl

theorem five_le_bitsAfter_iff (userIds : List UInt64) (padding : Nat) :
    5 ≤ bitsAfter userIds padding
      ↔ 0 < padding ∨ userIds.length % 8 = 1 ∨ userIds.length % 8 = 4 ∨ userIds.length % 8 = 7 := by
  have residue : (14 + 69 * userIds.length) % 8 = (6 + 5 * (userIds.length % 8)) % 8 := by omega
  have small : userIds.length % 8 < 8 := Nat.mod_lt _ (by decide)
  rw [bitsAfter, residue]
  generalize userIds.length % 8 = k at small
  have cases : k = 0 ∨ k = 1 ∨ k = 2 ∨ k = 3 ∨ k = 4 ∨ k = 5 ∨ k = 6 ∨ k = 7 := by omega
  rcases cases with rfl | rfl | rfl | rfl | rfl | rfl | rfl | rfl <;> omega

section Loop

variable {frame s : Handling ω} {userIds : List UInt64} {n : Nat}

theorem exec_readUsers_ok (holding : Holding frame s)
    (starts : s.reader.bits = userIds.flatMap userCode ++ List.replicate n false)
    (enough : 5 ≤ n) :
    ∃ reader, exec (collectWhile (perform nextIsU64) (perform readU64)) s
      = (.ok userIds, { frame with reader := reader }) := by
  have turns : exec loopTurns s = (.ok (s.reader.cursor.length + 2), s) := rfl
  have short := length_lt_turns (wide_scalar (by decide)) holding.1 starts
  obtain ⟨t, left, there, ends, ran⟩ :=
    exec_untilNone (takes_nextIs (by decide)) short holding starts
  obtain ⟨reader, looked⟩ := @exec_nextIs_zeros t.reader .unsignedInteger64Type n (by decide) there.1
    ends enough
  have stopped : exec (nextIf (perform nextIsU64) (perform readU64)) t = _ :=
    exec_nextIf_false (exec_perform_ok looked)
  refine ⟨reader, ?_⟩
  rw [collectWhile, exec_bind_ok _ turns, collectLoop_eq, nextIsU64, readU64, ran, untilNone,
    bind_assoc]
  rw [nextIsU64, readU64] at stopped
  rw [exec_bind_ok _ stopped, there.frame_eq]
  simp only [pure_bind, List.append_nil, exec_pure]

theorem exec_readUsers_short (holding : Holding frame s)
    (starts : s.reader.bits = userIds.flatMap userCode ++ List.replicate n false)
    (few : n < 5) :
    ∃ reader, exec (collectWhile (perform nextIsU64) (perform readU64)) s
      = (.error (.error .unexpectedEof), { frame with reader := reader }) := by
  have turns : exec loopTurns s = (.ok (s.reader.cursor.length + 2), s) := rfl
  have short := length_lt_turns (wide_scalar (by decide)) holding.1 starts
  obtain ⟨t, left, there, ends, ran⟩ :=
    exec_untilNone (takes_nextIs (by decide)) short holding starts
  have few' : t.reader.bits.length < 5 := by rw [ends, List.length_replicate]; exact few
  have looked := @exec_nextIs_short t.reader .unsignedInteger64Type there.1 few'
  have stopped : exec (nextIf (perform (nextIs .unsignedInteger64Type))
      (perform (readScalar .unsignedInteger64Type .u64))) t = _ :=
    exec_bind_error _ (exec_perform_error looked rfl)
  refine ⟨t.reader, ?_⟩
  rw [collectWhile, exec_bind_ok _ turns, collectLoop_eq, nextIsU64, readU64, ran, untilNone,
    bind_assoc, exec_bind_error _ stopped, there.frame_eq]

end Loop

section Request

variable {service : ProfileService ω} {session : BdSession} {h : Handling ω}
  {userIds : List UInt64} {padding : Nat}

theorem exec_receive (ready : h.reader.Ready .byteMode false)
    (body : h.reader.cursor = publicInfosBody userIds padding) :
    ∃ t, Holding h t
      ∧ t.reader.bits = userIds.flatMap userCode
        ++ List.replicate (bitsAfter userIds padding) false
      ∧ exec (receive service session) h = exec (getPublicInfos service session >>= respond) t := by
  have starts : h.reader.bits = _ :=
    (bits_whole (ready.aligned rfl)).trans (body ▸ ofBytes_publicInfosBody userIds padding)
  obtain ⟨r, checked, readyBits, left⟩ := reads_typeCheckedBit _ true _ (ready_setMode ready) starts
  have framing : (LobbyServer.enterFraming (some (.profile service)) : ReadM Unit) = (do
      setMode .bitMode
      readTypeCheckedBit) := if_pos (by simp [LobbyHandler.framing])
  have entered : exec (perform (LobbyServer.enterFraming (some (.profile service)))) h
      = (.ok (), { h with reader := r }) := by
    refine exec_perform_ok ?_
    rw [framing]
    exact (exec_bind_ok _ (show exec (setMode .bitMode) h.reader = (.ok (), _) from rfl)).trans
      checked
  have holding : Holding h { h with reader := r } := ⟨readyBits, rfl⟩
  obtain ⟨t, after, leaves, ran⟩ :=
    ListRequest.read_field (ListRequest.reads_u8 _) holding left
  have task : ProfileTaskId.fromU8 ProfileTaskId.getPublicInfos.toU8 = some .getPublicInfos := rfl
  refine ⟨t, after, leaves, ?_⟩
  rw [receive, exec_bind_ok _ entered, LobbyHandler.handleMessage, LobbyHandler.answer,
    LobbyHandler.readTask, bind_assoc, ran, handleTask, task]

theorem getPublicInfos_eq (service : ProfileService ω) (session : BdSession) :
    getPublicInfos service session = (do
      let userIds ← collectWhile (perform nextIsU64) (perform readU64)
      call (service.getPublicProfiles session userIds) >>= answerProfiles) := by
  rw [getPublicInfos]
  refine bind_congr fun userIds => bind_congr fun result => ?_
  cases result <;> rfl

theorem exec_receive_ok (ready : h.reader.Ready .byteMode false)
    (body : h.reader.cursor = publicInfosBody userIds padding)
    (enough : 5 ≤ bitsAfter userIds padding) :
    ∃ reader, exec (receive service session) h
      = exec (call (service.getPublicProfiles session userIds) >>= answerProfiles >>= respond)
        { h with reader := reader } := by
  obtain ⟨t, holding, starts, ran⟩ := @exec_receive ω service session h userIds padding ready body
  obtain ⟨reader, looped⟩ := exec_readUsers_ok holding starts enough
  refine ⟨reader, ?_⟩
  rw [ran, getPublicInfos_eq, bind_assoc, exec_bind_ok _ looped]

theorem exec_receive_short (ready : h.reader.Ready .byteMode false)
    (body : h.reader.cursor = publicInfosBody userIds padding)
    (few : bitsAfter userIds padding < 5) :
    (exec (receive service session) h).1 = .error (.error .unexpectedEof) := by
  obtain ⟨t, holding, starts, ran⟩ := @exec_receive ω service session h userIds padding ready body
  obtain ⟨reader, stopped⟩ := exec_readUsers_short holding starts few
  rw [ran, getPublicInfos_eq, bind_assoc, exec_bind_error _ stopped]

theorem exec_respond_task {reply : TaskReply}
    (other : ∀ result ∈ reply.results, result.isStreamInfo = false) (h : Handling ω) :
    ∃ response, (exec (respond (.task reply)) h).1 = .ok response := by
  obtain ⟨data, n, built, _⟩ := TaskReply.toResponse_code other
  refine ⟨.encryptedIfAvailable data, ?_⟩
  rw [respond, Reply.toResponse_task, built]
  rfl

theorem exec_withResults (operationId : UInt8) (results : List TaskResult) (h : Handling ω) :
    exec (withResults operationId results) h
      = (.ok (.task (TaskReply.withResults h.transactionIdCounter operationId results)),
        { h with transactionIdCounter := h.transactionIdCounter + 1 }) := rfl

theorem exec_withOnlyErrorCode (errorCode : BdErrorCode) (operationId : UInt8) (h : Handling ω) :
    exec (withOnlyErrorCode errorCode operationId) h
      = (.ok (.task (TaskReply.withOnlyErrorCode h.transactionIdCounter errorCode operationId)),
        { h with transactionIdCounter := h.transactionIdCounter + 1 }) := rfl

theorem exec_answerProfiles (result : Except ProfileServiceError (List ProfileInfo))
    (h : Handling ω) : ∃ response, (exec (answerProfiles result >>= respond) h).1 = .ok response := by
  cases result with
  | ok profileInfos =>
    rw [answerProfiles, exec_bind_ok _ (exec_withResults _ _ h)]
    refine exec_respond_task ?_ _
    intro result member
    obtain ⟨info, _, rfl⟩ := List.mem_map.mp member
    rfl
  | error code =>
    have none : ∀ (errorCode : BdErrorCode) (operationId : UInt8),
        ∀ result ∈ (TaskReply.withOnlyErrorCode h.transactionIdCounter errorCode operationId).results,
          result.isStreamInfo = false := by
      intro errorCode operationId result member
      cases member
    cases code with
    | permissionDenied =>
      rw [answerProfiles, handleProfileError, exec_bind_ok _ (exec_withOnlyErrorCode _ _ h)]
      exact exec_respond_task (none _ _) _
    | noProfileInfoFound =>
      rw [answerProfiles, handleProfileError, exec_bind_ok _ (exec_withOnlyErrorCode _ _ h)]
      exact exec_respond_task (none _ _) _

theorem served_of_enough (enough : 5 ≤ bitsAfter userIds padding) : Served userIds padding := by
  intro ω service session h ready body
  obtain ⟨reader, ran⟩ :=
    @exec_receive_ok ω service session h userIds padding ready body enough
  refine ⟨⟨reader, ran⟩, fun result world answered => ?_⟩
  have called : exec (call (service.getPublicProfiles session userIds)) { h with reader := reader }
      = (.ok result, { h with reader := reader, world := world }) := by
    rw [exec_call, answered]
  rw [ran, bind_assoc, exec_bind_ok _ called]
  exact exec_answerProfiles result _

end Request

-- it knows no profile, and says so
def noProfiles : ProfileService Unit :=
  { getPublicProfiles := fun _ _ => pure (.ok [])
    getPrivateProfile := fun _ => pure (.error .noProfileInfoFound)
    setPublicProfile := fun _ _ => pure (.ok ())
    setPrivateProfile := fun _ _ => pure (.ok ())
    deleteProfile := fun _ => pure (.ok ()) }

def asking (userIds : List UInt64) (padding : Nat) : Handling Unit :=
  { reader := BdReader.new (publicInfosBody userIds padding)
    demanded := [], transactionIdCounter := 1, world := () }

theorem not_served_of_few {userIds : List UInt64} {padding : Nat}
    (few : bitsAfter userIds padding < 5) : ¬Served userIds padding := by
  intro served
  have ready : (asking userIds padding).reader.Ready .byteMode false := ready_new _
  obtain ⟨response, answered⟩ := (served Unit noProfiles
    { id := 1, authentication := none, peerAddr := none } (asking userIds padding) ready rfl).2
    (.ok []) () rfl
  rw [exec_receive_short ready rfl few] at answered
  cases answered

/--
The users are looked up exactly if a byte of padding follows, or the ids happen
to leave five bits of their last byte: one more than a multiple of eight, four
or seven more.
-/
theorem served_iff (userIds : List UInt64) (padding : Nat) :
    Served userIds padding
      ↔ 0 < padding ∨ userIds.length % 8 = 1 ∨ userIds.length % 8 = 4
        ∨ userIds.length % 8 = 7 := by
  rw [← five_le_bitsAfter_iff]
  constructor
  · intro served
    by_contra few
    exact not_served_of_few (Nat.lt_of_not_le few) served
  · exact served_of_enough

theorem two_users_refused :
    (exec (receive noProfiles { id := 1, authentication := none, peerAddr := none })
        (asking [7, 8] 0)).1 = .error (.error .unexpectedEof)
      ∧ (exec (receive noProfiles { id := 1, authentication := none, peerAddr := none })
        (asking [] 0)).1 = .error (.error .unexpectedEof)
      ∧ ¬∀ (userIds : List UInt64) (padding : Nat), Served userIds padding :=
  ⟨exec_receive_short (ready_new _) rfl (by decide), exec_receive_short (ready_new _) rfl (by decide),
    fun all => not_served_of_few (by decide) (all [7, 8] 0)⟩

end ProfileHandler

end BitDemon
