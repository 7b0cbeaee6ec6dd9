import BitDemon.Lobby.Dispatch
import BitDemon.Lobby.SessionSearch

set_option autoImplicit false

/-!
# Advertised sessions, end to end

A connection advertises its session and others search for it. What they read from the
reply is what the connection sent last, with the id and the secret that it was given.
-/

namespace BitDemon

open Machine BdReader

inductive MatchMakingRequest where
  | create (info : MatchMakingInfo)
  | update (info : MatchMakingInfo)
  | delete (id : List UInt8)
  | find (query : SessionQuery)
  | unknown (taskIdValue : UInt8)
  deriving DecidableEq

namespace MatchMakingRequest

def read : ReadM MatchMakingRequest := do
  let taskIdValue ← readU8
  let _unrecovered ← readU8
  match MatchMakingTaskId.fromU8 taskIdValue with
  | none => pure (.unknown taskIdValue)
  | some .createSession => do
    let info ← readAdvertisement
    pure (.create info)
  | some .updateSession => do
    let info ← readAdvertisement
    pure (.update info)
  | some .deleteSession => do
    let id ← readBlob
    pure (.delete id)
  | some .findSessions => do
    let query ← SessionQuery.deserialize
    readTrailer
    pure (.find query)

variable {ω : Type}

def run (handler : MatchMakingHandler ω) (session : BdSession) :
    MatchMakingRequest → HandleM ω Reply
  | .create info => do
    let minted ← call (handler.registry.create session.id info)
    withResults MatchMakingTaskId.createSession.toU8
      [.sessionCreate ⟨minted.id.toList, minted.secret.toList⟩]
  | .update info => do
    handler.traceUpdate info
    let _updated ← call (handler.registry.update session.id info)
    withOnlyErrorCode .noError MatchMakingTaskId.updateSession.toU8
  | .delete id => do
    let _removed ← call (handler.registry.delete session.id id)
    withOnlyErrorCode .noError MatchMakingTaskId.deleteSession.toU8
  | .find query => do
    let sessions ← call (handler.registry.listFor session.id query)
    withResults MatchMakingTaskId.findSessions.toU8 (sessions.map .matchMakingInfo)
  | .unknown taskIdValue => withOnlyErrorCode .serviceNotAvailable taskIdValue

theorem answer_matchMaking (handler : MatchMakingHandler ω) (session : BdSession) :
    LobbyHandler.answer (.matchMaking handler) session = perform read >>= run handler session := by
  rw [LobbyHandler.answer, LobbyHandler.readTask, read, perform_bind, bind_assoc]
  refine bind_congr fun taskIdValue => ?_
  rw [MatchMakingHandler.handleTask, perform_bind, bind_assoc]
  refine bind_congr fun _ => ?_
  cases MatchMakingTaskId.fromU8 taskIdValue with
  | none => rw [perform_pure, pure_bind, run]
  | some task =>
    cases task with
    | createSession =>
      simp only [MatchMakingHandler.createSession, perform_bind, perform_pure, bind_assoc,
        pure_bind, run]
    | updateSession =>
      simp only [MatchMakingHandler.updateSession, perform_bind, perform_pure, bind_assoc,
        pure_bind, run]
    | deleteSession =>
      simp only [MatchMakingHandler.deleteSession, perform_bind, perform_pure, bind_assoc,
        pure_bind, run]
    | findSessions =>
      simp only [MatchMakingHandler.findSessions, perform_bind, perform_pure, bind_assoc,
        pure_bind, run]

def sent : MatchMakingRequest → Option MatchMakingInfo
  | .create info => some info
  | .update info => some info
  | .delete _ => none
  | .find _ => none
  | .unknown _ => none

theorem yields_readAdvertisement :
    Yields (fun _ => True) (fun _ => True) (fun info => info.address.length = addressLen)
      readAdvertisement := by
  have checked : Yields (fun _ => True) (fun _ => True)
      (fun info => info.address.length = addressLen) MatchMakingInfo.deserialize := by
    refine yields_bind (yields_any _) fun address _ => yields_bind (yields_any _) fun host _ => ?_
    refine yields_bind (yields_any _) fun key _ => ?_
    have ensured := (yields_ensure (.malformedAdvertisement address.length host.length key.length) :
      Yields (fun _ : BdReader => True) _ _ (ensure (address.length == addressLen
        && host.length == hostLen && key.length == keyLen) _)).imp (fun _ holds => holds)
        fun _ _ => trivial
    refine yields_bind ensured fun _ sizes => ?_
    rw [Bool.and_eq_true, Bool.and_eq_true, beq_iff_eq] at sizes
    refine yields_bind (yields_any _) fun _ _ => yields_bind (yields_any _) fun _ _ => ?_
    refine yields_bind (yields_any _) fun _ _ => yields_bind (yields_any _) fun _ _ => ?_
    exact yields_bind (yields_any _) fun _ _ => yields_pure sizes.1.1
  exact yields_bind checked fun info size => yields_bind (yields_any _) fun _ _ => yields_pure size

theorem yields_read :
    Yields (fun _ => True) (fun _ => True)
      (fun request => ∀ info, sent request = some info → info.address.length = addressLen)
      read := by
  refine yields_bind (yields_any _) fun taskIdValue _ => yields_bind (yields_any _) fun _ _ => ?_
  cases MatchMakingTaskId.fromU8 taskIdValue with
  | none => exact yields_pure (by simp [sent])
  | some task =>
    cases task with
    | createSession =>
      refine yields_bind yields_readAdvertisement fun info size => yields_pure ?_
      rintro _ ⟨⟩
      exact size
    | updateSession =>
      refine yields_bind yields_readAdvertisement fun info size => yields_pure ?_
      rintro _ ⟨⟩
      exact size
    | deleteSession => exact yields_bind (yields_any _) fun _ _ => yields_pure (by simp [sent])
    | findSessions =>
      refine yields_bind (yields_any _) fun _ _ => yields_bind (yields_any _) fun _ _ => ?_
      exact yields_pure (by simp [sent])

end MatchMakingRequest

-- what was sent, and the id and the secret that the session was given
structure Advertisement where
  sent : MatchMakingInfo
  minted : Minted
  deriving DecidableEq

namespace Advertisement

def entry (advertisement : Advertisement) : MatchMakingInfo :=
  RegistryState.withMinted advertisement.sent advertisement.minted

open RegistryState

/-- A session keeps its id and its secret until it is created anew or deleted. -/
def advertise (connection : SessionId) (current : Option Advertisement) :
    Op → Option Advertisement
  | .create c info minted => if c = connection then some ⟨info, minted⟩ else current
  | .update c info minted =>
    if c = connection then some ⟨info, (current.map Advertisement.minted).getD minted⟩ else current
  | .delete c id =>
    if c = connection ∧ current.map (fun a => a.minted.id.toList) = some id then none else current
  | .removeConnection c => if c = connection then none else current

def sends (connection : SessionId) (last : Option MatchMakingInfo) : Op → Option MatchMakingInfo
  | .create c info _ => if c = connection then some info else last
  | .update c info _ => if c = connection then some info else last
  | .delete _ _ => last
  | .removeConnection _ => last

abbrev advertised (ops : List Op) (connection : SessionId) : Option Advertisement :=
  Runs.run (advertise connection) none ops

abbrev mostRecent (ops : List Op) (connection : SessionId) : Option MatchMakingInfo :=
  Runs.run (sends connection) none ops

def sentBy : Op → Option MatchMakingInfo
  | .create _ info _ => some info
  | .update _ info _ => some info
  | .delete _ _ => none
  | .removeConnection _ => none

theorem advertise_cases {connection : SessionId} {current : Option Advertisement} {op : Op}
    {a : Advertisement} (advertises : advertise connection current op = some a) :
    (current = some a ∧ op ≠ .removeConnection connection
        ∧ ∀ last, sends connection last op = last)
      ∨ (op.connection = connection ∧ sentBy op = some a.sent
        ∧ ∀ last, sends connection last op = some a.sent) := by
  cases op with
  | create c info minted =>
    rw [advertise] at advertises
    split at advertises
    next own =>
      cases advertises
      exact .inr ⟨own, rfl, fun _ => if_pos own⟩
    next other => exact .inl ⟨advertises, by simp, fun _ => if_neg other⟩
  | update c info minted =>
    rw [advertise] at advertises
    split at advertises
    next own =>
      cases advertises
      exact .inr ⟨own, rfl, fun _ => if_pos own⟩
    next other => exact .inl ⟨advertises, by simp, fun _ => if_neg other⟩
  | delete c id =>
    rw [advertise] at advertises
    split at advertises
    next => cases advertises
    next => exact .inl ⟨advertises, by simp, fun _ => rfl⟩
  | removeConnection c =>
    rw [advertise] at advertises
    split at advertises
    next => cases advertises
    next other => exact .inl ⟨advertises, by simpa using other, fun _ => rfl⟩

theorem mostRecent_of_advertised (ops : List Op) {connection : SessionId} {a : Advertisement}
    (advertises : advertised ops connection = some a) : mostRecent ops connection = some a.sent := by
  induction ops using List.reverseRecOn generalizing a with
  | nil => cases advertises
  | append_singleton ops op ih =>
    rw [advertised, Runs.run_append] at advertises
    rw [mostRecent, Runs.run_append]
    rcases advertise_cases advertises with ⟨before, _, silent⟩ | ⟨_, _, sends⟩
    · exact (silent _).trans (ih before)
    · exact sends _

theorem advertise_other {connection : SessionId} (current : Option Advertisement) {op : Op}
    (apart : connection ≠ op.connection) : advertise connection current op = current := by
  have other : op.connection ≠ connection := apart.symm
  cases op with
  | create c info minted => exact if_neg other
  | update c info minted => exact if_neg other
  | delete c id => exact if_neg fun both => other both.1
  | removeConnection c => exact if_neg other

def Represents (state : RegistryState) (advertises : SessionId → Option Advertisement) : Prop :=
  ∀ connection, state.sessions.get connection = (advertises connection).map entry

theorem represents_own {state : RegistryState} (inverse : Inverse state) {op : Op}
    {connection : SessionId} (own : op.connection = connection) {current : Option Advertisement}
    (here : state.sessions.get connection = current.map entry) :
    (step state op).sessions.get connection = (advertise connection current op).map entry := by
  cases op with
  | create c info minted =>
    obtain rfl : c = connection := own
    rw [advertise, if_pos rfl]
    exact Table.get_put_self _ _ _
  | update c info minted =>
    obtain rfl : c = connection := own
    rw [advertise, if_pos rfl]
    cases current with
    | none =>
      have outcome := forget_fst state c
      rcases forgotten : state.forget c with ⟨before, rest⟩
      rw [forgotten, here] at outcome
      obtain rfl : before = none := outcome
      simp [step, update, forgotten, remember, entry]
    | some a => exact (update_existing state c info minted here).2
  | delete c id =>
    obtain rfl : c = connection := own
    have decides := delete_fst_iff inverse c id
    have own : (∃ info, state.sessions.get c = some info ∧ info.host = id)
        ↔ current.map (fun a => a.minted.id.toList) = some id := by
      rw [here]
      cases current <;> simp [entry, withMinted]
    rw [own] at decides
    change (state.delete c id).2.sessions.get c = _
    rw [delete_snd inverse, advertise]
    by_cases deleted : current.map (fun a => a.minted.id.toList) = some id
    · rw [if_pos (decides.mpr deleted), if_pos ⟨rfl, deleted⟩]
      exact forget_absent state c
    · rw [if_neg (fun gone => deleted (decides.mp gone)), if_neg (fun both => deleted both.2)]
      exact here
  | removeConnection c =>
    obtain rfl : c = connection := own
    rw [advertise, if_pos rfl]
    exact forget_absent state c

theorem represents_step {state : RegistryState} (inverse : Inverse state) {op : Op}
    (fresh : Fresh state op) {ops : List Op} (represents : Represents state (advertised ops)) :
    Represents (step state op) (advertised (ops ++ [op])) := by
  intro connection
  rw [advertised, Runs.run_append]
  by_cases own : connection = op.connection
  · exact represents_own inverse own.symm (represents connection)
  · rw [sessions_step_other inverse fresh own, represents connection, Runs.run_cons, Runs.run_nil,
      advertise_other _ own]

end Advertisement

section ReadBack

open Format

variable {mode : StreamMode} {typeChecked : Bool}

theorem reads_readI32s {n : Nat} (fields : Vector Int32 n) :
    Reads mode typeChecked (readI32s n)
      (valuesCode mode typeChecked (fields.toList.map .i32)) fields := by
  induction n with
  | zero =>
    obtain rfl : fields = #v[] := by simp
    exact Wire.accepts_pure _
  | succ n ih =>
    obtain ⟨front, last, rfl⟩ : ∃ front last, fields = Vector.push front last :=
      ⟨fields.pop, fields.back, (Vector.push_pop_back fields).symm⟩
    have whole : valuesCode mode typeChecked ((front.push last).toList.map .i32)
        = valuesCode mode typeChecked (front.toList.map .i32)
          ++ scalarCode mode typeChecked .signedInteger32Type .i32 last := by
      simp [valuesCode, Value.code, Vector.toList_push]
    rw [whole, readI32s]
    have read : Reads mode typeChecked readI32 _ last := reads_scalar (by decide) .i32 last
    exact Wire.accepts_bind (ih front) (Wire.accepts_finish read (Wire.accepts_pure _))

structure MatchMakingInfo.Sized (info : MatchMakingInfo) : Prop where
  address : info.address.length = addressLen
  host : info.host.length = hostLen
  key : info.key.length = keyLen

theorem MatchMakingInfo.reads_deserialize {info : MatchMakingInfo} (sized : info.Sized) :
    Reads mode typeChecked MatchMakingInfo.deserialize
      (valuesCode mode typeChecked (TaskResult.matchMakingInfo info).values) info := by
  have blob {value : List UInt8} {n : Nat} (length : value.length = n) (few : n < 2 ^ 32) :
      Reads mode typeChecked readBlob (blobCode mode typeChecked value) value :=
    reads_blob (by omega)
  have number (value : Int32) : Reads mode typeChecked readI32
      (scalarCode mode typeChecked .signedInteger32Type .i32 value) value :=
    reads_scalar (by decide) .i32 value
  have checked : Reads mode typeChecked
      (ensure (info.address.length == addressLen && info.host.length == hostLen
        && info.key.length == keyLen)
        (.malformedAdvertisement info.address.length info.host.length info.key.length)) [] () := by
    rw [sized.address, sized.host, sized.key]
    exact Wire.accepts_pure ()
  have code : valuesCode mode typeChecked (TaskResult.matchMakingInfo info).values
      = blobCode mode typeChecked info.address ++ (blobCode mode typeChecked info.host
        ++ (blobCode mode typeChecked info.key
        ++ (scalarCode mode typeChecked .signedInteger32Type .i32 info.freePublicSlots
        ++ (scalarCode mode typeChecked .signedInteger32Type .i32 info.usedPublicSlots
        ++ (scalarCode mode typeChecked .signedInteger32Type .i32 info.freePrivateSlots
        ++ (scalarCode mode typeChecked .signedInteger32Type .i32 info.usedPrivateSlots
        ++ valuesCode mode typeChecked (info.titleData.toList.map .i32))))))) := by
    simp [valuesCode, TaskResult.values, Value.code]
  rw [code]
  refine Wire.accepts_bind (blob sized.address (by decide)) ?_
  refine Wire.accepts_bind (blob sized.host (by decide)) ?_
  refine Wire.accepts_bind (blob sized.key (by decide)) (Wire.accepts_guard checked ?_)
  refine Wire.accepts_bind (number _) (Wire.accepts_bind (number _) ?_)
  refine Wire.accepts_bind (number _) (Wire.accepts_bind (number _) ?_)
  exact Wire.accepts_finish (reads_readI32s info.titleData) (Wire.accepts_pure _)

end ReadBack

-- what follows the type-checked bit: the header, the number of sessions, and each in turn
def readListed (n : Nat) : ReadM (UInt32 × List MatchMakingInfo) := do
  let _transactionId ← readU64
  let _errorCode ← readU32
  let _operationId ← readU8
  let numResults ← readU32
  let sessions ← Wire.readEach MatchMakingInfo.deserialize n
  pure (numResults, sessions)

def readSessions (n : Nat) : ReadM (UInt32 × List MatchMakingInfo) := do
  let _messageType ← readU8
  setMode .bitMode
  readTypeCheckedBit
  readListed n

section ReadBack

open Format TaskReply

def sessionsReply (transactionId : UInt64) (infos : List MatchMakingInfo) : TaskReply :=
  TaskReply.withResults transactionId MatchMakingTaskId.findSessions.toU8
    (infos.map .matchMakingInfo)

theorem reads_readListed (transactionId : UInt64) {infos : List MatchMakingInfo}
    (sized : ∀ info ∈ infos, info.Sized) :
    Reads .bitMode true (readListed infos.length)
      ((sessionsReply transactionId infos).headerCode ++ resultsCode (infos.map .matchMakingInfo))
      (UInt32.ofNat infos.length, infos) := by
  have results : resultsCode (infos.map TaskResult.matchMakingInfo)
      = infos.flatMap fun info =>
        valuesCode .bitMode true (TaskResult.matchMakingInfo info).values := List.flatMap_map ..
  have each : Reads .bitMode true (Wire.readEach MatchMakingInfo.deserialize infos.length) _ infos :=
    Wire.accepts_readEach infos fun info member =>
      MatchMakingInfo.reads_deserialize (sized info member)
  rw [results, headerCode, numResultsCode]
  simp only [sessionsReply, TaskReply.withResults, if_true, List.length_map, List.append_assoc]
  refine Wire.accepts_bind (reads_scalar (by decide) _ _) ?_
  refine Wire.accepts_bind (reads_scalar (by decide) _ _) ?_
  refine Wire.accepts_bind (reads_scalar (by decide) _ _) ?_
  refine Wire.accepts_bind (reads_scalar (by decide) _ _) ?_
  exact Wire.accepts_finish each (Wire.accepts_pure _)

theorem exec_readSessions (transactionId : UInt64) {infos : List MatchMakingInfo}
    (sized : ∀ info ∈ infos, info.Sized) :
    ∃ data, (sessionsReply transactionId infos).toResponse = .ok (.encryptedIfAvailable data)
      ∧ (exec (readSessions infos.length) (BdReader.new data)).1
        = .ok (UInt32.ofNat infos.length, infos) := by
  have other : ∀ result ∈ (sessionsReply transactionId infos).results,
      result.isStreamInfo = false := by
    intro result member
    obtain ⟨info, _, rfl⟩ := List.mem_map.mp member
    rfl
  obtain ⟨data, n, built, sent⟩ := TaskReply.toResponse_code other
  have whole : Bits.ofBytes data = startCode ++ [true]
      ++ ((sessionsReply transactionId infos).headerCode
        ++ resultsCode (infos.map .matchMakingInfo)) ++ List.replicate n false := by
    rw [sent]
    simp only [List.append_assoc]
    rfl
  have read := @ReplyContent.exec_afterStart _ (fun _ => readListed infos.length) _ _ _ _
    (reads_readListed transactionId sized) whole
  exact ⟨data, built, read⟩

end ReadBack

structure LockedRegistry where
  state : RegistryState
  poisoned : Bool

namespace LockedRegistry

def new : LockedRegistry := { state := .new, poisoned := false }

variable {α : Type}

def locked (body : Fallible LockedRegistry α) : Fallible LockedRegistry α :=
  Mutex.guarded poisoned (fun r => { r with poisoned := true }) SessionManager.unwinds
    (.panic .unwrapOnError) body

def onState (f : RegistryState → α × RegistryState) : Fallible LockedRegistry α := do
  let r ← get
  set { r with state := (f r.state).2 }
  pure (f r.state).1

-- what `mint` and the iteration of the hash map come to is given
def registry (checks : Bool) (minted : Minted) (iteration : Iteration) :
    SessionRegistry LockedRegistry :=
  { create := fun connection info =>
      locked (onState fun state => state.create connection info minted)
    update := fun connection info =>
      locked (onState fun state => state.update connection info minted)
    delete := fun connection id => locked (onState fun state => state.delete connection id)
    listFor := fun connection query => locked do
      let r ← get
      r.state.listFor checks iteration connection query }

def removeConnection (connection : SessionId) : Fallible LockedRegistry Bool :=
  locked (onState fun state => state.removeConnection connection)

theorem exec_locked_onState (f : RegistryState → α × RegistryState) {r : LockedRegistry}
    (free : r.poisoned = false) :
    exec (locked (onState f)) r = (.ok (f r.state).1, { r with state := (f r.state).2 }) :=
  Mutex.exec_guarded_ok free rfl

theorem exec_locked_poisoned (body : Fallible LockedRegistry α) {r : LockedRegistry}
    (held : r.poisoned = true) : exec (locked body) r = (.error (.panic .unwrapOnError), r) :=
  Mutex.exec_guarded_poisoned held

theorem exec_listFor (checks : Bool) (minted : Minted) (iteration : Iteration)
    (connection : SessionId) (query : SessionQuery) {r : LockedRegistry}
    (free : r.poisoned = false) :
    (∃ fault, exec ((registry checks minted iteration).listFor connection query) r
        = (.error fault, { r with poisoned := true }))
      ∨ ∃ infos, exec ((registry checks minted iteration).listFor connection query) r
          = (.ok infos, r)
        ∧ ∀ info ∈ infos, info.Satisfies query
          ∧ ∃ c, c ≠ connection ∧ r.state.sessions.get c = some info := by
  have searched := @RegistryState.yields_listFor LockedRegistry checks (· = r) iteration r.state
    connection query r rfl
  rcases ran : exec (r.state.listFor checks iteration connection query) r with ⟨outcome, after⟩
  rw [ran] at searched
  obtain ⟨same, listed, unwinding⟩ := searched
  obtain rfl : after = r := same
  cases outcome with
  | error fault =>
    exact .inl ⟨fault, Mutex.exec_guarded_unwind free ran (unwinding fault rfl)⟩
  | ok infos => exact .inr ⟨infos, Mutex.exec_guarded_ok free ran, listed infos rfl⟩

end LockedRegistry

end BitDemon
