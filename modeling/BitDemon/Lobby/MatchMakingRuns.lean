import BitDemon.Lobby.Advertisements

set_option autoImplicit false

/-!
# Runs of matchmaking requests

Connections advertise, search and go, in any order. One registry serves them all behind
its lock.
-/

namespace BitDemon

open Machine BdReader RegistryState

structure MatchMakingMessage where
  session : BdSession
  message : BdReader
  counter : UInt64
  minted : Minted
  iteration : Iteration

def MatchMakingRequest.op (connection : SessionId) (minted : Minted) :
    MatchMakingRequest → Option Op
  | .create info => some (.create connection info minted)
  | .update info => some (.update connection info minted)
  | .delete id => some (.delete connection id)
  | .find _ => none
  | .unknown _ => none

-- a request that cannot be read asks the registry nothing
def MatchMakingMessage.op (m : MatchMakingMessage) : Option Op :=
  match (exec MatchMakingRequest.read m.message).1 with
  | .ok request => request.op m.session.id m.minted
  | .error _ => none

inductive MatchMakingEvent where
  | connect (connection : SessionId)
  | message (m : MatchMakingMessage)
  | disconnect (connection : SessionId)

def MatchMakingEvent.op : MatchMakingEvent → Option Op
  | .connect _ => none
  | .message m => m.op
  | .disconnect connection => some (.removeConnection connection)

structure MatchMakingServer where
  live : List SessionId
  registry : LockedRegistry

namespace MatchMakingServer

def start : MatchMakingServer := { live := [], registry := .new }

variable (checks traces : Bool)

def handler (m : MatchMakingMessage) : MatchMakingHandler LockedRegistry :=
  { registry := LockedRegistry.registry checks m.minted m.iteration, checks, traces }

def serve (m : MatchMakingMessage) : Fallible LockedRegistry BdResponse := fun r =>
  match exec (LobbyHandler.handleMessage (.matchMaking (handler checks traces m)) m.session)
    { reader := m.message, demanded := [], transactionIdCounter := m.counter, world := r } with
  | (outcome, handled) => (outcome, handled.world)

def step (server : MatchMakingServer) : MatchMakingEvent → MatchMakingServer
  | .connect connection => { server with live := connection :: server.live }
  | .message m => { server with registry := (exec (serve checks traces m) server.registry).2 }
  | .disconnect connection =>
    { live := server.live.filter (· ≠ connection)
      registry := (exec (LockedRegistry.removeConnection connection) server.registry).2 }

/-- Requests come from live connections, and `mint` only returns unused ids. -/
def Orderly (server : MatchMakingServer) : MatchMakingEvent → Prop
  | .connect _ => True
  | .message m =>
    m.session.id ∈ server.live
      ∧ (server.registry.poisoned = false → ∀ op ∈ m.op, Fresh server.registry.state op)
  | .disconnect _ => True

/-- The public slots of an update that is traced add up, where sums that do not panic. -/
def Countable (checks traces : Bool) (m : MatchMakingMessage) : Prop :=
  ∀ info, (exec MatchMakingRequest.read m.message).1 = .ok (.update info) →
    checks = true → traces = true →
    fitsI32 (info.usedPublicSlots.toInt + info.freePublicSlots.toInt) = true

def Counted (checks traces : Bool) (_server : MatchMakingServer) : MatchMakingEvent → Prop
  | .connect _ => True
  | .message m => Countable checks traces m
  | .disconnect _ => True

variable {checks traces} {m : MatchMakingMessage} {r : LockedRegistry}

theorem exec_serve_unread {fault : Fault}
    (unread : (exec MatchMakingRequest.read m.message).1 = .error fault) :
    exec (serve checks traces m) r = (.error fault, r) := by
  obtain ⟨demanded, performed⟩ := @exec_perform LockedRegistry _ MatchMakingRequest.read
    ⟨m.message, [], m.counter, r⟩
  rw [unread] at performed
  rw [exec, serve, LobbyHandler.handleMessage, MatchMakingRequest.answer_matchMaking, bind_assoc,
    exec_bind_error _ performed]

def answer (checks traces : Bool) (m : MatchMakingMessage) (request : MatchMakingRequest) :
    HandleM LockedRegistry BdResponse :=
  request.run (handler checks traces m) m.session >>= respond

theorem exec_serve_read {request : MatchMakingRequest}
    (asked : (exec MatchMakingRequest.read m.message).1 = .ok request) :
    ∃ h : Handling LockedRegistry, h.transactionIdCounter = m.counter ∧ h.world = r
      ∧ exec (serve checks traces m) r = ((exec (answer checks traces m request) h).1,
        (exec (answer checks traces m request) h).2.world) := by
  obtain ⟨demanded, performed⟩ := @exec_perform LockedRegistry _ MatchMakingRequest.read
    ⟨m.message, [], m.counter, r⟩
  rw [asked] at performed
  refine ⟨⟨(exec MatchMakingRequest.read m.message).2, demanded, m.counter, r⟩, rfl, rfl, ?_⟩
  rw [exec, serve, LobbyHandler.handleMessage, MatchMakingRequest.answer_matchMaking, bind_assoc,
    exec_bind_ok _ performed, answer]

theorem asked_of_op {op : Op} (asks : m.op = some op) :
    ∃ request, (exec MatchMakingRequest.read m.message).1 = .ok request
      ∧ request.op m.session.id m.minted = some op := by
  unfold MatchMakingMessage.op at asks
  split at asks
  next request asked => exact ⟨request, asked, asks⟩
  next => cases asks

theorem world_call {ω α β : Type} (c : Fallible ω α) {f : α → HandleM ω β}
    (steady : ∀ a, ∀ P, Steady P (f a)) (h : Handling ω) :
    (exec (call c >>= f) h).2.world = (exec c h.world).2 := by
  rw [exec_bind, exec_call]
  rcases exec c h.world with ⟨outcome, world⟩
  cases outcome with
  | error fault => rfl
  | ok a => exact (steady a (· = world) { h with world := world } rfl).1

theorem exec_serve_op {op : Op} (asks : m.op = some op) (countable : Countable checks traces m)
    (free : r.poisoned = false) :
    (exec (serve checks traces m) r).2 = { r with state := RegistryState.step r.state op } := by
  obtain ⟨request, asked, speaks⟩ := asked_of_op asks
  obtain ⟨h, _, rfl, ran⟩ := @exec_serve_read checks traces m r request asked
  rw [ran]
  cases request with
  | create info =>
    obtain rfl := Option.some.inj speaks
    rw [answer, MatchMakingRequest.run, bind_assoc, world_call _ fun _ _ =>
      keeps_bind (steady_withResults _ _) fun _ => keeps_respond _]
    exact congrArg Prod.snd (LockedRegistry.exec_locked_onState _ free)
  | update info =>
    obtain rfl := Option.some.inj speaks
    have traced : exec ((handler checks traces m).traceUpdate info) h = (.ok (), h) :=
      MatchMakingHandler.exec_traceUpdate (countable info asked)
    rw [answer, MatchMakingRequest.run, bind_assoc, exec_bind_ok _ traced, bind_assoc,
      world_call _ fun _ _ =>
      keeps_bind (steady_withOnlyErrorCode _ _) fun _ => keeps_respond _]
    exact congrArg Prod.snd (LockedRegistry.exec_locked_onState _ free)
  | delete id =>
    obtain rfl := Option.some.inj speaks
    rw [answer, MatchMakingRequest.run, bind_assoc, world_call _ fun _ _ =>
      keeps_bind (steady_withOnlyErrorCode _ _) fun _ => keeps_respond _]
    exact congrArg Prod.snd (LockedRegistry.exec_locked_onState _ free)
  | find query => cases speaks
  | unknown taskIdValue => cases speaks

theorem exec_serve_other (asks : m.op = none) (free : r.poisoned = false) :
    (exec (serve checks traces m) r).2 = r
      ∨ (exec (serve checks traces m) r).2 = { r with poisoned := true } := by
  unfold MatchMakingMessage.op at asks
  cases asked : (exec MatchMakingRequest.read m.message).1 with
  | error fault =>
    rw [exec_serve_unread asked]
    exact .inl rfl
  | ok request =>
    rw [asked] at asks
    obtain ⟨h, _, rfl, ran⟩ := @exec_serve_read checks traces m r request asked
    rw [ran]
    cases request with
    | create info => cases asks
    | update info => cases asks
    | delete id => cases asks
    | find query =>
      rw [answer, MatchMakingRequest.run, bind_assoc, world_call _ fun _ _ =>
        keeps_bind (steady_withResults _ _) fun _ => keeps_respond _]
      rcases LockedRegistry.exec_listFor checks m.minted m.iteration m.session.id query free with
        ⟨fault, poisoned⟩ | ⟨infos, listed, _⟩
      · exact .inr (congrArg Prod.snd poisoned)
      · exact .inl (congrArg Prod.snd listed)
    | unknown taskIdValue =>
      have steady (P : LockedRegistry → Prop) : Steady P (answer checks traces m (.unknown taskIdValue)) :=
        keeps_bind (steady_withOnlyErrorCode _ _) fun _ => keeps_respond _
      have kept := (steady (· = h.world) h rfl).1
      dsimp only at kept ⊢
      exact .inl kept

theorem exec_serve_poisoned (held : r.poisoned = true) : (exec (serve checks traces m) r).2 = r := by
  have spares {α : Type} (body : Fallible LockedRegistry α) :
      CallSpares (· = r) (LockedRegistry.locked body) := by
    rintro _ rfl
    rw [LockedRegistry.exec_locked_poisoned body held]
    exact ⟨rfl, fun _ _ => trivial⟩
  have registry : (LockedRegistry.registry checks m.minted m.iteration).Spares (· = r) :=
    ⟨fun _ _ => spares _, fun _ _ => spares _, fun _ _ => spares _, fun _ _ => spares _⟩
  have kept := @LobbyHandler.steady_handleMessage _ (· = r) (.matchMaking (handler checks traces m))
    registry m.session
  exact (kept ⟨m.message, [], m.counter, r⟩ rfl).1

theorem exec_findReply (infos : List MatchMakingInfo) (h : Handling LockedRegistry) :
    (exec (withResults MatchMakingTaskId.findSessions.toU8 (infos.map .matchMakingInfo)
      >>= respond) h).1 = (sessionsReply h.transactionIdCounter infos).toResponse := by
  have counted : exec (withResults MatchMakingTaskId.findSessions.toU8
      (infos.map .matchMakingInfo)) h
      = (.ok (.task (sessionsReply h.transactionIdCounter infos)),
          { h with transactionIdCounter := h.transactionIdCounter + 1 }) := by
    rw [withResults, nextTransactionId, exec_bind, exec_bind, exec_get]
    dsimp only
    rw [exec_bind, exec_modify]
    dsimp only
    rw [exec_pure]
    dsimp only
    rw [exec_pure, sessionsReply]
  rw [exec_bind_ok _ counted, respond, Reply.toResponse_task]
  cases (sessionsReply h.transactionIdCounter infos).toResponse <;> rfl

theorem exec_serve_find {query : SessionQuery} {response : BdResponse}
    (asked : (exec MatchMakingRequest.read m.message).1 = .ok (.find query))
    (answered : (exec (serve checks traces m) r).1 = .ok response) :
    r.poisoned = false ∧ ∃ infos, (sessionsReply m.counter infos).toResponse = .ok response
      ∧ ∀ info ∈ infos, info.Satisfies query
        ∧ ∃ c, c ≠ m.session.id ∧ r.state.sessions.get c = some info := by
  obtain ⟨h, counter, rfl, ran⟩ := @exec_serve_read checks traces m r _ asked
  rw [ran, answer, MatchMakingRequest.run, bind_assoc, exec_bind, exec_call] at answered
  dsimp only [handler] at answered
  cases held : h.world.poisoned with
  | true =>
    rw [show exec ((LockedRegistry.registry checks m.minted m.iteration).listFor m.session.id query)
      h.world = _ from LockedRegistry.exec_locked_poisoned _ held] at answered
    cases answered
  | false =>
    refine ⟨rfl, ?_⟩
    rcases LockedRegistry.exec_listFor checks m.minted m.iteration m.session.id query held with
      ⟨fault, poisoned⟩ | ⟨infos, listed, found⟩
    · rw [poisoned] at answered
      cases answered
    · rw [listed] at answered
      dsimp only at answered
      refine ⟨infos, ?_, found⟩
      rw [exec_findReply] at answered
      rw [← counter]
      exact answered

open Advertisement

structure Advertises (server : MatchMakingServer) (ops : List Op) : Prop where
  inverse : Inverse server.registry.state
  represents : Represents server.registry.state (advertised ops)
  alive : ∀ connection a, advertised ops connection = some a → connection ∈ server.live
  address : ∀ connection a, advertised ops connection = some a →
    a.sent.address.length = addressLen

theorem op_of_request {request : MatchMakingRequest} {connection : SessionId} {minted : Minted}
    {op : Op} (asks : request.op connection minted = some op) :
    op.connection = connection ∧ sentBy op = request.sent := by
  cases request with
  | create info =>
    obtain rfl := Option.some.inj asks
    exact ⟨rfl, rfl⟩
  | update info =>
    obtain rfl := Option.some.inj asks
    exact ⟨rfl, rfl⟩
  | delete id =>
    obtain rfl := Option.some.inj asks
    exact ⟨rfl, rfl⟩
  | find query => cases asks
  | unknown taskIdValue => cases asks

theorem op_of_message {m : MatchMakingMessage} {op : Op} (asks : m.op = some op) :
    op.connection = m.session.id
      ∧ ∀ info, sentBy op = some info → info.address.length = addressLen := by
  obtain ⟨request, asked, speaks⟩ := asked_of_op asks
  obtain ⟨own, same⟩ := op_of_request speaks
  refine ⟨own, fun info sends => ?_⟩
  rw [same] at sends
  exact (MatchMakingRequest.yields_read m.message trivial).2.1 request asked info sends

theorem Advertises.op {server after : MatchMakingServer} {ops : List Op}
    (advertises : server.Advertises ops) {op : Op} (fresh : Fresh server.registry.state op)
    (state : after.registry.state = RegistryState.step server.registry.state op)
    (stay : ∀ connection ∈ server.live, op ≠ .removeConnection connection →
      connection ∈ after.live)
    (sent : ∀ info, sentBy op = some info →
      op.connection ∈ after.live ∧ info.address.length = addressLen) :
    after.Advertises (ops ++ [op]) := by
  have now (connection : SessionId) (a : Advertisement)
      (has : advertised (ops ++ [op]) connection = some a) :
      connection ∈ after.live ∧ a.sent.address.length = addressLen := by
    rw [advertised, Runs.run_append, Runs.run_cons, Runs.run_nil] at has
    rcases advertise_cases has with ⟨before, kept, _⟩ | ⟨rfl, sends, _⟩
    · exact ⟨stay connection (advertises.alive connection a before) kept,
        advertises.address connection a before⟩
    · exact sent a.sent sends
  constructor
  · rw [state]
    exact inverse_step advertises.inverse fresh
  · rw [state]
    exact represents_step advertises.inverse fresh advertises.represents
  · exact fun connection a has => (now connection a has).1
  · exact fun connection a has => (now connection a has).2

theorem advertises_step {server : MatchMakingServer} {ops : List Op}
    (advertises : server.Advertises ops) (free : server.registry.poisoned = false)
    {event : MatchMakingEvent} (orderly : server.Orderly event)
    (counted : Counted checks traces server event) :
    (step checks traces server event).registry.poisoned = true
      ∨ (step checks traces server event).Advertises (ops ++ event.op.toList) := by
  cases event with
  | connect connection =>
    right
    rw [MatchMakingEvent.op, Option.toList_none, List.append_nil]
    exact ⟨advertises.inverse, advertises.represents,
      fun c a has => List.mem_cons_of_mem _ (advertises.alive c a has), advertises.address⟩
  | disconnect connection =>
    right
    have removed : exec (LockedRegistry.removeConnection connection) server.registry = _ :=
      LockedRegistry.exec_locked_onState _ free
    refine advertises.op trivial ?_ ?_ ?_
    · rw [step, removed]
      rfl
    · intro c alive other
      have apart : c ≠ connection := fun same => other (congrArg Op.removeConnection same.symm)
      exact List.mem_filter.mpr ⟨alive, decide_eq_true apart⟩
    · intro info sends
      cases sends
  | message m =>
    obtain ⟨alive, fresh⟩ := orderly
    rw [MatchMakingEvent.op]
    cases asks : m.op with
    | some op =>
      right
      obtain ⟨own, sized⟩ := op_of_message asks
      refine advertises.op (fresh free op asks) ?_ (fun c live _ => live) ?_
      · rw [step, exec_serve_op asks counted free]
      · intro info sends
        rw [own]
        exact ⟨alive, sized info sends⟩
    | none =>
      rw [Option.toList_none, List.append_nil, step]
      rcases @exec_serve_other checks traces m server.registry asks free with same | poisoned
      · right
        rw [same]
        exact advertises
      · left
        rw [poisoned]

theorem poisoned_step {server : MatchMakingServer} (held : server.registry.poisoned = true)
    (event : MatchMakingEvent) : (step checks traces server event).registry.poisoned = true := by
  cases event with
  | connect connection => exact held
  | disconnect connection =>
    have refused : exec (LockedRegistry.removeConnection connection) server.registry = _ :=
      LockedRegistry.exec_locked_poisoned _ held
    rw [step, refused]
    exact held
  | message m =>
    rw [step, exec_serve_poisoned held]
    exact held

theorem advertises_run {events : List MatchMakingEvent}
    (orderly : Runs.Meets (step checks traces) Orderly start events)
    (counted : Runs.Meets (step checks traces) (Counted checks traces) start events) :
    (Runs.run (step checks traces) start events).registry.poisoned = true
      ∨ (Runs.run (step checks traces) start events).Advertises (events.filterMap MatchMakingEvent.op) := by
  induction events using List.reverseRecOn with
  | nil =>
    exact .inr ⟨inverse_new, fun _ => rfl, fun _ _ has => (by cases has), fun _ _ has => (by cases has)⟩
  | append_singleton events event ih =>
    obtain ⟨earlier, last⟩ := orderly.append
    obtain ⟨countedEarlier, countedLast⟩ := counted.append
    have ops : (events ++ [event]).filterMap MatchMakingEvent.op
        = events.filterMap MatchMakingEvent.op ++ event.op.toList := by
      rw [List.filterMap_append]
      cases asks : event.op <;> simp [asks]
    rw [Runs.run_append, Runs.run_cons, Runs.run_nil, ops]
    cases held : (Runs.run (step checks traces) start events).registry.poisoned with
    | true => exact .inl (poisoned_step held event)
    | false =>
      rcases ih earlier countedEarlier with poisoned | advertises
      · rw [held] at poisoned
        cases poisoned
      · exact advertises_step advertises held last.1 countedLast.1

/--
Every session in the reply to a search is read back as a live connection sent it last,
with the id and the secret that it was given.
-/
theorem advertisements_survive (checks traces : Bool) (events : List MatchMakingEvent)
    (orderly : Runs.Meets (step checks traces) Orderly start events)
    (counted : Runs.Meets (step checks traces) (Counted checks traces) start events)
    (m : MatchMakingMessage)
    (query : SessionQuery) (response : BdResponse)
    (asked : (exec MatchMakingRequest.read m.message).1 = .ok (.find query))
    (answered : (exec (serve checks traces m) (Runs.run (step checks traces) start events).registry).1
      = .ok response) :
    ∃ infos, (sessionsReply m.counter infos).toResponse = .ok response
      ∧ (exec (readSessions infos.length) (BdReader.new response.data)).1
        = .ok (UInt32.ofNat infos.length, infos)
      ∧ ∀ info ∈ infos, info.Satisfies query
        ∧ ∃ connection a, connection ≠ m.session.id
          ∧ connection ∈ (Runs.run (step checks traces) start events).live
          ∧ advertised (events.filterMap MatchMakingEvent.op) connection = some a
          ∧ mostRecent (events.filterMap MatchMakingEvent.op) connection = some a.sent
          ∧ info = { a.sent with host := a.minted.id.toList, key := a.minted.secret.toList } := by
  obtain ⟨free, infos, built, found⟩ := exec_serve_find asked answered
  rcases advertises_run orderly counted with poisoned | advertises
  · rw [free] at poisoned
    cases poisoned
  have origin (info : MatchMakingInfo) (member : info ∈ infos) : ∃ connection a,
      connection ≠ m.session.id
        ∧ advertised (events.filterMap MatchMakingEvent.op) connection = some a
        ∧ info = entry a := by
    obtain ⟨_, connection, apart, stored⟩ := found info member
    rw [advertises.represents connection] at stored
    obtain ⟨a, has, rfl⟩ := Option.map_eq_some_iff.mp stored
    exact ⟨connection, a, apart, has, rfl⟩
  have sized (info : MatchMakingInfo) (member : info ∈ infos) : info.Sized := by
    obtain ⟨connection, a, _, has, rfl⟩ := origin info member
    exact ⟨advertises.address connection a has, a.minted.id.length_toList,
      a.minted.secret.length_toList⟩
  obtain ⟨data, sent, read⟩ := exec_readSessions m.counter sized
  rw [built] at sent
  obtain rfl := Except.ok.inj sent
  refine ⟨infos, built, read, fun info member => ⟨(found info member).1, ?_⟩⟩
  obtain ⟨connection, a, apart, has, same⟩ := origin info member
  exact ⟨connection, a, apart, advertises.alive connection a has, has,
    mostRecent_of_advertised _ has, same⟩

def hosted : MatchMakingInfo :=
  { address := List.replicate addressLen 10
    host := List.replicate hostLen 1
    key := List.replicate keyLen 2
    freePublicSlots := 3
    usedPublicSlots := 1
    freePrivateSlots := -4
    usedPrivateSlots := 0
    titleData := #v[8, 5, 3, 0, 142, 0, 5, 0, 0] }

def searchedFor : SessionQuery :=
  { kind := 1, limit := 50, filters := #v[8, 5, 142, 0, 3, 2], extra := none }

-- the reader after the framing of a request with these values
def requestReader (taskId : MatchMakingTaskId) (values : List Value) : BdReader :=
  let written := (exec (do
    BdWriter.setMode .bitMode
    BdWriter.writeTypeCheckedBit
    BdWriter.writeU8 taskId.toU8
    BdWriter.writeU8 0
    values.forM Value.write
    BdWriter.writeBits [0, 0] 16
    BdWriter.flush) BdWriter.new).2.out
  (exec (do
    setMode .bitMode
    readTypeCheckedBit) (BdReader.new written)).2

def requestOf (connection : SessionId) (message : BdReader) : MatchMakingMessage :=
  { session := ⟨connection, none, none⟩
    message := message
    counter := 0
    minted := exampleMinted
    iteration := ⟨id, fun _ => .rfl⟩ }

def hosts : MatchMakingMessage :=
  requestOf 1 (requestReader .createSession (TaskResult.matchMakingInfo hosted).values)

-- another player has joined
def joined : MatchMakingInfo := { hosted with freePublicSlots := 2, usedPublicSlots := 2 }

def updates (info : MatchMakingInfo) : MatchMakingMessage :=
  requestOf 1 (requestReader .updateSession (TaskResult.matchMakingInfo info).values)

def searches : MatchMakingMessage :=
  requestOf 2 (requestReader .findSessions
    (.i32 searchedFor.kind :: .i32 searchedFor.limit :: searchedFor.filters.toList.map .i32))

def hostedEvents : List MatchMakingEvent :=
  [.connect 1, .connect 2, .message hosts, .message (updates joined)]

def answerTo (events : List MatchMakingEvent) : Except Fault BdResponse :=
  (exec (serve true true searches) (Runs.run (step true true) start events).registry).1

def found (events : List MatchMakingEvent) : BdResponse :=
  match answerTo events with
  | .ok response => response
  | .error _ => .encryptedIfAvailable []

theorem answered_found {events : List MatchMakingEvent}
    (served : (answerTo events).toOption.isSome = true) : answerTo events = .ok (found events) := by
  unfold found
  cases outcome : answerTo events with
  | ok response => rfl
  | error fault =>
    rw [outcome] at served
    cases served

theorem read_hosts : (exec MatchMakingRequest.read hosts.message).1 = .ok (.create hosted) := by
  decide +kernel

theorem read_searches : (exec MatchMakingRequest.read searches.message).1 = .ok (.find searchedFor) := by
  decide +kernel

theorem op_hosts : hosts.op = some (.create 1 hosted exampleMinted) := by
  rw [MatchMakingMessage.op, read_hosts]
  rfl

theorem op_updates {info : MatchMakingInfo}
    (read : (exec MatchMakingRequest.read (updates info).message).1 = .ok (.update info)) :
    (updates info).op = some (.update 1 info exampleMinted) := by
  rw [MatchMakingMessage.op, read]
  rfl

theorem orderly_update {info : MatchMakingInfo}
    (read : (exec MatchMakingRequest.read (updates info).message).1 = .ok (.update info)) :
    Runs.Meets (step true true) Orderly start
      [.connect 1, .connect 2, .message hosts, .message (updates info)] := by
  have alive : (1 : SessionId) ∈ [2, 1] := by decide
  have first : Runs.Meets (step true true) Orderly start
      [.connect 1, .connect 2, .message hosts] := by
    refine ⟨trivial, trivial, ⟨alive, ?_⟩, trivial⟩
    intro _ op member
    rw [op_hosts] at member
    obtain rfl := Option.some.inj member
    rfl
  refine first.concat ⟨alive, ?_⟩
  intro _ op member
  rw [op_updates read] at member
  obtain rfl := Option.some.inj member
  intro absent
  have hosting : ((Runs.run (step true true) start [.connect 1, .connect 2,
      .message hosts]).registry.state.sessions.get 1).isSome = true := by decide +kernel
  rw [absent] at hosting
  cases hosting

theorem found_hosted :
    (answerTo hostedEvents).toOption.isSome = true
      ∧ (exec (readSessions 1) (BdReader.new (found hostedEvents).data)).1
        = .ok (1, [entry ⟨joined, exampleMinted⟩]) := by
  decide +kernel

theorem advertisements_survive_found :
    ∃ infos, (sessionsReply 0 infos).toResponse = .ok (found hostedEvents)
      ∧ (exec (readSessions infos.length) (BdReader.new (found hostedEvents).data)).1
        = .ok (UInt32.ofNat infos.length, infos)
      ∧ ∀ info ∈ infos, info.Satisfies searchedFor
        ∧ ∃ connection a, connection ≠ 2
          ∧ connection ∈ (Runs.run (step true true) start hostedEvents).live
          ∧ advertised (hostedEvents.filterMap MatchMakingEvent.op) connection = some a
          ∧ mostRecent (hostedEvents.filterMap MatchMakingEvent.op) connection = some a.sent
          ∧ info = { a.sent with host := a.minted.id.toList, key := a.minted.secret.toList } := by
  have read : (exec MatchMakingRequest.read (updates joined).message).1 = .ok (.update joined) := by
    decide +kernel
  have counted : Runs.Meets (step true true) (Counted true true) start hostedEvents := by
    refine ⟨trivial, trivial, ?_, ?_, trivial⟩
    · intro info asked
      rw [read_hosts] at asked
      cases asked
    · intro info asked _ _
      obtain rfl := MatchMakingRequest.update.inj (Except.ok.inj (read.symm.trans asked))
      decide
  exact advertisements_survive true true hostedEvents (orderly_update read) counted searches searchedFor
    (found hostedEvents) read_searches (answered_found found_hosted.1)

example : (exec (readSessions 1) (BdReader.new (found hostedEvents).data)).1
    = .ok (1, [entry ⟨joined, exampleMinted⟩]) := found_hosted.2

def crowded : MatchMakingInfo := { hosted with usedPublicSlots := 2147483647 }

def crowdedEvents : List MatchMakingEvent :=
  [.connect 1, .connect 2, .message hosts, .message (updates crowded)]

theorem found_crowded :
    (answerTo crowdedEvents).toOption.isSome = true
      ∧ (exec (readSessions 1) (BdReader.new (found crowdedEvents).data)).1
        = .ok (1, [entry ⟨hosted, exampleMinted⟩]) := by
  decide +kernel

theorem crowded_outdated :
    Runs.Meets (step true true) Orderly start crowdedEvents
      ∧ (exec MatchMakingRequest.read searches.message).1 = .ok (.find searchedFor)
      ∧ (exec (serve true true searches) (Runs.run (step true true) start crowdedEvents).registry).1
        = .ok (found crowdedEvents)
      ∧ (exec (readSessions 1) (BdReader.new (found crowdedEvents).data)).1
        = .ok (1, [entry ⟨hosted, exampleMinted⟩])
      ∧ ¬∃ (connection : SessionId) (a : Advertisement), connection ≠ 2
        ∧ connection ∈ (Runs.run (step true true) start crowdedEvents).live
        ∧ mostRecent (crowdedEvents.filterMap MatchMakingEvent.op) connection = some a.sent
        ∧ entry ⟨hosted, exampleMinted⟩
          = { a.sent with host := a.minted.id.toList, key := a.minted.secret.toList } := by
  have read : (exec MatchMakingRequest.read (updates crowded).message).1 = .ok (.update crowded) := by
    decide +kernel
  refine ⟨orderly_update read, read_searches, answered_found found_crowded.1, found_crowded.2, ?_⟩
  rintro ⟨connection, a, apart, alive, last, same⟩
  have live : (Runs.run (step true true) start crowdedEvents).live = [2, 1] := rfl
  rw [live] at alive
  obtain rfl : connection = 1 := by simpa [apart] using alive
  have ops : crowdedEvents.filterMap MatchMakingEvent.op
      = [.create 1 hosted exampleMinted, .update 1 crowded exampleMinted] := by
    have message (m : MatchMakingMessage) : (MatchMakingEvent.message m).op = m.op := rfl
    have connect (c : SessionId) : (MatchMakingEvent.connect c).op = none := rfl
    rw [crowdedEvents, List.filterMap_cons_none (connect 1), List.filterMap_cons_none (connect 2),
      List.filterMap_cons_some ((message hosts).trans op_hosts),
      List.filterMap_cons_some ((message _).trans (op_updates read)), List.filterMap_nil]
  have sent : mostRecent [.create 1 hosted exampleMinted, .update 1 crowded exampleMinted] 1
      = some crowded := rfl
  rw [ops, sent] at last
  have slots : (1 : Int32) = a.sent.usedPublicSlots := congrArg MatchMakingInfo.usedPublicSlots same
  rw [← Option.some.inj last] at slots
  exact absurd slots (by decide)

end MatchMakingServer

end BitDemon
