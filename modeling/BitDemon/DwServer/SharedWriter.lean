import BitDemon.DwServer.Connections
import BitDemon.Lobby.Handlers.Messaging
import BitDemon.Networking.Response

set_option autoImplicit false

/-!
# Writing to a connection

The writer of a connection is shared with the router. Replies and echoes end the
connection when a write fails; a push that fails is only logged.
-/

namespace BitDemon

open Machine Bits BdWriter

structure PushMessage where
  recipient : UInt64
  id : UInt64
  timestamp : UInt32
  sender : UInt64
  senderName : String
  payload : List UInt8
  deriving DecidableEq

namespace PushMessage

def friendCustomMessage : UInt32 := 40

def write (message : PushMessage) : WriteM Unit := do
  setTypeChecked false
  setMode .byteMode
  writeU8 BdMessageType.lobbyServicePushMessage.toU8
  setMode .bitMode
  setTypeChecked true
  writeTypeCheckedBit
  writeU32 friendCustomMessage
  writeU64 message.recipient
  writeU64 message.id
  writeU32 message.timestamp
  writeBool false
  writeU64 message.sender
  writeStr message.senderName
  writeBlob message.payload
  flush

def toResponse (message : PushMessage) : Except Fault BdResponse :=
  match exec message.write BdWriter.new with
  | (.ok _, writer) => .ok (.encryptedIfAvailable writer.out)
  | (.error fault, _) => .error fault

end PushMessage

-- history: a frame given to `write_all`, and how many bytes of it the connection took
structure Put where
  frame : List UInt8
  taken : Nat
  deriving DecidableEq

namespace Put

def bytes (put : Put) : List UInt8 := put.frame.take put.taken

def failed (put : Put) : Bool := decide (put.taken < put.frame.length)

end Put

structure Writers where
  connections : Connections
  nextId : UInt64
  -- connections whose loop has ended, unregistered or not
  ended : List SessionId
  puts : SessionId → List Put

namespace Writers

/-- For each frame to write, `taken` is how many bytes the connection takes of it. -/
inductive Event where
  | connection (event : ConnectionEvent)
  | reply (session : SessionId) (response : BdResponse) (seed : UInt32) (taken : Nat)
  | echo (session : SessionId) (taken : Nat)
  | deliver (message : DeliveredMessage) (seed : UInt32) (taken : Nat)
  -- the stream has ended, or something other than a write has failed
  | close (session : SessionId)

def start (keyStore : KeyStore.InMemoryKeyState) : Writers :=
  { connections := .start keyStore, nextId := 1, ended := [], puts := fun _ => [] }

def serves (s : Writers) (session : SessionId) : Prop :=
  session ∈ s.connections.connected ∧ session ∉ s.ended

instance (s : Writers) (session : SessionId) : Decidable (s.serves session) :=
  inferInstanceAs (Decidable (_ ∧ _))

def writeAll (s : Writers) (session : SessionId) (put : Put) : Writers :=
  { s with puts := Function.update s.puts session (s.puts session ++ [put]) }

def endLoop (s : Writers) (session : SessionId) : Writers := { s with ended := session :: s.ended }

/-- `send_frame` with `?` after it: a failure ends the loop of the connection. -/
def sendFrame (s : Writers) (session : SessionId) (put : Put) : Writers :=
  if put.failed then (s.writeAll session put).endLoop session else s.writeAll session put

def responseKey (s : Writers) (session : SessionId) (response : BdResponse) :
    Option (List UInt8) :=
  ((s.connections.lsg.authentications.get session).map SessionAuthentication.sessionKey).filter
    fun _ => response.shouldEncrypt

def pushOf (s : Writers) (message : DeliveredMessage) : PushMessage :=
  { recipient := message.recipient
    id := s.nextId
    timestamp := message.timestamp
    sender := message.sender
    senderName := message.senderName
    payload := message.payload }

-- the frame of a push, sealed with the key the router has
def pushFrame (crypto : SessionCrypto) (seed : UInt32) (push : PushMessage) (key : List UInt8) :
    Except Fault (List UInt8) := do
  let response ← push.toResponse
  response.frame crypto seed (some key)

variable (aes : Aes256Cbc) (crypto : SessionCrypto)

def step (s : Writers) : Event → Writers
  | .connection (.signIn message) =>
    if s.serves message.session then
      { s with connections := s.connections.step aes (.signIn message) }
    else s
  | .connection (.disconnect session) =>
    if session ∈ s.ended then
      { s with connections := s.connections.step aes (.disconnect session) }
    else s
  | .connection event => { s with connections := s.connections.step aes event }
  | .reply session response seed taken =>
    if s.serves session then
      match response.frame crypto seed (s.responseKey session response) with
      | .ok frame => s.sendFrame session ⟨frame, taken⟩
      | .error _ => s.endLoop session
    else s
  | .echo session taken =>
    if s.serves session then s.sendFrame session ⟨LeCodec.u32.toLeBytes 0, taken⟩ else s
  | .deliver message seed taken =>
    let after := { s with nextId := s.nextId + 1 }
    match s.connections.lsg.recipients.get message.recipient with
    | none => after
    | some recipient =>
      match pushFrame crypto seed (s.pushOf message) recipient.key with
      | .ok frame => after.writeAll recipient.session ⟨frame, taken⟩
      | .error _ => after
  | .close session => if s.serves session then s.endLoop session else s

def writes (s : Writers) : Event → Option (SessionId × Put)
  | .reply session response seed taken =>
    if s.serves session then
      match response.frame crypto seed (s.responseKey session response) with
      | .ok frame => some (session, ⟨frame, taken⟩)
      | .error _ => none
    else none
  | .echo session taken =>
    if s.serves session then some (session, ⟨LeCodec.u32.toLeBytes 0, taken⟩) else none
  | .deliver message seed taken =>
    match s.connections.lsg.recipients.get message.recipient with
    | none => none
    | some recipient =>
      match pushFrame crypto seed (s.pushOf message) recipient.key with
      | .ok frame => some (recipient.session, ⟨frame, taken⟩)
      | .error _ => none
  | _ => none

def Prefixed (frame : List UInt8) : Prop :=
  ∃ body, body.length < 2 ^ 32
    ∧ frame = LeCodec.u32.toLeBytes (UInt32.ofNat body.length) ++ body

/-- Of the writes that put anything on the connection, all but the last put a whole frame. -/
def Uncorrupted (puts : List Put) : Prop :=
  (∀ put ∈ puts, put.bytes ≠ [] → Prefixed put.frame)
    ∧ puts.Pairwise fun earlier later =>
        earlier.bytes ≠ [] → later.bytes ≠ [] → earlier.bytes = earlier.frame

def Torn (puts : List Put) : Prop := ∃ put ∈ puts, put.bytes ≠ [] ∧ put.bytes ≠ put.frame

def Clean (s : Writers) : Prop := ∀ session, Uncorrupted (s.puts session)

def Event.pushes : Event → Bool
  | .deliver .. => true
  | _ => false

/--
The length of a frame fits its word. A push is not torn while the loop of its connection runs,
and none is written once the loop has ended and a write was torn.
-/
def Careful (s : Writers) (event : Event) : Prop :=
  ∀ session put, writes crypto s event = some (session, put) → put.bytes ≠ [] →
    put.frame.length < 2 ^ 32 + 4
      ∧ (event.pushes = true →
        if session ∈ s.ended then ¬Torn (s.puts session) else put.bytes = put.frame)

theorem uncorrupted_append_iff {puts : List Put} (fine : Uncorrupted puts) (put : Put) :
    Uncorrupted (puts ++ [put])
      ↔ (put.bytes ≠ [] → ¬Torn puts ∧ Prefixed put.frame) := by
  constructor
  · rintro ⟨lengths, order⟩ something
    refine ⟨?_, lengths put (List.mem_append_right _ (List.mem_singleton_self _)) something⟩
    rintro ⟨earlier, member, some, part⟩
    have whole := (List.pairwise_append.mp order).2.2 earlier member put (List.mem_singleton_self _)
    exact part (whole some something)
  · intro last
    constructor
    · intro other member something
      rcases List.mem_append.mp member with earlier | here
      · exact fine.1 other earlier something
      · obtain rfl := List.mem_singleton.mp here
        exact (last something).2
    · refine List.pairwise_append.mpr ⟨fine.2, List.pairwise_singleton _ _, ?_⟩
      intro earlier member later here some something
      obtain rfl := List.mem_singleton.mp here
      by_contra part
      exact (last something).1 ⟨earlier, member, some, part⟩

theorem prefixed_iff (body : List UInt8) :
    Prefixed (LeCodec.u32.toLeBytes (UInt32.ofNat body.length) ++ body)
      ↔ (LeCodec.u32.toLeBytes (UInt32.ofNat body.length) ++ body).length < 2 ^ 32 + 4 := by
  have size (word : UInt32) : (LeCodec.u32.toLeBytes word).length = 4 := LeCodec.length_toLeBytes _ _
  rw [List.length_append, size]
  constructor
  · rintro ⟨other, few, same⟩
    have lengths := congrArg List.length same
    rw [List.length_append, List.length_append, size, size] at lengths
    omega
  · intro few
    exact ⟨body, by omega, rfl⟩

inductive Effect (s : Writers) (event : Event) (after : Writers) : Prop where
  | idle (silent : writes crypto s event = none) (puts : after.puts = s.puts)
      (ended : s.ended ⊆ after.ended)
      (connections : after.connections = s.connections
        ∨ ∃ connection, after.connections = s.connections.step aes connection)
  | sent (session : SessionId) (body : List UInt8) (taken : Nat)
      (written : writes crypto s event
        = some (session, ⟨LeCodec.u32.toLeBytes (UInt32.ofNat body.length) ++ body, taken⟩))
      (serves : s.serves session) (loop : event.pushes = false)
      (after_eq : after
        = s.sendFrame session ⟨LeCodec.u32.toLeBytes (UInt32.ofNat body.length) ++ body, taken⟩)
  | pushed (user : UInt64) (recipient : Recipient) (body : List UInt8) (taken : Nat)
      (found : s.connections.lsg.recipients.get user = some recipient)
      (written : writes crypto s event
        = some (recipient.session, ⟨LeCodec.u32.toLeBytes (UInt32.ofNat body.length) ++ body, taken⟩))
      (push : event.pushes = true)
      (after_eq : after
        = { s.writeAll recipient.session
            ⟨LeCodec.u32.toLeBytes (UInt32.ofNat body.length) ++ body, taken⟩ with
            nextId := s.nextId + 1 })

section

variable {aes : Aes256Cbc} {crypto : SessionCrypto}

theorem effect_connection (s : Writers) (event : ConnectionEvent) :
    Effect aes crypto s (.connection event) (step aes crypto s (.connection event)) := by
  have stepped : Effect aes crypto s (.connection event)
      { s with connections := s.connections.step aes event } :=
    .idle rfl rfl (fun _ ended => ended) (.inr ⟨event, rfl⟩)
  have idle : Effect aes crypto s (.connection event) s :=
    .idle rfl rfl (fun _ ended => ended) (.inl rfl)
  cases event with
  | connect session => exact stepped
  | keys call => exact stepped
  | signIn message =>
    rw [step]
    split
    next => exact stepped
    next => exact idle
  | disconnect session =>
    rw [step]
    split
    next => exact stepped
    next => exact idle

theorem effect_deliver (s : Writers) (message : DeliveredMessage) (seed : UInt32) (taken : Nat) :
    Effect aes crypto s (.deliver message seed taken)
      (step aes crypto s (.deliver message seed taken)) := by
  rw [step]
  cases found : s.connections.lsg.recipients.get message.recipient with
  | none => exact .idle (by rw [writes, found]) rfl (fun _ ended => ended) (.inl rfl)
  | some recipient =>
    dsimp only
    cases built : (s.pushOf message).toResponse with
    | error fault =>
      have framed : pushFrame crypto seed (s.pushOf message) recipient.key = .error fault := by
        rw [pushFrame, built]
        rfl
      rw [framed]
      exact .idle (by rw [writes, found]; dsimp only; rw [framed]) rfl (fun _ ended => ended)
        (.inl rfl)
    | ok response =>
      obtain ⟨body, ran, _⟩ := response.frame_ok crypto seed (some recipient.key)
      have framed : pushFrame crypto seed (s.pushOf message) recipient.key
          = .ok (LeCodec.u32.toLeBytes (UInt32.ofNat body.length) ++ body) := by
        rw [pushFrame, built]
        exact ran
      rw [framed]
      exact .pushed message.recipient recipient body taken found
        (by rw [writes, found]; dsimp only; rw [framed]) rfl rfl

theorem effect_step (s : Writers) (event : Event) :
    Effect aes crypto s event (step aes crypto s event) := by
  cases event with
  | connection event => exact effect_connection s event
  | deliver message seed taken => exact effect_deliver s message seed taken
  | reply session response seed taken =>
    obtain ⟨body, framed, _⟩ := response.frame_ok crypto seed (s.responseKey session response)
    by_cases serves : s.serves session
    next =>
      rw [step, if_pos serves, framed]
      exact .sent session body taken (by rw [writes, if_pos serves, framed]) serves rfl rfl
    next =>
      rw [step, if_neg serves]
      exact .idle (by rw [writes, if_neg serves]) rfl (fun _ ended => ended) (.inl rfl)
  | echo session taken =>
    by_cases serves : s.serves session
    next =>
      rw [step, if_pos serves]
      exact .sent session [] taken (by rw [writes, if_pos serves]; rfl) serves rfl rfl
    next =>
      rw [step, if_neg serves]
      exact .idle (by rw [writes, if_neg serves]) rfl (fun _ ended => ended) (.inl rfl)
  | close session =>
    rw [step]
    split
    next => exact .idle rfl rfl (fun _ ended => List.mem_cons_of_mem _ ended) (.inl rfl)
    next => exact .idle rfl rfl (fun _ ended => ended) (.inl rfl)

theorem puts_sendFrame (s : Writers) (session : SessionId) (put : Put) :
    (s.sendFrame session put).puts
      = Function.update s.puts session (s.puts session ++ [put]) := by
  rw [sendFrame]
  split <;> rfl

theorem connections_sendFrame (s : Writers) (session : SessionId) (put : Put) :
    (s.sendFrame session put).connections = s.connections := by
  rw [sendFrame]
  split <;> rfl

theorem ended_sendFrame (s : Writers) (session : SessionId) (put : Put) :
    (s.sendFrame session put).ended = if put.failed then session :: s.ended else s.ended := by
  rw [sendFrame]
  split <;> rfl

theorem puts_step (s : Writers) (event : Event) :
    (step aes crypto s event).puts =
      match writes crypto s event with
      | some (session, put) => Function.update s.puts session (s.puts session ++ [put])
      | none => s.puts := by
  cases @effect_step aes crypto s event with
  | idle silent puts _ _ => rw [silent, puts]
  | sent session body taken written _ _ after_eq => rw [written, after_eq, puts_sendFrame]
  | pushed user recipient body taken _ written _ after_eq =>
    rw [written, after_eq]
    rfl

theorem prefixed_of_written (aes : Aes256Cbc) {s : Writers} {event : Event} {session : SessionId}
    {put : Put} (written : writes crypto s event = some (session, put)) :
    Prefixed put.frame ↔ put.frame.length < 2 ^ 32 + 4 := by
  cases @effect_step aes crypto s event with
  | idle silent _ _ _ => cases silent.symm.trans written
  | sent target body taken wrote _ _ _ =>
    obtain ⟨_, rfl⟩ := Prod.mk.inj (Option.some.inj (wrote.symm.trans written))
    exact prefixed_iff body
  | pushed user recipient body taken _ wrote _ _ =>
    obtain ⟨_, rfl⟩ := Prod.mk.inj (Option.some.inj (wrote.symm.trans written))
    exact prefixed_iff body

theorem clean_step_iff {s : Writers} (clean : Clean s) (event : Event) :
    Clean (step aes crypto s event)
      ↔ ∀ session put, writes crypto s event = some (session, put) → put.bytes ≠ [] →
        ¬Torn (s.puts session) ∧ put.frame.length < 2 ^ 32 + 4 := by
  rw [Clean, puts_step]
  cases written : writes crypto s event with
  | none => exact iff_of_true clean fun _ _ other => by cases other
  | some target =>
    obtain ⟨session, put⟩ := target
    have fits := prefixed_of_written aes written
    have appended := uncorrupted_append_iff (clean session) put
    dsimp only
    constructor
    · intro after other otherPut same something
      obtain ⟨rfl, rfl⟩ := Prod.mk.inj (Option.some.inj same)
      have here := after session
      rw [Function.update_self] at here
      obtain ⟨untorn, own⟩ := appended.mp here something
      exact ⟨untorn, fits.mp own⟩
    · intro behind other
      by_cases same : other = session
      next =>
        subst same
        rw [Function.update_self]
        refine appended.mpr fun something => ?_
        obtain ⟨untorn, few⟩ := behind other put rfl something
        exact ⟨untorn, fits.mpr few⟩
      next =>
        rw [Function.update_of_ne same]
        exact clean other

def Severed (s : Writers) : Prop := ∀ session, Torn (s.puts session) → session ∈ s.ended

theorem torn_append {puts : List Put} {put : Put} (torn : Torn (puts ++ [put])) :
    Torn puts ∨ put.bytes ≠ [] ∧ put.bytes ≠ put.frame := by
  obtain ⟨earlier, member, some, part⟩ := torn
  rcases List.mem_append.mp member with before | here
  · exact .inl ⟨earlier, before, some, part⟩
  · obtain rfl := List.mem_singleton.mp here
    exact .inr ⟨some, part⟩

theorem Put.failed_of_part {put : Put} (part : put.bytes ≠ put.frame) : put.failed = true := by
  rw [Put.failed, decide_eq_true_eq]
  by_contra enough
  exact part (List.take_of_length_le (Nat.le_of_not_lt enough))

theorem severed_step {s : Writers} {event : Event} (severed : Severed s)
    (careful : Careful crypto s event) : Severed (step aes crypto s event) := by
  intro session torn
  cases @effect_step aes crypto s event with
  | idle _ puts ended _ =>
    rw [puts] at torn
    exact ended (severed session torn)
  | sent target body taken written _ _ after_eq =>
    rw [after_eq, ended_sendFrame]
    rw [after_eq, puts_sendFrame, Function.update_apply] at torn
    split at torn
    next same =>
      subst same
      rcases torn_append torn with before | ⟨_, part⟩
      · split
        · exact List.mem_cons_self
        · exact severed session before
      · rw [if_pos (Put.failed_of_part part)]
        exact List.mem_cons_self
    next =>
      split
      · exact List.mem_cons_of_mem _ (severed session torn)
      · exact severed session torn
  | pushed user recipient body taken _ written push after_eq =>
    rw [after_eq] at torn ⊢
    change session ∈ s.ended
    change Torn (Function.update s.puts recipient.session _ session) at torn
    rw [Function.update_apply] at torn
    split at torn
    next same =>
      subst same
      rcases torn_append torn with before | ⟨something, part⟩
      · exact severed _ before
      · by_contra running
        have whole := (careful _ _ written something).2 push
        rw [if_neg running] at whole
        exact part whole
    next => exact severed session torn

theorem clean_of_careful {s : Writers} {event : Event} (severed : Severed s) (clean : Clean s)
    (careful : Careful crypto s event) : Clean (step aes crypto s event) := by
  refine (clean_step_iff clean event).mpr fun session put written something => ?_
  obtain ⟨short, push⟩ := careful session put written something
  refine ⟨fun torn => ?_, short⟩
  have ended := severed session torn
  cases @effect_step aes crypto s event with
  | idle silent _ _ _ => cases silent.symm.trans written
  | sent target body taken wrote serves _ _ =>
    obtain ⟨rfl, _⟩ := Prod.mk.inj (Option.some.inj (wrote.symm.trans written))
    exact serves.2 ended
  | pushed user recipient body taken _ _ pushes _ =>
    have untorn := push pushes
    rw [if_pos ended] at untorn
    exact untorn torn

theorem attached_step {s : Writers} (attached : s.connections.Attached) (event : Event) :
    (step aes crypto s event).connections.Attached := by
  cases @effect_step aes crypto s event with
  | idle _ _ _ connections =>
    rcases connections with same | ⟨connection, stepped⟩
    · rw [same]
      exact attached
    · rw [stepped]
      exact Connections.attached_step attached connection
  | sent session body taken _ _ _ after_eq =>
    rw [after_eq, connections_sendFrame]
    exact attached
  | pushed user recipient body taken _ _ _ after_eq =>
    rw [after_eq]
    exact attached

theorem careful_echo (s : Writers) (session : SessionId) : Careful crypto s (.echo session 4) := by
  intro target put written _
  rw [writes] at written
  split at written
  next =>
    obtain ⟨_, rfl⟩ := Prod.mk.inj (Option.some.inj written)
    refine ⟨?_, by simp [Event.pushes]⟩
    rw [LeCodec.length_toLeBytes]
    decide
  next => cases written

variable (aes crypto) in
-- the streams are clean, also when a ping is answered now
def Answerable (s : Writers) : Prop :=
  Clean s ∧ ∀ session, Clean (step aes crypto s (.echo session 4))

theorem answerable_step_iff {s : Writers} {event : Event} (severed : Severed s)
    (attached : s.connections.Attached) (clean : Clean s) :
    Answerable aes crypto (step aes crypto s event) ↔ Careful crypto s event := by
  constructor
  · rintro ⟨after, echoed⟩ session put written something
    obtain ⟨untorn, short⟩ := (clean_step_iff clean event).mp after session put written something
    refine ⟨short, fun push => ?_⟩
    split
    next => exact untorn
    next running =>
      by_contra part
      cases @effect_step aes crypto s event with
      | idle silent _ _ _ => cases silent.symm.trans written
      | sent _ _ _ _ _ loop _ => cases push.symm.trans loop
      | pushed user recipient body taken found wrote _ after_eq =>
        obtain ⟨rfl, rfl⟩ := Prod.mk.inj (Option.some.inj (wrote.symm.trans written))
        have serves : (step aes crypto s event).serves recipient.session := by
          rw [after_eq]
          exact ⟨attached user recipient found, running⟩
        have echoes : writes crypto (step aes crypto s event) (.echo recipient.session 4)
            = some (recipient.session, ⟨LeCodec.u32.toLeBytes 0, 4⟩) := by
          rw [writes, if_pos serves]
        obtain ⟨whole, _⟩ := (clean_step_iff after _).mp (echoed recipient.session) _ _ echoes
          (by decide)
        refine whole ⟨_, ?_, something, part⟩
        rw [after_eq]
        change _ ∈ Function.update s.puts recipient.session _ recipient.session
        rw [Function.update_self]
        exact List.mem_append_right _ (List.mem_singleton_self _)
  · intro careful
    have after : Clean (step aes crypto s event) := clean_of_careful severed clean careful
    exact ⟨after, fun session =>
      clean_of_careful (severed_step severed careful) after (careful_echo _ session)⟩

end

theorem clean_start (keyStore : KeyStore.InMemoryKeyState) : Clean (start keyStore) := by
  intro session
  constructor
  · intro put member
    cases member
  · exact List.Pairwise.nil

theorem severed_start (keyStore : KeyStore.InMemoryKeyState) : Severed (start keyStore) := by
  rintro session ⟨put, member, _⟩
  cases member

theorem answerable_always_iff (aes : Aes256Cbc) (crypto : SessionCrypto)
    (keyStore : KeyStore.InMemoryKeyState) (events : List Event) :
    Runs.Always (step aes crypto) (Answerable aes crypto) (start keyStore) events
      ↔ Runs.Meets (step aes crypto) (Careful crypto) (start keyStore) events := by
  have started : Answerable aes crypto (start keyStore) :=
    ⟨clean_start keyStore, fun session => clean_of_careful (severed_start keyStore)
      (clean_start keyStore) (careful_echo _ session)⟩
  refine @Runs.always_iff_meets _ _ _ (fun s => Severed s ∧ s.connections.Attached)
    (Answerable aes crypto) (Careful crypto) ?_ ?_ _ _
    ⟨severed_start keyStore, Connections.attached_start keyStore⟩ started
  · rintro s event ⟨severed, attached⟩ _ careful
    exact ⟨severed_step severed careful, attached_step attached event⟩
  · rintro s event ⟨severed, attached⟩ answerable
    exact answerable_step_iff severed attached answerable.1

/--
No connection's stream is ever corrupted, whenever a ping is answered, exactly in the runs
in which no push is torn while the loop of its connection runs, none follows a torn write
after that loop has ended, and no frame is longer than its length word can say.
-/
theorem streams_clean_iff (aes : Aes256Cbc) (crypto : SessionCrypto)
    (keyStore : KeyStore.InMemoryKeyState) (events : List Event) :
    (∀ first rest session, events = first ++ rest →
        Runs.Always (step aes crypto) Clean (start keyStore) (first ++ [.echo session 4]))
      ↔ Runs.Meets (step aes crypto) (Careful crypto) (start keyStore) events := by
  constructor
  · intro pinged
    rw [← answerable_always_iff]
    refine Runs.always_iff_prefixes.mpr fun first rest whole => ?_
    have clean (session : SessionId) := Runs.always_iff_prefixes.mp (pinged first rest session whole)
    refine ⟨clean 0 first _ rfl, fun session => ?_⟩
    have last := clean session (first ++ [.echo session 4]) [] (List.append_nil _).symm
    rwa [Runs.run_append] at last
  · intro careful first rest session whole
    rw [whole] at careful
    have echoed := careful.append.1.concat (careful_echo _ session)
    exact ((answerable_always_iff aes crypto keyStore _).mpr echoed).imp fun _ answerable =>
      answerable.1

open Issuer Connections

def tornPush : List Event :=
  [.connection (.keys (.current 1000 (ringKey 1))), .connection (.connect 1),
    .connection (signInAs 1 7), .deliver ⟨7, 9, "sender", 0, [1]⟩ 5 6, .echo 1 4]

theorem tornPush_corrupts :
    ¬Runs.Always (step xorCipher plainCrypto) Clean (start .new) tornPush := by
  intro always
  have clean := Runs.always_iff_prefixes.mp always tornPush [] rfl
  have mixed : ¬((Runs.run (step xorCipher plainCrypto) (start .new) tornPush).puts 1).Pairwise
      fun earlier later => earlier.bytes ≠ [] → later.bytes ≠ [] → earlier.bytes = earlier.frame := by
    decide +kernel
  exact mixed (clean 1).2

end Writers

end BitDemon
