import BitDemon.DwServer.SharedWriter
import BitDemon.Networking.Sealing
import Mathlib.Data.List.Forall2

set_option autoImplicit false

/-!
# What a connection carries

The other side cuts the stream by the length words, opens each frame under its key,
and reads a push field by field.
-/

namespace BitDemon

open Machine Bits

namespace PushMessage

def front : List (WriteOp .byteMode) := [.value (.u8 BdMessageType.lobbyServicePushMessage.toU8)]

def back (message : PushMessage) : List (WriteOp .bitMode) :=
  [.setTypeChecked true, .typeCheckedBit, .value (.u32 friendCustomMessage),
    .value (.u64 message.recipient), .value (.u64 message.id), .value (.u32 message.timestamp),
    .value (.bool false), .value (.u64 message.sender), .value (.str message.senderName),
    .value (.blob message.payload)]

-- what a client asks for, which knows nothing of the values
def read : ReadM (List Item) :=
  decode [.value .u8]
    [.setTypeChecked true, .typeCheckedBit, .value .u32, .value .u64, .value .u64, .value .u32,
      .value .bool, .value .u64, .value .str, .value .blob]

def items (message : PushMessage) : List Item :=
  [.value (.u8 BdMessageType.lobbyServicePushMessage.toU8), .typeChecked true,
    .value (.u32 friendCustomMessage), .value (.u64 message.recipient), .value (.u64 message.id),
    .value (.u32 message.timestamp), .value (.bool false), .value (.u64 message.sender),
    .value (.str message.senderName), .value (.blob message.payload)]

-- names come without NUL from their proofs, and no message is as long as a length word can say
structure Sendable (message : DeliveredMessage) : Prop where
  named : '\x00' ∉ message.senderName.toList
  short : message.payload.length < 2 ^ 32

theorem write_eq (message : PushMessage) :
    exec message.write BdWriter.new = exec (encode front message.back) BdWriter.new := by
  have untouched : exec (BdWriter.setTypeChecked false) BdWriter.new = (.ok (), BdWriter.new) := rfl
  have already : exec (BdWriter.setMode .byteMode) BdWriter.new = (.ok (), BdWriter.new) := rfl
  rw [write, exec_bind_ok _ untouched, exec_bind_ok _ already]
  simp only [encode, front, back, Wire.writeEach, WriteOp.write, Value.write, bind_assoc, pure_bind]

theorem toResponse_bits (message : PushMessage) :
    ∃ data n, message.toResponse = .ok (.encryptedIfAvailable data)
      ∧ ofBytes data = codeAll false front ++ codeAll false message.back ++ List.replicate n false := by
  obtain ⟨w, n, ran, _, bits⟩ := encode_bits front message.back
  refine ⟨w.out, n, ?_, bits⟩
  rw [toResponse, write_eq, ran]

theorem exec_read {message : PushMessage} {data : List UInt8} {rest : List Bool}
    (named : '\x00' ∉ message.senderName.toList) (short : message.payload.length < 2 ^ 32)
    (sent : ofBytes data = codeAll false front ++ codeAll false message.back ++ rest) :
    (exec read (BdReader.new data)).1 = .ok message.items := by
  have start : (BdReader.new data).bits = codeAll false front ++ (codeAll false message.back ++ rest) := by
    rw [BdReader.bits_whole rfl, ← List.append_assoc]
    exact sent
  have frontFits : ∀ op ∈ front, op.Fits := by simp [front, WriteOp.Fits, Value.Fits]
  have backFits : ∀ op ∈ message.back, op.Fits := by
    simpa [back, WriteOp.Fits, Value.Fits, named] using short
  obtain ⟨first, ranFirst, readyFirst, leftFirst⟩ :=
    reads_ops frontFits false _ _ (BdReader.ready_new data) start
  have switched : exec (BdReader.setMode .bitMode) first = (.ok (), { first with mode := .bitMode }) := rfl
  obtain ⟨last, ranLast, _, _⟩ :=
    reads_ops backFits false _ rest (BdReader.ready_setMode readyFirst) leftFirst
  have program : read = decode (front.map WriteOp.matching) (message.back.map WriteOp.matching) := rfl
  rw [program, decode, exec_bind_ok _ ranFirst, exec_bind_ok _ switched, exec_bind_ok _ ranLast]
  rfl

end PushMessage

-- what is left of a frame that has not come whole is not looked at
def bodies (stream : List UInt8) : List (List UInt8) :=
  if stream.length < 4 then
    []
  else
    let n := (LeCodec.u32.fromLeBytes (stream.take 4)).toNat
    if stream.length < 4 + n then [] else (stream.drop 4).take n :: bodies (stream.drop (4 + n))
termination_by stream.length
decreasing_by
  rw [List.length_drop]
  omega

theorem bodies_append {body : List UInt8} (short : body.length < 2 ^ 32) (rest : List UInt8) :
    bodies (LeCodec.u32.toLeBytes (UInt32.ofNat body.length) ++ body ++ rest) = body :: bodies rest := by
  have four : (LeCodec.u32.toLeBytes (UInt32.ofNat body.length)).length = 4 := LeCodec.length_toLeBytes _ _
  have n : (LeCodec.u32.fromLeBytes (LeCodec.u32.toLeBytes (UInt32.ofNat body.length))).toNat
      = body.length := by
    rw [LeCodec.fromLeBytes_toLeBytes, Format.toNat_ofNat_of_lt short]
  generalize LeCodec.u32.toLeBytes (UInt32.ofNat body.length) = word at four n
  have head : (word ++ body ++ rest).take 4 = word := by
    rw [List.append_assoc, ← four, List.take_left]
  have tail : (word ++ body ++ rest).drop 4 = body ++ rest := by
    rw [List.append_assoc, ← four, List.drop_left]
  have further : (word ++ body ++ rest).drop (4 + body.length) = rest := by
    rw [← List.drop_drop, tail, List.drop_left]
  have long : ¬(word ++ body ++ rest).length < 4 := by
    simp only [List.length_append]
    omega
  have whole : ¬(word ++ body ++ rest).length < 4 + body.length := by
    simp only [List.length_append]
    omega
  rw [bodies, if_neg long]
  simp only [head, n, if_neg whole, tail, further, List.take_left]

namespace Writers

inductive Carried where
  | reply (response : BdResponse) (key : Option (List UInt8))
  | echo
  | push (message : PushMessage) (key : List UInt8)

/-- The other side makes of a body what was put into it; zeros fill the last block. -/
def Heard (crypto : SessionCrypto) : Carried → List UInt8 → Prop
  | .reply response key, body =>
    ∃ n < 8, BdResponse.opened crypto key body = some (response.data ++ List.replicate n 0)
  | .echo, body => body = []
  | .push message key, body =>
    ∃ data, BdResponse.opened crypto (some key) body = some data
      ∧ (exec PushMessage.read (BdReader.new data)).1 = .ok message.items

def carries (s : Writers) : Event → Option (SessionId × Carried)
  | .reply session response _ _ =>
    if s.serves session then some (session, .reply response (s.responseKey session response)) else none
  | .echo session _ => if s.serves session then some (session, .echo) else none
  | .deliver message _ _ =>
    (s.connections.lsg.recipients.get message.recipient).map fun recipient =>
      (recipient.session, .push (s.pushOf message) recipient.key)
  | .connection _ | .close _ => none

section

variable (aes : Aes256Cbc) (crypto : SessionCrypto) (session : SessionId)

-- what is carried to one connection, in the order of the run
def carried (s : Writers) : List Event → List Carried
  | [] => []
  | event :: rest =>
    match carries s event with
    | some (target, item) =>
      if target = session then item :: carried (step aes crypto s event) rest
      else carried (step aes crypto s event) rest
    | none => carried (step aes crypto s event) rest

def stream (s : Writers) : List UInt8 := (s.puts session).flatMap Put.bytes

def Event.Sendable : Event → Prop
  | .deliver message _ _ => PushMessage.Sendable message
  | _ => True

def Whole (s : Writers) (event : Event) : Prop :=
  event.Sendable ∧ ∀ target put, writes crypto s event = some (target, put) →
    put.failed = false ∧ put.frame.length < 2 ^ 32 + 4

end

section

variable {aes : Aes256Cbc} {crypto : SessionCrypto} {session : SessionId} {s : Writers} {event : Event}

theorem writes_carries (sendable : event.Sendable) :
    match carries s event with
    | none => writes crypto s event = none
    | some (target, item) =>
      ∃ put body, writes crypto s event = some (target, put)
        ∧ put.frame = LeCodec.u32.toLeBytes (UInt32.ofNat body.length) ++ body ∧ Heard crypto item body := by
  cases event with
  | connection event => rfl
  | close target => rfl
  | reply target response seed taken =>
    rw [carries, writes]
    by_cases serves : s.serves target
    · obtain ⟨sent, framed, _⟩ := response.frame_ok crypto seed (s.responseKey target response)
      obtain ⟨body, n, whole, few, opens⟩ := BdResponse.frame_opened framed
      rw [if_pos serves, if_pos serves, framed]
      exact ⟨_, body, rfl, whole, n, few, opens⟩
    · rw [if_neg serves, if_neg serves]
  | echo target taken =>
    rw [carries, writes]
    by_cases serves : s.serves target
    · rw [if_pos serves, if_pos serves]
      exact ⟨_, [], rfl, (List.append_nil _).symm, rfl⟩
    · rw [if_neg serves, if_neg serves]
  | deliver message seed taken =>
    rw [carries, writes]
    cases s.connections.lsg.recipients.get message.recipient with
    | none => rfl
    | some recipient =>
      obtain ⟨data, n, built, bits⟩ := (s.pushOf message).toResponse_bits
      have framing : pushFrame crypto seed (s.pushOf message) recipient.key
          = (BdResponse.encryptedIfAvailable data).frame crypto seed (some recipient.key) := by
        rw [pushFrame, built]
        rfl
      obtain ⟨sent, framed, _⟩ :=
        (BdResponse.encryptedIfAvailable data).frame_ok crypto seed (some recipient.key)
      obtain ⟨body, zeros, whole, _, opens⟩ := BdResponse.frame_opened framed
      dsimp only [Option.map_some]
      rw [framing, framed]
      refine ⟨_, body, rfl, whole, _, opens, ?_⟩
      refine @PushMessage.exec_read _ _ (List.replicate n false ++ ofBytes (List.replicate zeros 0))
        sendable.named sendable.short ?_
      rw [ofBytes_append, ← List.append_assoc, ← bits]
      rfl

theorem puts_whole (whole : Whole crypto s event) :
    match carries s event with
    | none => (step aes crypto s event).puts = s.puts
    | some (target, item) =>
      ∃ body, (step aes crypto s event).stream target
          = s.stream target ++ (LeCodec.u32.toLeBytes (UInt32.ofNat body.length) ++ body)
        ∧ (∀ other, other ≠ target → (step aes crypto s event).stream other = s.stream other)
        ∧ body.length < 2 ^ 32 ∧ Heard crypto item body := by
  have written := @writes_carries crypto s event whole.1
  have puts := @puts_step aes crypto s event
  cases carrying : carries s event with
  | none =>
    rw [carrying] at written
    dsimp only at written
    rw [written] at puts
    exact puts
  | some pair =>
    obtain ⟨target, item⟩ := pair
    rw [carrying] at written
    obtain ⟨put, body, write, frame, heard⟩ := written
    obtain ⟨untorn, short⟩ := whole.2 target put write
    rw [write] at puts
    dsimp only at puts
    have taken : put.frame.length ≤ put.taken := by simpa [Put.failed] using untorn
    have bytes : put.bytes = LeCodec.u32.toLeBytes (UInt32.ofNat body.length) ++ body := by
      rw [Put.bytes, List.take_of_length_le taken, frame]
    refine ⟨body, ?_, ?_, ?_, heard⟩
    · rw [stream, puts, Function.update_self, List.flatMap_append, List.flatMap_singleton, bytes]
      rfl
    · intro other apart
      rw [stream, puts, Function.update_of_ne apart]
      rfl
    · have four : (LeCodec.u32.toLeBytes (UInt32.ofNat body.length)).length = 4 :=
        LeCodec.length_toLeBytes _ _
      rw [frame, List.length_append, four] at short
      omega

end

theorem run_heard (aes : Aes256Cbc) (crypto : SessionCrypto) (session : SessionId) (events : List Event) :
    ∀ s, Runs.Meets (step aes crypto) (Whole crypto) s events →
      ∃ suffix, (Runs.run (step aes crypto) s events).stream session = s.stream session ++ suffix
        ∧ List.Forall₂ (Heard crypto) (carried aes crypto session s events) (bodies suffix) := by
  induction events with
  | nil =>
    intro s _
    exact ⟨[], (List.append_nil _).symm, by rw [bodies]; exact .nil⟩
  | cons event rest ih =>
    rintro s ⟨whole, later⟩
    obtain ⟨suffix, grown, heard⟩ := ih _ later
    have put := @puts_whole aes crypto s event whole
    rw [Runs.run_cons, carried]
    cases carrying : carries s event with
    | none =>
      rw [carrying] at put
      refine ⟨suffix, ?_, heard⟩
      rw [grown, stream, put]
      rfl
    | some pair =>
      obtain ⟨target, item⟩ := pair
      rw [carrying] at put
      obtain ⟨body, own, others, short, hears⟩ := put
      by_cases same : target = session
      · subst same
        refine ⟨LeCodec.u32.toLeBytes (UInt32.ofNat body.length) ++ body ++ suffix, ?_, ?_⟩
        · rw [grown, own, List.append_assoc]
        · dsimp only
          rw [if_pos rfl, bodies_append short]
          exact .cons hears heard
      · refine ⟨suffix, ?_, ?_⟩
        · rw [grown, others session (Ne.symm same)]
        · dsimp only
          rw [if_neg same]
          exact heard

/--
In every run whose writes do not fail, each connection is told exactly what was
meant for it: its replies, its echoes and the pushes to its user, in order.
-/
theorem connections_hear (aes : Aes256Cbc) (crypto : SessionCrypto)
    (keyStore : KeyStore.InMemoryKeyState) (events : List Event) (session : SessionId)
    (whole : Runs.Meets (step aes crypto) (Whole crypto) (start keyStore) events) :
    List.Forall₂ (Heard crypto) (carried aes crypto session (start keyStore) events)
      (bodies ((Runs.run (step aes crypto) (start keyStore) events).stream session)) := by
  obtain ⟨suffix, grown, heard⟩ := run_heard aes crypto session events _ whole
  have empty : (start keyStore).stream session = [] := rfl
  rw [grown, empty, List.nil_append]
  exact heard

open Issuer Connections

def pushedAndEchoed : List Event :=
  [.connection (.keys (.current 1000 (ringKey 1))), .connection (.connect 1),
    .connection (signInAs 1 7), .deliver ⟨7, 9, "sender", 0, [1]⟩ 5 200, .echo 1 4]

theorem whole_of_all {crypto : SessionCrypto} {s : Writers} {event : Event} (sendable : event.Sendable)
    (all : (writes crypto s event).all
      (fun written => !written.2.failed && decide (written.2.frame.length < 2 ^ 32 + 4)) = true) :
    Whole crypto s event := by
  refine ⟨sendable, fun target put write => ?_⟩
  rw [write, Option.all_some, Bool.and_eq_true, Bool.not_eq_true'] at all
  exact ⟨all.1, of_decide_eq_true all.2⟩

theorem connections_hear_push :
    (carried xorCipher plainCrypto 1 (start .new) pushedAndEchoed).length = 2
      ∧ List.Forall₂ (Heard plainCrypto) (carried xorCipher plainCrypto 1 (start .new) pushedAndEchoed)
        (bodies ((Runs.run (step xorCipher plainCrypto) (start .new) pushedAndEchoed).stream 1)) := by
  refine ⟨by decide +kernel, connections_hear xorCipher plainCrypto .new pushedAndEchoed 1 ?_⟩
  refine ⟨whole_of_all trivial rfl, whole_of_all trivial rfl, whole_of_all trivial rfl,
    whole_of_all ⟨by decide, by decide⟩ (by decide +kernel), whole_of_all trivial (by decide +kernel), trivial⟩

end Writers

end BitDemon
