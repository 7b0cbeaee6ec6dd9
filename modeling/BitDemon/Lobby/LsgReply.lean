import BitDemon.Lobby.TaskReply

set_option autoImplicit false

/-!
# Replies outside the task format

The answer to a bandwidth test stays in byte mode and carries no type tags. The
answer to an authentication only names the connection.
-/

namespace BitDemon

open Machine BdWriter

structure BandwidthTestRejected where
  reason : BdErrorCode
  deriving DecidableEq

structure BandwidthTestAccepted where
  packetSize : UInt32
  packetCount : UInt32
  durationMs : UInt32
  port : UInt16
  address : UInt32
  token : Vector UInt8 8
  deriving DecidableEq

inductive LsgServiceTaskReply where
  | rejected (reply : BandwidthTestRejected)
  | accepted (reply : BandwidthTestAccepted)
  deriving DecidableEq

def BandwidthTestRejected.writeTaskReplyData (reply : BandwidthTestRejected) : WriteM Unit := do
  writeBool true
  writeU16 reply.reason.toU32.toUInt16

def BandwidthTestAccepted.writeTaskReplyData (reply : BandwidthTestAccepted) : WriteM Unit := do
  writeBool false
  writeU32 reply.packetSize
  writeU32 reply.packetCount
  writeU32 0
  writeU32 reply.durationMs
  writeU32 0
  writeU32 0
  writeU32 0
  writeU16 reply.port
  writeU32 reply.address
  Wire.writeEach writeU8 reply.token.toList

namespace LsgServiceTaskReply

def transactionId (_ : LsgServiceTaskReply) : UInt64 := 0

def writeTaskReplyData : LsgServiceTaskReply → WriteM Unit
  | .rejected reply => reply.writeTaskReplyData
  | .accepted reply => reply.writeTaskReplyData

def write (reply : LsgServiceTaskReply) : WriteM Unit := do
  setTypeChecked false
  setMode .byteMode
  writeU8 BdMessageType.lsgServiceTaskReply.toU8
  writeU64 reply.transactionId
  reply.writeTaskReplyData

end LsgServiceTaskReply

structure ConnectionIdResponse where
  connectionId : UInt64
  deriving DecidableEq

def ConnectionIdResponse.write (response : ConnectionIdResponse) : WriteM Unit := do
  setTypeChecked false
  setMode .byteMode
  writeU8 BdMessageType.lsgServiceConnectionId.toU8
  setMode .bitMode
  setTypeChecked true
  writeTypeCheckedBit
  writeU64 response.connectionId
  flush

inductive Reply where
  | task (reply : TaskReply)
  | lsgTask (reply : LsgServiceTaskReply)
  | connectionId (response : ConnectionIdResponse)
  deriving DecidableEq

namespace Reply

def write : Reply → WriteM Unit
  | .task reply => reply.write
  | .lsgTask reply => reply.write
  | .connectionId response => response.write

def toResponse (reply : Reply) : Except Fault BdResponse :=
  match exec reply.write BdWriter.new with
  | (.ok _, writer) => .ok (.encryptedIfAvailable writer.out)
  | (.error fault, _) => .error fault

theorem toResponse_task (reply : TaskReply) :
    (Reply.task reply).toResponse = reply.toResponse := by
  rcases written : exec reply.write BdWriter.new with ⟨outcome, writer⟩
  have same : exec (Reply.task reply).write BdWriter.new = (outcome, writer) := written
  cases outcome <;> simp only [toResponse, TaskReply.toResponse, same, written]

end Reply

theorem ConnectionIdResponse.toResponse_ok (response : ConnectionIdResponse) :
    ∃ data, (Reply.connectionId response).toResponse = .ok (.encryptedIfAvailable data) := by
  obtain ⟨first, started, ready, _⟩ := TaskReply.exec_start .lsgServiceConnectionId
  have number : Writes .bitMode true (writeU64 response.connectionId) _ () :=
    Format.writes_scalar .unsignedInteger64Type .u64 response.connectionId
  obtain ⟨second, numbered, ready, _⟩ := number first ready
  obtain ⟨last, flushed, _⟩ := BdWriter.exec_flush ready
  have ran : exec response.write BdWriter.new = (.ok (), last) := by
    rw [← flushed, ← exec_bind_ok (fun _ => flush) numbered,
      ← exec_bind_ok (fun _ => writeU64 response.connectionId >>= fun _ => flush) started]
    simp only [ConnectionIdResponse.write, bind_assoc]
  exact ⟨last.out, by rw [Reply.toResponse, Reply.write, ran]⟩

end BitDemon
