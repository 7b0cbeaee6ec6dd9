import BitDemon.Lobby.Handling

set_option autoImplicit false

/-!
# The bandwidth handler

It is the only handler whose messages stay in byte mode.
-/

namespace BitDemon

open Machine BdReader

-- what the endpoint has counted for an address does not reach the client
structure BandwidthTestServer (ω : Type) where
  port : UInt16
  take : IpAddr → Fallible ω Unit
  drawToken : Fallible ω (Vector UInt8 8)

inductive BandwidthTaskId where
  | bandwidthTask
  deriving DecidableEq, Repr

namespace BandwidthTaskId

def toU8 : BandwidthTaskId → UInt8
  | .bandwidthTask => 1

def all : List BandwidthTaskId := [.bandwidthTask]

def fromU8 (value : UInt8) : Option BandwidthTaskId := all.find? fun taskId => taskId.toU8 == value

end BandwidthTaskId

inductive BandwidthOperation where
  | start | finalize
  deriving DecidableEq, Repr

namespace BandwidthOperation

def toU8 : BandwidthOperation → UInt8
  | .start => 0
  | .finalize => 1

def all : List BandwidthOperation := [.start, .finalize]

def fromU8 (value : UInt8) : Option BandwidthOperation :=
  all.find? fun operation => operation.toU8 == value

end BandwidthOperation

namespace BandwidthHandler

variable {ω : Type}

def packetSize : UInt32 := 1024
def packetCount : UInt32 := 400
def durationMs : UInt32 := 2000

-- `u32::from_le_bytes(a.ip().octets())`
def addressOf (octets : Vector UInt8 4) : UInt32 :=
  Bits.LeCodec.u32.fromLeBytes octets.toList

-- the type of the test is only logged
def start (endpoint : BandwidthTestServer ω) (session : BdSession) : HandleM ω Reply := do
  let _testTypeValue ← perform readU8
  match session.peerAddr with
  | some (.v4 octets) =>
    let token ← call endpoint.drawToken
    pure (.lsgTask (.accepted
      { packetSize, packetCount, durationMs, port := endpoint.port
        address := addressOf octets, token }))
  | _ => pure (.lsgTask (.rejected ⟨.serviceNotAvailable⟩))

def takeMeasurement (endpoint : BandwidthTestServer ω) (session : BdSession) : HandleM ω Unit :=
  match session.peerAddr with
  | some address => call (endpoint.take address)
  | none => pure ()

def finalize (endpoint : BandwidthTestServer ω) (session : BdSession) : HandleM ω Reply := do
  let _reported ← unwrapOr (perform remainingBytes) 0
  takeMeasurement endpoint session
  withOnlyErrorCode .noError BandwidthTaskId.bandwidthTask.toU8

def handleBandwidthTask (endpoint : BandwidthTestServer ω) (session : BdSession) :
    HandleM ω Reply := do
  let operation ← perform readU8
  match BandwidthOperation.fromU8 operation with
  | some .start => start endpoint session
  | some .finalize => finalize endpoint session
  | none => withOnlyErrorCode .serviceNotAvailable operation

def handleTask (endpoint : BandwidthTestServer ω) (session : BdSession) (taskIdValue : UInt8) :
    HandleM ω Reply :=
  match BandwidthTaskId.fromU8 taskIdValue with
  | none => withOnlyErrorCode .noError taskIdValue
  | some .bandwidthTask => handleBandwidthTask endpoint session

variable (endpoint : BandwidthTestServer ω) (session : BdSession)

theorem undisturbed_start : Undisturbed .byteMode (start endpoint session) := by
  refine keeps_bind (undisturbed_perform safe_readU8) fun _ => ?_
  rcases session.peerAddr with _ | octets | octets
  · exact keeps_pure _
  · exact keeps_bind (undisturbed_call _) fun _ => keeps_pure _
  · exact keeps_pure _

theorem undisturbed_finalize : Undisturbed .byteMode (finalize endpoint session) := by
  refine keeps_bind (undisturbed_unwrapOr _ (undisturbed_perform safe_remainingBytes)) fun _ => ?_
  have measured : Undisturbed .byteMode (takeMeasurement endpoint session) := by
    rw [takeMeasurement]
    cases session.peerAddr with
    | none => exact keeps_pure ()
    | some address => exact undisturbed_call _
  exact keeps_bind measured fun _ => undisturbed_withOnlyErrorCode _ _

theorem undisturbed_handleTask (taskIdValue : UInt8) :
    Undisturbed .byteMode (handleTask endpoint session taskIdValue) := by
  rw [handleTask]
  rcases BandwidthTaskId.fromU8 taskIdValue with _ | task
  · exact undisturbed_withOnlyErrorCode _ _
  · refine keeps_bind (undisturbed_perform safe_readU8) fun operation => ?_
    rcases BandwidthOperation.fromU8 operation with _ | known
    · exact undisturbed_withOnlyErrorCode _ _
    · cases known with
      | start => exact undisturbed_start endpoint session
      | finalize => exact undisturbed_finalize endpoint session

end BandwidthHandler

end BitDemon
