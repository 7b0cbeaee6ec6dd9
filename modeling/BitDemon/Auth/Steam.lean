import BitDemon.Auth.AuthProof
import BitDemon.Messaging.Reader
import BitDemon.Messaging.Writer

set_option autoImplicit false

/-!
# Tickets, and the Steam issuer

A ticket tells its user the session key; the proof of the same ticket tells the
lobby server.
-/

namespace BitDemon

open Machine

inductive BdAuthTicketType where
  | userToService | hostToService | userToHost
  deriving DecidableEq, Repr

def BdAuthTicketType.toU8 : BdAuthTicketType → UInt8
  | .userToService => 0x0
  | .hostToService => 0x1
  | .userToHost => 0x2

structure AuthTicket where
  ticketType : BdAuthTicketType
  title : Title
  timeIssued : UInt32
  timeExpires : UInt32
  licenseId : UInt64
  userId : UInt64
  username : String
  sessionKey : Vector UInt8 24
  deriving DecidableEq

namespace AuthTicket

def magicNumber : UInt32 := 0xEFBDADDE

def nameMaxLen : Nat := 64

def serialize (ticket : AuthTicket) : WriteM Unit := do
  BdWriter.setTypeChecked false
  BdWriter.setMode .byteMode
  BdWriter.writeU32 magicNumber
  BdWriter.writeU8 ticket.ticketType.toU8
  BdWriter.writeU32 ticket.title.toU32
  BdWriter.writeU32 ticket.timeIssued
  BdWriter.writeU32 ticket.timeExpires
  BdWriter.writeU64 ticket.licenseId
  BdWriter.writeU64 ticket.userId
  let name := Utf8.encode ticket.username
  ensure (decide (name.length ≤ nameMaxLen)) (.usernameTooLong name.length)
  BdWriter.writeBytes name
  BdWriter.writeBytes (List.replicate (64 - name.length) 0)
  BdWriter.writeBytes ticket.sessionKey.toList
  BdWriter.writeBytes [0, 0, 0, 0]

-- `(timestamp % (u32::MAX as i64)) as u32`
def shortTime (timestamp : Int) : UInt32 := UInt32.ofInt (timestamp.tmod 4294967295)

/-- The ticket of an issuer; the issuers differ in how long theirs last and in the license. -/
def issue (now lifetime : Int) (licenseId : UInt64) (title : Title) (userId : UInt64)
    (username : String) (sessionKey : Vector UInt8 24) : AuthTicket :=
  { ticketType := .userToService, title, timeIssued := shortTime now
    timeExpires := shortTime (now + lifetime), licenseId, userId, username, sessionKey }

def proof (ticket : AuthTicket) (timeExpires : Int) : ClientOpaqueAuthProof :=
  { title := ticket.title, timeExpires := Int64.ofInt timeExpires, licenseId := ticket.licenseId
    userId := ticket.userId, sessionKey := ticket.sessionKey, username := ticket.username }

end AuthTicket

structure CustomSteamAuthenticationRequest where
  steamId : UInt64
  sessionKey : Vector UInt8 24
  username : String
  deriving DecidableEq

namespace CustomSteamAuthenticationRequest

def customTicketSignature : UInt32 := 0xDEADBABE

def expectedSecretDataSize : Nat := 24 + 64

def deserialize : ReadM CustomSteamAuthenticationRequest := do
  BdReader.setMode .byteMode
  BdReader.setTypeChecked false
  let signature ← BdReader.readU32
  ensure (signature == customTicketSignature) (.signatureMismatch signature customTicketSignature)
  let steamId ← BdReader.readU64
  let secretDataSize ← BdReader.readU32
  ensure (secretDataSize.toNat == expectedSecretDataSize)
    (.unexpectedSecretLength secretDataSize.toNat expectedSecretDataSize)
  let sessionKey ← BdReader.readBytes 24
  let username ← BdReader.readStr
  ensure (decide (username.utf8ByteSize < 64)) (.usernameInvalidLength username.utf8ByteSize 64)
  pure { steamId, sessionKey := arrayOf 24 sessionKey, username }

end CustomSteamAuthenticationRequest

inductive SteamAuthenticationRequest where
  | custom (requestData : CustomSteamAuthenticationRequest)
  deriving DecidableEq

structure AuthenticationRequest where
  ivSeed : UInt32
  title : Title
  requestData : SteamAuthenticationRequest
  deriving DecidableEq

namespace AuthenticationRequest

def maxDataLen : Nat := 128

def deserialize : ReadM AuthenticationRequest := do
  let ivSeed ← BdReader.readU32
  let titleId ← BdReader.readU32
  let title ← okOr (Title.fromU32 titleId) (.unknownTitle titleId)
  let dataLen ← BdReader.readU32
  ensure (decide (dataLen.toNat ≤ maxDataLen)) (.requestDataTooLong dataLen.toNat)
  let dataBuf ← BdReader.readBytes dataLen.toNat
  -- the data has a reader of its own
  let requestData ← MonadExcept.ofExcept
    (exec CustomSteamAuthenticationRequest.deserialize (BdReader.new dataBuf)).1
  pure { ivSeed, title, requestData := .custom requestData }

end AuthenticationRequest

structure SteamAuthResponse where
  ticket : AuthTicket
  serializedProofData : Vector UInt8 128
  deriving DecidableEq

namespace SteamAuthHandler

def ticketIssueLength : Int := 5 * 60 * 1000

def readRequest : ReadM AuthenticationRequest := do
  BdReader.setMode .bitMode
  BdReader.readTypeCheckedBit
  AuthenticationRequest.deserialize

/-- The clock is read for the ticket and once more for the key. -/
def handleMessage (aes : Aes256Cbc) (now keyNow : Int) (fresh : BackendPrivateKey)
    (message : BdReader) : Fallible KeyStore.InMemoryKeyState SteamAuthResponse := do
  let authenticationRequest ← MonadExcept.ofExcept (exec readRequest message).1
  match authenticationRequest.requestData with
  | .custom requestData =>
    let ticket := AuthTicket.issue now ticketIssueLength 1234 authenticationRequest.title
      requestData.steamId requestData.username requestData.sessionKey
    let proof := ticket.proof (now + ticketIssueLength)
    let serializedProofData ← proof.serialize aes keyNow fresh
    pure { ticket, serializedProofData }

end SteamAuthHandler

end BitDemon
