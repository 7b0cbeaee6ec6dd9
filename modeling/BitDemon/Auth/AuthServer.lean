import BitDemon.Auth.Steam
import BitDemon.Messaging.Format
import BitDemon.Networking.Message

set_option autoImplicit false

/-!
# The authentication server

Only Steam tickets have a handler. Every other request is answered with the code
of its reply and an error.
-/

namespace BitDemon

open Machine

inductive AuthMessageType where
  | createAccountRequest | createAccountReply | changeUserKeyRequest | changeUserKeyReply
  | resetAccountRequest | resetAccountReply | deleteAccountRequest | deleteAccountReply
  | migrateAccountsRequest | migrateAccountsReply | accountForMmpRequest | accountForMmpReply
  | hostForMmpRequest | hostForMmpReply | accountForHostRequest | accountForHostReply
  | anonymousForMmpRequest | anonymousForMmpReply | ps3ForMmpRequest | ps3ForMmpReply
  | getUsernamesByLicenseRequest | getUsernamesByLicenseReply | wiiForMmpRequest | wiiForMmpReply
  | forDedicatedServerRequest | forDedicatedServerReply | forDedicatedServerRequestRsa
  | forDedicatedServerReplyRsa | steamForMmpRequest | steamForMmpReply | n3dsForMmpRequest
  | n3dsForMmpReply | codoForMmpRequest | codoForMmpReply | abaccountsForMmpRequest
  | abaccountsForMmpReply | wiiUForMmpRequest | wiiUForMmpReply | wiiUForMmpRequest2
  | wiiUForMmpReply2 | wiiUSecondaryForMmpRequest | wiiUSecondaryForMmpReply
  deriving DecidableEq, Repr

namespace AuthMessageType

-- the codes count up in the order of the list
def all : List AuthMessageType :=
  [.createAccountRequest, .createAccountReply, .changeUserKeyRequest, .changeUserKeyReply,
    .resetAccountRequest, .resetAccountReply, .deleteAccountRequest, .deleteAccountReply,
    .migrateAccountsRequest, .migrateAccountsReply, .accountForMmpRequest, .accountForMmpReply,
    .hostForMmpRequest, .hostForMmpReply, .accountForHostRequest, .accountForHostReply,
    .anonymousForMmpRequest, .anonymousForMmpReply, .ps3ForMmpRequest, .ps3ForMmpReply,
    .getUsernamesByLicenseRequest, .getUsernamesByLicenseReply, .wiiForMmpRequest, .wiiForMmpReply,
    .forDedicatedServerRequest, .forDedicatedServerReply, .forDedicatedServerRequestRsa,
    .forDedicatedServerReplyRsa, .steamForMmpRequest, .steamForMmpReply, .n3dsForMmpRequest,
    .n3dsForMmpReply, .codoForMmpRequest, .codoForMmpReply, .abaccountsForMmpRequest,
    .abaccountsForMmpReply, .wiiUForMmpRequest, .wiiUForMmpReply, .wiiUForMmpRequest2,
    .wiiUForMmpReply2, .wiiUSecondaryForMmpRequest, .wiiUSecondaryForMmpReply]

def toU8 (messageType : AuthMessageType) : UInt8 := UInt8.ofNat (all.idxOf messageType)

def fromU8 (value : UInt8) : Option AuthMessageType := all[value.toNat]?

def replyCode {σ : Type} (messageType : AuthMessageType) : Fallible σ AuthMessageType :=
  let code := messageType.toU8
  unwrap (fromU8 ((code - code % 2) + 1))

theorem replyCode_ok {σ : Type} (messageType : AuthMessageType) :
    ∃ reply, (replyCode messageType : Fallible σ AuthMessageType) = pure reply := by
  cases messageType <;> exact ⟨_, rfl⟩

end AuthMessageType

namespace BdErrorCode

def authNoError : BdErrorCode := ⟨700⟩
def authIllegalOperation : BdErrorCode := ⟨705⟩

end BdErrorCode

structure AuthResponseWithOnlyCode where
  messageType : AuthMessageType
  errorCode : BdErrorCode
  deriving DecidableEq

inductive AuthResponse where
  | steam (response : SteamAuthResponse)
  | onlyCode (response : AuthResponseWithOnlyCode)
  deriving DecidableEq

namespace AuthResponse

open BdWriter

def messageType : AuthResponse → AuthMessageType
  | .steam _ => .steamForMmpReply
  | .onlyCode response => response.messageType

def errorCode : AuthResponse → BdErrorCode
  | .steam _ => .authNoError
  | .onlyCode response => response.errorCode

/-- The ticket has a writer of its own; the seed is drawn anew. -/
def writeAuthData (crypto : SessionCrypto) (seed : UInt32) : AuthResponse → WriteM Unit
  | .steam response => do
    writeU32 seed
    match exec response.ticket.serialize BdWriter.new with
    | (.error fault, _) => throw fault
    | (.ok (), ticketWriter) => do
      let ticketBuf := ticketWriter.out
      let iv := crypto.generateIvFromSeed seed
      let ticketBuf := resize ticketBuf (nextMultipleOf ticketBuf.length blockSize)
      let ticketBuf ← MonadExcept.ofExcept
        (encryptBufferInPlace crypto ticketBuf response.ticket.sessionKey.toList iv)
      writeBytes ticketBuf
      writeBytes response.serializedProofData.toList
  | .onlyCode _ => pure ()

def write (crypto : SessionCrypto) (seed : UInt32) (response : AuthResponse) : WriteM Unit := do
  setTypeChecked false
  setMode .bitMode
  writeU8 response.messageType.toU8
  setTypeChecked true
  writeTypeCheckedBit
  writeU32 response.errorCode.toU32
  response.writeAuthData crypto seed

-- dropping the writer flushes it
def toResponse (crypto : SessionCrypto) (seed : UInt32) (response : AuthResponse) :
    Except Fault BdResponse :=
  match exec (response.write crypto seed) BdWriter.new with
  | (.ok _, writer) => .ok (.unencrypted (exec flush writer).2.out)
  | (.error fault, _) => .error fault

end AuthResponse

-- the clock and the random numbers that one message gets to see
structure AuthDraws where
  now : Int
  keyNow : Int
  fresh : BackendPrivateKey
  ivSeed : UInt32
  frameSeed : UInt32

inductive AuthHandler where
  | steam
  deriving DecidableEq

def AuthHandler.handleMessage (aes : Aes256Cbc) (draws : AuthDraws) (message : BdReader) :
    AuthHandler → Fallible KeyStore.InMemoryKeyState AuthResponse
  | .steam => do
    let response ← SteamAuthHandler.handleMessage aes draws.now draws.keyNow draws.fresh message
    pure (.steam response)

structure AuthServer where
  authHandlers : AuthMessageType → Option AuthHandler

namespace AuthServer

def new : AuthServer :=
  { authHandlers := fun messageType =>
      if messageType = .steamForMmpRequest then some .steam else none }

def readFrom {σ α : Type} (message : BdReader) (m : ReadM α) : Fallible σ (α × BdReader) :=
  match exec m message with
  | (.ok a, reader) => pure (a, reader)
  | (.error fault, _) => throw fault

def handleMessage (server : AuthServer) (aes : Aes256Cbc) (crypto : SessionCrypto)
    (draws : AuthDraws) (message : BdReader) :
    Fallible KeyStore.InMemoryKeyState BdResponse := do
  let (messageTypeInput, message) ← readFrom message BdReader.readU8
  let handlerType ← okOr (AuthMessageType.fromU8 messageTypeInput)
    (.illegalMessageType messageTypeInput)
  match server.authHandlers handlerType with
  | some handler => do
    let authResponse ← handler.handleMessage aes draws message
    MonadExcept.ofExcept (authResponse.toResponse crypto draws.ivSeed)
  | none => do
    let replyCode ← handlerType.replyCode
    let only := AuthResponse.onlyCode ⟨replyCode, .authIllegalOperation⟩
    MonadExcept.ofExcept (only.toResponse crypto draws.ivSeed)

def serve (server : AuthServer) (aes : Aes256Cbc) (crypto : SessionCrypto) (draws : AuthDraws)
    (session : BdSession) (buf : List UInt8) :
    Fallible KeyStore.InMemoryKeyState (List UInt8) := do
  let message ← BdMessage.new crypto session buf
  let response ← server.handleMessage aes crypto draws message
  let key := (session.authentication.map SessionAuthentication.sessionKey).filter
    fun _ => response.shouldEncrypt
  MonadExcept.ofExcept (response.frame crypto draws.frameSeed key)

end AuthServer

end BitDemon
