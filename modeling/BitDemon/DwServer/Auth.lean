import BitDemon.Auth.Steam

set_option autoImplicit false

/-!
# The HTTP issuer

The user is whoever the authorization header names.
-/

namespace BitDemon

open Machine

def digitValue (radix : Nat) (c : Char) : Option Nat :=
  let value :=
    if '0' ≤ c ∧ c ≤ '9' then c.toNat - '0'.toNat
    else if 'a' ≤ c ∧ c ≤ 'z' then c.toNat - 'a'.toNat + 10
    else if 'A' ≤ c ∧ c ≤ 'Z' then c.toNat - 'A'.toNat + 10
    else radix
  if value < radix then some value else none

def parseDigits (radix limit : Nat) : Nat → List Char → Option Nat
  | value, [] => some value
  | value, c :: digits => do
    let digit ← digitValue radix c
    let next := value * radix + digit
    if next < limit then parseDigits radix limit next digits else none

-- `from_str_radix` of the unsigned integers
def parseUnsigned (radix limit : Nat) (text : List Char) : Option Nat :=
  match text with
  | [] => none
  | ['+'] => none
  | '+' :: digits => parseDigits radix limit 0 digits
  | digits => parseDigits radix limit 0 digits

namespace DwAuth

structure AuthRequest where
  authTask : String
  titleId : String
  ivSeed : String
  deriving DecidableEq

-- both tickets are sent in base64
structure AuthReply where
  authTask : UInt64
  code : UInt64
  ivSeed : UInt32
  clientTicket : Vector UInt8 128
  serverTicket : Vector UInt8 128
  extraData : String

structure AuthError where
  authTask : UInt64
  code : UInt64
  message : String
  deriving DecidableEq

def authTaskRequest : UInt64 := 44

def authTaskReply : UInt64 := 45

def authCodeSuccess : UInt64 := 700

def ticketSize : Nat := 128

def ticketLifetimeSeconds : Int := 5 * 60

def serializeTicket (ticket : AuthTicket) : Except Fault (Vector UInt8 128) :=
  match exec ticket.serialize .new with
  | (.error fault, _) => .error fault
  | (.ok (), writer) =>
    if ticketSize < writer.out.length then
      .error (.error .bufferSize)
    else
      .ok (arrayOf ticketSize writer.out)

def stripPrefix (lead text : List Char) : Option (List Char) :=
  if lead.isPrefixOf text then some (text.drop lead.length) else none

def splitOnce (text : List Char) : Option (List Char × List Char) :=
  match text.dropWhile (· ≠ '=') with
  | [] => none
  | _ :: value => some (text.takeWhile (· ≠ '='), value)

structure Identity where
  xuid : Option UInt64
  gamertag : Option String

-- a field that is given twice counts the last time, and an `xuid` that is no number undoes one
def Identity.take (identity : Identity) (field : List Char) : Identity :=
  match splitOnce field with
  | some (name, value) =>
    if name = "xuid".toList then
      { identity with xuid := (parseUnsigned 16 (2 ^ 64) value).map UInt64.ofNat }
    else if name = "gamertag".toList ∧ value ≠ [] then
      { identity with gamertag := some (String.ofList value) }
    else identity
  | none => identity

def identify (authorization : Option String) : Option (UInt64 × String) := do
  let token ← authorization
  let token ← stripPrefix "IW4x1.0 ".toList token.toList
  let identity := (token.splitOn ';').foldl Identity.take { xuid := none, gamertag := none }
  pure (← identity.xuid, ← identity.gamertag)

def reject (message : String) : Except AuthError AuthReply :=
  .error { authTask := authTaskReply, code := 1, message }

def parseTask (text : String) : UInt64 :=
  UInt64.ofNat ((parseUnsigned 10 (2 ^ 64) text.toList).getD 0)

def parseU32 (text : String) : UInt32 :=
  UInt32.ofNat ((parseUnsigned 10 (2 ^ 32) text.toList).getD 0)

def httpTicket (now : Int) (title : Title) (userId : UInt64) (username : String)
    (sessionKey : Vector UInt8 24) : AuthTicket :=
  .issue now ticketLifetimeSeconds 1 title userId username sessionKey

def handleAuth (aes : Aes256Cbc) (now keyNow : Int) (fresh : BackendPrivateKey)
    (sessionKey : Vector UInt8 24) (authorization : Option String) (request : AuthRequest) :
    Fallible KeyStore.InMemoryKeyState (Except AuthError AuthReply) :=
  let task := parseTask request.authTask
  let titleId := parseU32 request.titleId
  if task ≠ authTaskRequest then
    pure (reject ("unsupported auth task " ++ toString task))
  else
    match Title.fromU32 titleId, identify authorization with
    | none, _ => pure (reject ("unknown title " ++ toString titleId))
    | some _, none => pure (reject "missing identity")
    | some title, some (userId, username) =>
      let ticket := httpTicket now title userId username sessionKey
      match serializeTicket ticket with
      | .error (.panic p) => panicWith p
      | .error (.error _) => pure (reject "internal error")
      | .ok clientTicket => do
        let proof := ticket.proof (now + ticketLifetimeSeconds)
        let serverTicket ← proof.serialize aes keyNow fresh
        pure (.ok
          { authTask := authTaskReply, code := authCodeSuccess, ivSeed := parseU32 request.ivSeed
            clientTicket, serverTicket
            extraData := "\x7b\"dpi\":\"0\",\"sbx\":\"RETAIL\"\x7d" })

end DwAuth

end BitDemon
