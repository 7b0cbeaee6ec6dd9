import BitDemon.DwServer.Sqlite
import BitDemon.Lobby.Handlers.Profile

set_option autoImplicit false

/-!
# The profile service

A user has one profile of each type in a title.
-/

namespace BitDemon

open Machine

inductive ProfileType where
  | publicProfile | privateProfile
  deriving DecidableEq, Repr

def ProfileType.toU8 : ProfileType → UInt8
  | .privateProfile => 0
  | .publicProfile => 1

structure UserProfile where
  id : Nat
  title : UInt32
  ownerId : UInt64
  profileType : UInt8
  createdAt : Int64
  modifiedAt : Int64
  data : List UInt8
  deriving DecidableEq

structure ProfileDb where
  userProfile : List UserProfile
  -- what `Utc::now().timestamp()` reads
  now : Int64
  deriving DecidableEq

namespace DwProfileService

abbrev Answered (α : Type) := Except ProfileServiceError α

def isProfile (titleNum : UInt32) (ownerId : UInt64) (profileType : ProfileType) (u : UserProfile) :
    Bool :=
  u.title == titleNum && u.ownerId == ownerId && u.profileType == profileType.toU8

-- a statement that fails finds nothing
def profileOf (db : ProfileDb) (titleNum : UInt32) (userId : UInt64) (profileType : ProfileType) :
    Option ProfileInfo :=
  if Sqlite.bindable userId then
    (db.userProfile.find? (isProfile titleNum userId profileType)).map fun u =>
      { userId, data := u.data }
  else
    none

def getPublicProfiles (session : BdSession) (userIds : List UInt64) :
    Fallible ProfileDb (Answered (List ProfileInfo)) := do
  let authentication ← unwrap session.authentication
  let db ← get
  let res := userIds.filterMap fun userId =>
    profileOf db authentication.title.toU32 userId .publicProfile
  if res.isEmpty = false ∨ userIds.isEmpty = true then
    pure (.ok res)
  else
    pure (.error .noProfileInfoFound)

def getPrivateProfile (session : BdSession) : Fallible ProfileDb (Answered ProfileInfo) := do
  let authentication ← unwrap session.authentication
  let db ← get
  match profileOf db authentication.title.toU32 authentication.userId .privateProfile with
  | some profileInfo => pure (.ok profileInfo)
  | none => pure (.error .noProfileInfoFound)

-- the query fails quietly, the insertion after it is expected to succeed
def updateUserProfile (authentication : SessionAuthentication) (profileType : ProfileType)
    (profileData : List UInt8) : Fallible ProfileDb Unit := do
  let db ← get
  let titleNum := authentication.title.toU32
  if Sqlite.bindable authentication.userId then
    match db.userProfile.find? (isProfile titleNum authentication.userId profileType) with
    | some existing =>
      set ({ db with
        userProfile := db.userProfile.map fun u =>
          if u.id = existing.id then { u with modifiedAt := db.now, data := profileData } else u } :
        ProfileDb)
    | none =>
      let row : UserProfile :=
        { id := Sqlite.nextRowId (db.userProfile.map UserProfile.id), title := titleNum
          ownerId := authentication.userId, profileType := profileType.toU8
          createdAt := db.now, modifiedAt := db.now, data := profileData }
      set ({ db with userProfile := db.userProfile ++ [row] } : ProfileDb)
  else
    panicWith .unwrapOnError

def setPublicProfile (session : BdSession) (publicProfileData : List UInt8) :
    Fallible ProfileDb (Answered Unit) := do
  let authentication ← unwrap session.authentication
  updateUserProfile authentication .publicProfile publicProfileData
  pure (.ok ())

def setPrivateProfile (session : BdSession) (privateProfileData : List UInt8) :
    Fallible ProfileDb (Answered Unit) := do
  let authentication ← unwrap session.authentication
  updateUserProfile authentication .privateProfile privateProfileData
  pure (.ok ())

def deleteProfile (sqlite : Sqlite) (session : BdSession) : Fallible ProfileDb (Answered Unit) := do
  let authentication ← unwrap session.authentication
  if sqlite.acceptsBareAlias && Sqlite.bindable authentication.userId then
    modify fun (db : ProfileDb) =>
      { db with
        userProfile := db.userProfile.filter fun u =>
          !(u.title == authentication.title.toU32 && u.ownerId == authentication.userId) }
    pure (.ok ())
  else
    panicWith .unwrapOnError

def service (sqlite : Sqlite) : ProfileService ProfileDb :=
  { getPublicProfiles, getPrivateProfile, setPublicProfile, setPrivateProfile
    deleteProfile := deleteProfile sqlite }

end DwProfileService

end BitDemon
