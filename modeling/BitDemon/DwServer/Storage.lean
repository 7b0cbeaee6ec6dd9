import BitDemon.DwServer.Sqlite
import BitDemon.Library.Runs
import BitDemon.Lobby.Handlers.Storage

set_option autoImplicit false

/-!
# The storage service

User files are rows of one table. Creating a file over an existing one replaces
its data and leaves its visibility as it was.
-/

namespace BitDemon

open Machine

structure UserFile where
  id : Nat
  filename : String
  title : UInt32
  createdAt : Int64
  modifiedAt : Int64
  visibility : UInt8
  ownerId : UInt64
  data : List UInt8
  deriving DecidableEq

structure StorageDb where
  userFile : List UserFile
  -- what `Utc::now().timestamp()` reads
  now : Int64
  deriving DecidableEq

def fromFileVisibility : FileVisibility → UInt8
  | .visiblePrivate => 0
  | .visiblePublic => 1

def toFileVisibility (value : UInt8) : FileVisibility :=
  if value = 0 then .visiblePrivate else .visiblePublic

namespace DwUserStorageService

abbrev Answered (α : Type) := Except StorageServiceError α

def maxFilenameLength : Nat := 260

def maxUserFileSize : Nat := 50000

def rejectWith {α : Type} (error : StorageServiceError) : Fallible StorageDb (Answered α) :=
  pure (Except.error error)

def accept {α : Type} (value : α) : Fallible StorageDb (Answered α) :=
  pure (Except.ok value)

def getStorageFileDataById (session : BdSession) (ownerId fileId : UInt64) :
    Fallible StorageDb (Answered StorageFile) := do
  let authentication ← unwrap session.authentication
  if authentication.userId ≠ ownerId then
    rejectWith .permissionDeniedError
  else
    let db ← get
    let found := db.userFile.find? fun u => u.id == fileId.toNat && u.ownerId == ownerId
    match found.filter fun _ => Sqlite.bindable fileId && Sqlite.bindable ownerId with
    | none => rejectWith .storageFileNotFoundError
    | some row =>
      -- the title is that of the session, whatever the row says
      accept
        { info :=
            { id := fileId, filename := row.filename, title := authentication.title
              fileSize := UInt64.ofNat row.data.length, created := row.createdAt
              modified := row.modifiedAt, visibility := toFileVisibility row.visibility, ownerId }
          data := row.data }

def getStorageFileDataByName (session : BdSession) (ownerId : UInt64) (filename : String) :
    Fallible StorageDb (Answered (List UInt8)) := do
  let authentication ← unwrap session.authentication
  let isOwner := authentication.userId == ownerId
  if maxFilenameLength < filename.utf8ByteSize then
    rejectWith .storageFileNotFoundError
  else
    let db ← get
    -- any title will do
    let found := db.userFile.find? fun u => u.filename == filename && u.ownerId == ownerId
    match found.filter fun _ => Sqlite.bindable ownerId with
    | none => rejectWith .storageFileNotFoundError
    | some row =>
      if toFileVisibility row.visibility = .visiblePrivate ∧ isOwner = false then
        rejectWith .permissionDeniedError
      else
        accept row.data

-- the number that stands for files of any visibility
def anyVisibility : UInt8 := 255

def listPattern (filter : Option String) : List Char :=
  match filter with
  | some f => f.toList ++ ['%']
  | none => ['%']

def listed (ownerId : UInt64) (titleNum : UInt32) (minDateTime : Int64) (pattern : List Char)
    (visible : UInt8) (rows : List UserFile) : List UserFile :=
  rows.filter fun u =>
    u.ownerId == ownerId && u.title == titleNum && decide (minDateTime ≤ u.createdAt)
      && Sqlite.like pattern u.filename.toList
      && (u.visibility == visible || visible == anyVisibility)

def fileInfo (title : Title) (ownerId : UInt64) (row : UserFile) : StorageFileInfo :=
  { id := UInt64.ofNat row.id, filename := row.filename, title
    fileSize := UInt64.ofNat row.data.length, created := row.createdAt, modified := row.modifiedAt
    visibility := toFileVisibility row.visibility, ownerId }

def list (session : BdSession) (ownerId : UInt64) (page : FilePage) (filter : Option String) :
    Fallible StorageDb (Answered (List StorageFileInfo)) := do
  let authentication ← unwrap session.authentication
  let visible :=
    if authentication.userId = ownerId then anyVisibility else fromFileVisibility .visiblePublic
  let db ← get
  if Sqlite.bindable ownerId then
    let rows := listed ownerId authentication.title.toU32 page.minDateTime (listPattern filter)
      visible db.userFile
    accept ((Sqlite.limit page.itemCount (Sqlite.offset page.itemOffset rows)).map
      (fileInfo authentication.title ownerId))
  else
    rejectWith .storageFileNotFoundError

def listStorageFiles (session : BdSession) (ownerId : UInt64) (page : FilePage) :
    Fallible StorageDb (Answered (List StorageFileInfo)) :=
  list session ownerId page none

def filterStorageFiles (session : BdSession) (ownerId : UInt64) (page : FilePage)
    (filter : String) : Fallible StorageDb (Answered (List StorageFileInfo)) :=
  list session ownerId page (some filter)

-- `UPDATE user_file SET data = .., modified_at = .. WHERE id = ..`
def setData (rows : List UserFile) (id : Nat) (data : List UInt8) (now : Int64) : List UserFile :=
  rows.map fun u => if u.id = id then { u with data := data, modifiedAt := now } else u

def holds (filename : String) (titleNum : UInt32) (ownerId : UInt64) (u : UserFile) : Bool :=
  u.filename == filename && u.title == titleNum && u.ownerId == ownerId

/-- The transaction of `create_storage_file`: the id of the row that now holds the data. -/
def storeFile (titleNum : UInt32) (ownerId : UInt64) (filename : String)
    (visibility : FileVisibility) (fileData : List UInt8) : Fallible StorageDb Nat := do
  let db ← get
  if Sqlite.bindable ownerId then
    match db.userFile.find? (holds filename titleNum ownerId) with
    | some existing => do
      -- neither the visibility nor the time of creation is touched
      set { db with userFile := setData db.userFile existing.id fileData db.now }
      pure existing.id
    | none => do
      let row : UserFile :=
        { id := Sqlite.nextRowId (db.userFile.map UserFile.id), filename, title := titleNum
          createdAt := db.now, modifiedAt := db.now, visibility := fromFileVisibility visibility
          ownerId, data := fileData }
      set { db with userFile := db.userFile ++ [row] }
      pure row.id
  else
    -- the query fails quietly, the insertion after it is expected to succeed
    panicWith .unwrapOnError

def createStorageFile (session : BdSession) (ownerId : UInt64) (filename : String)
    (visibility : FileVisibility) (fileData : List UInt8) :
    Fallible StorageDb (Answered StorageFileInfo) := do
  let authentication ← unwrap session.authentication
  if authentication.userId ≠ ownerId then
    rejectWith .permissionDeniedError
  else if maxFilenameLength < filename.utf8ByteSize then
    rejectWith .filenameTooLongError
  else if maxUserFileSize < fileData.length then
    rejectWith .storageFileTooLargeError
  else
    let db ← get
    let fileId ← storeFile authentication.title.toU32 ownerId filename visibility fileData
    accept
      { id := UInt64.ofNat fileId, filename, title := authentication.title
        fileSize := UInt64.ofNat fileData.length, created := db.now, modified := db.now
        visibility, ownerId }

def updateStorageFileData (session : BdSession) (ownerId fileId : UInt64)
    (fileData : List UInt8) : Fallible StorageDb (Answered Unit) := do
  let authentication ← unwrap session.authentication
  if authentication.userId ≠ ownerId then
    rejectWith .permissionDeniedError
  else if maxUserFileSize < fileData.length then
    rejectWith .storageFileTooLargeError
  else
    let db ← get
    let found := db.userFile.find? fun u =>
      u.id == fileId.toNat && u.title == authentication.title.toU32
    match found.filter fun _ => Sqlite.bindable fileId with
    | none => rejectWith .storageFileNotFoundError
    | some row =>
      if row.ownerId ≠ ownerId then
        rejectWith .permissionDeniedError
      else
        set { db with userFile := setData db.userFile fileId.toNat fileData db.now }
        accept ()

-- the statement names the file and neither its owner nor its title
def removeStorageFile (sqlite : Sqlite) (session : BdSession) (ownerId : UInt64)
    (filename : String) : Fallible StorageDb (Answered Unit) := do
  let authentication ← unwrap session.authentication
  if authentication.userId ≠ ownerId then
    rejectWith .permissionDeniedError
  else if maxFilenameLength < filename.utf8ByteSize then
    rejectWith .filenameTooLongError
  else
    let db ← get
    if sqlite.acceptsBareAlias then
      set { db with userFile := db.userFile.filter fun u => u.filename != filename }
      if db.userFile.any fun u => u.filename == filename then
        accept ()
      else
        rejectWith .storageFileNotFoundError
    else
      rejectWith .storageFileNotFoundError

def service : UserStorageService StorageDb :=
  { getStorageFileDataById, listStorageFiles, filterStorageFiles, createStorageFile
    updateStorageFileData }

end DwUserStorageService

end BitDemon
