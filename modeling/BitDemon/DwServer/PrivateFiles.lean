import BitDemon.DwServer.Storage

set_option autoImplicit false

/-!
# Who sees a private file

The history of a run remembers with which visibility each file was last asked
for. A run discloses nothing private when no read by another user reaches a
file that was last asked for as private.
-/

namespace BitDemon

open Machine Runs

structure FileKey where
  ownerId : UInt64
  titleNum : UInt32
  filename : String
  deriving DecidableEq

def UserFile.key (u : UserFile) : FileKey := ⟨u.ownerId, u.title, u.filename⟩

namespace DwUserStorageService

inductive Request where
  | create (session : BdSession) (ownerId : UInt64) (filename : String)
      (visibility : FileVisibility) (fileData : List UInt8)
  | update (session : BdSession) (ownerId fileId : UInt64) (fileData : List UInt8)
  | remove (session : BdSession) (ownerId : UInt64) (filename : String)

structure Call where
  now : Int64
  request : Request

structure Served where
  db : StorageDb
  -- history: what the last successful creation of a file asked for
  asked : FileKey → Option FileVisibility

def Served.new : Served := { db := { userFile := [], now := 0 }, asked := fun _ => none }

def remember (asked : FileKey → Option FileVisibility) (ownerId : UInt64) (filename : String)
    (visibility : FileVisibility) (outcome : Except Fault (Answered StorageFileInfo)) :
    FileKey → Option FileVisibility :=
  match outcome with
  | .ok (.ok info) => Function.update asked ⟨ownerId, info.title.toU32, filename⟩ (some visibility)
  | _ => asked

def step (sqlite : Sqlite) (s : Served) (call : Call) : Served :=
  let db := { s.db with now := call.now }
  match call.request with
  | .create session ownerId filename visibility fileData =>
    let ran := exec (createStorageFile session ownerId filename visibility fileData) db
    { db := ran.2, asked := remember s.asked ownerId filename visibility ran.1 }
  | .update session ownerId fileId fileData =>
    { db := (exec (updateStorageFileData session ownerId fileId fileData) db).2, asked := s.asked }
  | .remove session ownerId filename =>
    { db := (exec (removeStorageFile sqlite session ownerId filename) db).2, asked := s.asked }

structure Undisclosed (s : Served) : Prop where
  byId : ∀ (session : BdSession) (reader : SessionAuthentication) (ownerId fileId : UInt64)
    (file : StorageFile), session.authentication = some reader → reader.userId ≠ ownerId →
    (exec (getStorageFileDataById session ownerId fileId) s.db).1 ≠ .ok (.ok file)
  byName : ∀ (session : BdSession) (reader : SessionAuthentication) (ownerId : UInt64)
    (filename : String) (data : List UInt8),
    session.authentication = some reader → reader.userId ≠ ownerId →
    (exec (getStorageFileDataByName session ownerId filename) s.db).1 = .ok (.ok data) →
    ∃ row ∈ s.db.userFile, row.ownerId = ownerId ∧ row.filename = filename ∧ row.data = data
      ∧ s.asked row.key ≠ some .visiblePrivate
  listed : ∀ (session : BdSession) (reader : SessionAuthentication) (ownerId : UInt64)
    (page : FilePage) (filter : Option String) (infos : List StorageFileInfo),
    session.authentication = some reader → reader.userId ≠ ownerId →
    (exec (list session ownerId page filter) s.db).1 = .ok (.ok infos) →
    ∀ info ∈ infos, s.asked ⟨ownerId, reader.title.toU32, info.filename⟩ ≠ some .visiblePrivate

/-- The title under which a file is stored, when nothing speaks against storing it. -/
def admits (session : BdSession) (ownerId : UInt64) (filename : String) (fileData : List UInt8) :
    Option Title :=
  match session.authentication with
  | some user =>
    if user.userId = ownerId ∧ filename.utf8ByteSize ≤ maxFilenameLength
        ∧ fileData.length ≤ maxUserFileSize ∧ Sqlite.bindable ownerId then
      some user.title
    else none
  | none => none

/-- A file that is asked for as private does not replace one that is not. -/
def KeepsPrivate (s : Served) (call : Call) : Prop :=
  match call.request with
  | .create session ownerId filename .visiblePrivate fileData =>
    ∀ title, admits session ownerId filename fileData = some title →
      ∀ row ∈ s.db.userFile, row.key = ⟨ownerId, title.toU32, filename⟩ →
        toFileVisibility row.visibility = .visiblePrivate
  | _ => True

theorem toFileVisibility_private_iff {value : UInt8} :
    toFileVisibility value = .visiblePrivate ↔ value = 0 := by
  unfold toFileVisibility
  split
  next zero => simp [zero]
  next other => simp [other]

@[simp] theorem toFileVisibility_from (visibility : FileVisibility) :
    toFileVisibility (fromFileVisibility visibility) = visibility := by
  cases visibility <;> rfl

theorem holds_iff {filename : String} {titleNum : UInt32} {ownerId : UInt64} {u : UserFile} :
    holds filename titleNum ownerId u = true ↔ u.key = ⟨ownerId, titleNum, filename⟩ := by
  simp only [holds, UserFile.key, Bool.and_eq_true, beq_iff_eq, FileKey.mk.injEq]
  constructor
  · rintro ⟨⟨sameName, sameTitle⟩, sameOwner⟩
    exact ⟨sameOwner, sameTitle, sameName⟩
  · rintro ⟨sameOwner, sameTitle, sameName⟩
    exact ⟨⟨sameName, sameTitle⟩, sameOwner⟩

theorem mem_setData {rows : List UserFile} {id : Nat} {data : List UInt8} {now : Int64}
    {u : UserFile} (member : u ∈ setData rows id data now) :
    ∃ v ∈ rows, u.key = v.key ∧ u.visibility = v.visibility := by
  obtain ⟨v, present, rfl⟩ := List.mem_map.mp member
  refine ⟨v, present, ?_⟩
  split
  · exact ⟨rfl, rfl⟩
  · exact ⟨rfl, rfl⟩

theorem setData_mem {rows : List UserFile} {v : UserFile} (present : v ∈ rows) (id : Nat)
    (data : List UInt8) (now : Int64) :
    ∃ u ∈ setData rows id data now, u.key = v.key ∧ u.visibility = v.visibility := by
  refine ⟨_, List.mem_map_of_mem present, ?_⟩
  split
  · exact ⟨rfl, rfl⟩
  · exact ⟨rfl, rfl⟩

def newRow (key : FileKey) (visibility : FileVisibility) (fileData : List UInt8) (db : StorageDb) :
    UserFile :=
  { id := Sqlite.nextRowId (db.userFile.map UserFile.id), filename := key.filename
    title := key.titleNum, createdAt := db.now, modifiedAt := db.now
    visibility := fromFileVisibility visibility, ownerId := key.ownerId, data := fileData }

def stored (key : FileKey) (visibility : FileVisibility) (fileData : List UInt8) (db : StorageDb) :
    List UserFile :=
  match db.userFile.find? (holds key.filename key.titleNum key.ownerId) with
  | some existing => setData db.userFile existing.id fileData db.now
  | none => db.userFile ++ [newRow key visibility fileData db]

def holder (key : FileKey) (visibility : FileVisibility) (fileData : List UInt8) (db : StorageDb) :
    UserFile :=
  match db.userFile.find? (holds key.filename key.titleNum key.ownerId) with
  | some existing => { existing with data := fileData, modifiedAt := db.now }
  | none => newRow key visibility fileData db

theorem exec_storeFile (key : FileKey) (visibility : FileVisibility) (fileData : List UInt8)
    (db : StorageDb) (bound : Sqlite.bindable key.ownerId = true) :
    exec (storeFile key.titleNum key.ownerId key.filename visibility fileData) db
      = (.ok (holder key visibility fileData db).id,
        { db with userFile := stored key visibility fileData db }) := by
  rw [storeFile, exec_bind_ok _ (exec_get db), if_pos bound, stored, holder]
  cases db.userFile.find? (holds key.filename key.titleNum key.ownerId) with
  | some existing => rfl
  | none => rfl

theorem admits_eq_some {session : BdSession} {ownerId : UInt64} {filename : String}
    {fileData : List UInt8} {title : Title}
    (admitted : admits session ownerId filename fileData = some title) :
    ∃ user, session.authentication = some user ∧ user.userId = ownerId ∧ user.title = title
      ∧ filename.utf8ByteSize ≤ maxFilenameLength ∧ fileData.length ≤ maxUserFileSize
      ∧ Sqlite.bindable ownerId = true := by
  unfold admits at admitted
  split at admitted
  next user authenticated =>
    split at admitted
    next fine =>
      obtain ⟨same, short, small, bound⟩ := fine
      exact ⟨user, authenticated, same, Option.some.inj admitted, short, small, bound⟩
    next refused => cases admitted
  next absent => cases admitted

theorem exec_create {session : BdSession} {ownerId : UInt64} {filename : String}
    {fileData : List UInt8} {title : Title} (visibility : FileVisibility) (db : StorageDb)
    (admitted : admits session ownerId filename fileData = some title) :
    exec (createStorageFile session ownerId filename visibility fileData) db
      = (.ok (.ok
          { id := UInt64.ofNat (holder ⟨ownerId, title.toU32, filename⟩ visibility fileData db).id
            filename, title, fileSize := UInt64.ofNat fileData.length, created := db.now
            modified := db.now, visibility, ownerId }),
        { db with userFile := stored ⟨ownerId, title.toU32, filename⟩ visibility fileData db }) := by
  obtain ⟨user, authenticated, same, rfl, short, small, bound⟩ := admits_eq_some admitted
  have wrote := exec_storeFile ⟨ownerId, user.title.toU32, filename⟩ visibility fileData db bound
  rw [createStorageFile, authenticated, unwrap_some, pure_bind, if_neg (by simp [same]),
    if_neg (by omega), if_neg (by omega), exec_bind_ok _ (exec_get db), exec_bind_ok _ wrote]
  rfl

theorem exec_create_admitted {session : BdSession} {ownerId : UInt64} {filename : String}
    {fileData : List UInt8} {title : Title} (visibility : FileVisibility) (db : StorageDb)
    (admitted : admits session ownerId filename fileData = some title) :
    ∃ info : StorageFileInfo, info.title = title
      ∧ exec (createStorageFile session ownerId filename visibility fileData) db
        = (.ok (.ok info), { db with
            userFile := stored ⟨ownerId, title.toU32, filename⟩ visibility fileData db }) :=
  ⟨_, rfl, exec_create visibility db admitted⟩

theorem exec_create_refused {session : BdSession} {ownerId : UInt64} {filename : String}
    {fileData : List UInt8} (visibility : FileVisibility) (db : StorageDb)
    (refused : admits session ownerId filename fileData = none) :
    (exec (createStorageFile session ownerId filename visibility fileData) db).2 = db
      ∧ ∀ info, (exec (createStorageFile session ownerId filename visibility fileData) db).1
        ≠ .ok (.ok info) := by
  rw [createStorageFile]
  cases authenticated : session.authentication with
  | none => exact ⟨rfl, by intro info; simp [unwrap, panicWith]⟩
  | some user =>
    rw [unwrap_some, pure_bind]
    split
    next other => exact ⟨rfl, by intro info; simp [rejectWith]⟩
    next same =>
      split
      next long => exact ⟨rfl, by intro info; simp [rejectWith]⟩
      next short =>
        split
        next large => exact ⟨rfl, by intro info; simp [rejectWith]⟩
        next small =>
          have unbound : Sqlite.bindable ownerId ≠ true := by
            intro bound
            simp only [admits, authenticated] at refused
            rw [if_pos ⟨by simpa using same, by omega, by omega, bound⟩] at refused
            cases refused
          have panics : exec (storeFile user.title.toU32 ownerId filename visibility fileData) db
              = (.error (.panic .unwrapOnError), db) := by
            rw [storeFile, exec_bind_ok _ (exec_get db), if_neg unbound]
            rfl
          rw [exec_bind_ok _ (exec_get db), exec_bind_error _ panics]
          exact ⟨rfl, by intro info; simp⟩

def Within (rows rows' : List UserFile) : Prop :=
  ∀ u ∈ rows', ∃ v ∈ rows, u.key = v.key ∧ u.visibility = v.visibility

theorem within_refl (rows : List UserFile) : Within rows rows := fun u present =>
  ⟨u, present, rfl, rfl⟩

theorem update_cases (session : BdSession) (ownerId fileId : UInt64) (fileData : List UInt8)
    (db : StorageDb) :
    (exec (updateStorageFileData session ownerId fileId fileData) db).2
        = { db with userFile := setData db.userFile fileId.toNat fileData db.now }
      ∨ (exec (updateStorageFileData session ownerId fileId fileData) db).2 = db := by
  rw [updateStorageFileData]
  cases session.authentication with
  | none => exact .inr rfl
  | some user =>
    rw [unwrap_some, pure_bind]
    split
    next other => exact .inr rfl
    next same =>
      split
      next large => exact .inr rfl
      next small =>
        rw [exec_bind_ok _ (exec_get db)]
        dsimp only
        split
        next absent => exact .inr rfl
        next row found =>
          split
          next other => exact .inr rfl
          next owns => exact .inl rfl

theorem within_update (session : BdSession) (ownerId fileId : UInt64) (fileData : List UInt8)
    (db : StorageDb) :
    Within db.userFile
      (exec (updateStorageFileData session ownerId fileId fileData) db).2.userFile := by
  rcases update_cases session ownerId fileId fileData db with did | same
  · rw [did]
    exact fun u member => mem_setData member
  · rw [same]
    exact within_refl _

-- the rows after a removal by name
def withoutName (filename : String) (rows : List UserFile) : List UserFile :=
  rows.filter fun u => u.filename != filename

theorem mem_withoutName {filename : String} {rows : List UserFile} {u : UserFile} :
    u ∈ withoutName filename rows ↔ u ∈ rows ∧ u.filename ≠ filename := by
  rw [withoutName, List.mem_filter, bne_iff_ne]

theorem exec_remove {sqlite : Sqlite} {session : BdSession} {user : SessionAuthentication}
    {filename : String} (authenticated : session.authentication = some user)
    (short : filename.utf8ByteSize ≤ maxFilenameLength) (db : StorageDb) :
    exec (removeStorageFile sqlite session user.userId filename) db
      = if sqlite.acceptsBareAlias then
          (if db.userFile.any fun u => u.filename == filename then .ok (.ok ())
            else .ok (.error .storageFileNotFoundError),
            { db with userFile := withoutName filename db.userFile })
        else (.ok (.error .storageFileNotFoundError), db) := by
  rw [removeStorageFile, authenticated, unwrap_some, pure_bind, if_neg (by simp),
    if_neg (by omega), exec_bind_ok _ (exec_get db)]
  split
  next runs =>
    rw [exec_bind_ok _ (exec_set _ db)]
    split
    next => rfl
    next => rfl
  next fails => rfl

theorem remove_cases (sqlite : Sqlite) (session : BdSession) (ownerId : UInt64)
    (filename : String) (db : StorageDb) :
    (∃ user, session.authentication = some user ∧ user.userId = ownerId
        ∧ filename.utf8ByteSize ≤ maxFilenameLength ∧ sqlite.acceptsBareAlias = true
        ∧ (exec (removeStorageFile sqlite session ownerId filename) db).2
          = { db with userFile := withoutName filename db.userFile })
      ∨ (exec (removeStorageFile sqlite session ownerId filename) db).2 = db := by
  cases authenticated : session.authentication with
  | none =>
    rw [removeStorageFile, authenticated]
    exact .inr rfl
  | some user =>
    by_cases owns : user.userId = ownerId
    · subst owns
      by_cases short : filename.utf8ByteSize ≤ maxFilenameLength
      · rw [exec_remove authenticated short]
        split
        next runs => exact .inl ⟨user, rfl, rfl, short, runs, rfl⟩
        next fails => exact .inr rfl
      · rw [removeStorageFile, authenticated, unwrap_some, pure_bind, if_neg (by simp),
          if_pos (by omega)]
        exact .inr rfl
    · rw [removeStorageFile, authenticated, unwrap_some, pure_bind, if_pos owns]
      exact .inr rfl

theorem within_remove (sqlite : Sqlite) (session : BdSession) (ownerId : UInt64)
    (filename : String) (db : StorageDb) :
    Within db.userFile
      (exec (removeStorageFile sqlite session ownerId filename) db).2.userFile := by
  rcases remove_cases sqlite session ownerId filename db with ⟨_, _, _, _, _, did⟩ | same
  · rw [did]
    exact fun u member => ⟨u, (mem_withoutName.mp member).1, rfl, rfl⟩
  · rw [same]
    exact within_refl _

structure Sound (s : Served) : Prop where
  titled : ∀ u ∈ s.db.userFile, ∃ title : Title, title.toU32 = u.key.titleNum
  bound : ∀ u ∈ s.db.userFile, Sqlite.bindable u.key.ownerId = true
  known : ∀ u ∈ s.db.userFile, u.visibility = 0 ∨ u.visibility = 1

def PrivateRows (s : Served) : Prop :=
  ∀ u ∈ s.db.userFile, s.asked u.key = some .visiblePrivate → u.visibility = 0

theorem Sound.within {s t : Served} (sound : Sound s) (part : Within s.db.userFile t.db.userFile) :
    Sound t := by
  constructor
  · intro u member
    obtain ⟨v, present, sameKey, _⟩ := part u member
    rw [sameKey]
    exact sound.titled v present
  · intro u member
    obtain ⟨v, present, sameKey, _⟩ := part u member
    rw [sameKey]
    exact sound.bound v present
  · intro u member
    obtain ⟨v, present, _, sameVisibility⟩ := part u member
    rw [sameVisibility]
    exact sound.known v present

theorem PrivateRows.within {s t : Served} (rows : PrivateRows s)
    (part : Within s.db.userFile t.db.userFile) (same : t.asked = s.asked) : PrivateRows t := by
  intro u member asks
  obtain ⟨v, present, sameKey, sameVisibility⟩ := part u member
  rw [same, sameKey] at asks
  rw [sameVisibility]
  exact rows v present asks

theorem mem_stored {key : FileKey} {visibility : FileVisibility} {fileData : List UInt8}
    {db : StorageDb} {u : UserFile} (member : u ∈ stored key visibility fileData db) :
    (∃ v ∈ db.userFile, u.key = v.key ∧ u.visibility = v.visibility)
      ∨ (u = newRow key visibility fileData db ∧ ∀ v ∈ db.userFile, v.key ≠ key) := by
  unfold stored at member
  split at member
  next existing found => exact .inl (mem_setData member)
  next absent =>
    rcases List.mem_append.mp member with old | new
    · exact .inl ⟨u, old, rfl, rfl⟩
    · refine .inr ⟨List.mem_singleton.mp new, fun v present sameKey => ?_⟩
      exact List.find?_eq_none.mp absent v present (holds_iff.mpr sameKey)

theorem stored_mem {key : FileKey} (db : StorageDb) {v : UserFile} (present : v ∈ db.userFile)
    (visibility : FileVisibility) (fileData : List UInt8) :
    ∃ u ∈ stored key visibility fileData db, u.key = v.key ∧ u.visibility = v.visibility := by
  unfold stored
  split
  next existing found => exact setData_mem present _ _ _
  next absent => exact ⟨v, List.mem_append_left _ present, rfl, rfl⟩

def afterCreate (s : Served) (now : Int64) (key : FileKey) (visibility : FileVisibility)
    (fileData : List UInt8) : Served :=
  { db := { userFile := stored key visibility fileData { s.db with now := now }, now := now }
    asked := Function.update s.asked key (some visibility) }

theorem step_create_admitted (sqlite : Sqlite) (s : Served) (now : Int64) {session : BdSession}
    {ownerId : UInt64} {filename : String} {fileData : List UInt8} {title : Title}
    (visibility : FileVisibility)
    (admitted : admits session ownerId filename fileData = some title) :
    step sqlite s ⟨now, .create session ownerId filename visibility fileData⟩
      = afterCreate s now ⟨ownerId, title.toU32, filename⟩ visibility fileData := by
  obtain ⟨info, rfl, ran⟩ := exec_create_admitted visibility { s.db with now := now } admitted
  simp only [step, ran, remember, afterCreate]

theorem step_create_refused (sqlite : Sqlite) (s : Served) (now : Int64) {session : BdSession}
    {ownerId : UInt64} {filename : String} {fileData : List UInt8} (visibility : FileVisibility)
    (refused : admits session ownerId filename fileData = none) :
    step sqlite s ⟨now, .create session ownerId filename visibility fileData⟩
      = { s with db := { s.db with now := now } } := by
  obtain ⟨same, never⟩ := exec_create_refused visibility { s.db with now := now } refused
  have quiet : remember s.asked ownerId filename visibility
      (exec (createStorageFile session ownerId filename visibility fileData)
        { s.db with now := now }).1 = s.asked := by
    unfold remember
    split
    next info ok => exact absurd ok (never info)
    next other => rfl
  simp only [step, same, quiet]

theorem sound_afterCreate {s : Served} (sound : Sound s) (now : Int64) (title : Title)
    {ownerId : UInt64} (filename : String) (visibility : FileVisibility) (fileData : List UInt8)
    (bound : Sqlite.bindable ownerId = true) :
    Sound (afterCreate s now ⟨ownerId, title.toU32, filename⟩ visibility fileData) := by
  constructor
  · intro u member
    rcases mem_stored member with ⟨v, present, sameKey, _⟩ | ⟨rfl, _⟩
    · rw [sameKey]
      exact sound.titled v present
    · exact ⟨title, rfl⟩
  · intro u member
    rcases mem_stored member with ⟨v, present, sameKey, _⟩ | ⟨rfl, _⟩
    · rw [sameKey]
      exact sound.bound v present
    · exact bound
  · intro u member
    rcases mem_stored member with ⟨v, present, _, sameVisibility⟩ | ⟨rfl, _⟩
    · rw [sameVisibility]
      exact sound.known v present
    · cases visibility
      · exact .inl rfl
      · exact .inr rfl

theorem sound_step (sqlite : Sqlite) {s : Served} (sound : Sound s) (call : Call) :
    Sound (step sqlite s call) := by
  obtain ⟨now, request⟩ := call
  cases request with
  | create session ownerId filename visibility fileData =>
    cases admitted : admits session ownerId filename fileData with
    | none =>
      rw [step_create_refused sqlite s now visibility admitted]
      exact sound.within (within_refl _)
    | some title =>
      rw [step_create_admitted sqlite s now visibility admitted]
      obtain ⟨user, _, _, _, _, _, bound⟩ := admits_eq_some admitted
      exact sound_afterCreate sound now title filename visibility fileData bound
  | update session ownerId fileId fileData =>
    exact sound.within (within_update session ownerId fileId fileData _)
  | remove session ownerId filename =>
    exact sound.within (within_remove sqlite session ownerId filename _)

theorem privateRows_afterCreate_iff {s : Served} (rows : PrivateRows s) (now : Int64)
    (key : FileKey) (visibility : FileVisibility) (fileData : List UInt8) :
    PrivateRows (afterCreate s now key visibility fileData)
      ↔ (visibility = .visiblePrivate →
          ∀ u ∈ s.db.userFile, u.key = key → toFileVisibility u.visibility = .visiblePrivate) := by
  constructor
  · rintro after rfl v present sameKey
    have kept : ∃ u ∈ stored key .visiblePrivate fileData { s.db with now := now },
        u.key = v.key ∧ u.visibility = v.visibility :=
      stored_mem { s.db with now := now } present _ _
    obtain ⟨u, member, keyU, visibilityU⟩ := kept
    have asks : (afterCreate s now key .visiblePrivate fileData).asked u.key
        = some .visiblePrivate := by
      rw [keyU, sameKey]
      exact Function.update_self key _ s.asked
    rw [toFileVisibility_private_iff, ← visibilityU]
    exact after u member asks
  · intro careful u member asks
    rcases mem_stored member with ⟨v, present, sameKey, sameVisibility⟩ | ⟨rfl, _⟩
    · by_cases replaced : v.key = key
      · have wish : (afterCreate s now key visibility fileData).asked u.key = some visibility := by
          rw [sameKey, replaced]
          exact Function.update_self key _ s.asked
        have asksPrivate : visibility = .visiblePrivate := Option.some.inj (wish.symm.trans asks)
        rw [sameVisibility]
        exact toFileVisibility_private_iff.mp (careful asksPrivate v present replaced)
      · have before : (afterCreate s now key visibility fileData).asked u.key = s.asked v.key := by
          rw [sameKey]
          exact Function.update_of_ne replaced _ s.asked
        rw [sameVisibility]
        exact rows v present (before.symm.trans asks)
    · have wish : (afterCreate s now key visibility fileData).asked
          (newRow key visibility fileData { s.db with now := now }).key = some visibility :=
        Function.update_self key _ s.asked
      have asksPrivate : visibility = .visiblePrivate := Option.some.inj (wish.symm.trans asks)
      rw [asksPrivate]
      rfl

theorem privateRows_step_iff (sqlite : Sqlite) {s : Served} (rows : PrivateRows s) (call : Call) :
    PrivateRows (step sqlite s call) ↔ KeepsPrivate s call := by
  obtain ⟨now, request⟩ := call
  cases request with
  | create session ownerId filename visibility fileData =>
    cases admitted : admits session ownerId filename fileData with
    | none =>
      rw [step_create_refused sqlite s now visibility admitted]
      refine ⟨fun _ => ?_, fun _ => rows.within (within_refl _) rfl⟩
      cases visibility with
      | visiblePrivate => simp [KeepsPrivate, admitted]
      | visiblePublic => trivial
    | some title =>
      rw [step_create_admitted sqlite s now visibility admitted,
        privateRows_afterCreate_iff rows]
      cases visibility with
      | visiblePrivate => simp [KeepsPrivate, admitted]
      | visiblePublic => simp [KeepsPrivate]
  | update session ownerId fileId fileData =>
    have part := within_update session ownerId fileId fileData { s.db with now := now }
    exact ⟨fun _ => trivial, fun _ => rows.within part rfl⟩
  | remove session ownerId filename =>
    have part := within_remove sqlite session ownerId filename { s.db with now := now }
    exact ⟨fun _ => trivial, fun _ => rows.within part rfl⟩

theorem byId_other {session : BdSession} {reader : SessionAuthentication} {ownerId : UInt64}
    (fileId : UInt64) (db : StorageDb) (authenticated : session.authentication = some reader)
    (other : reader.userId ≠ ownerId) :
    exec (getStorageFileDataById session ownerId fileId) db
      = (.ok (.error .permissionDeniedError), db) := by
  rw [getStorageFileDataById, authenticated, unwrap_some, pure_bind, if_pos other]
  rfl

theorem byName_other {session : BdSession} {reader : SessionAuthentication} {ownerId : UInt64}
    {filename : String} {db : StorageDb} {data : List UInt8}
    (authenticated : session.authentication = some reader) (other : reader.userId ≠ ownerId)
    (shown : (exec (getStorageFileDataByName session ownerId filename) db).1 = .ok (.ok data)) :
    ∃ u ∈ db.userFile, u.ownerId = ownerId ∧ u.filename = filename ∧ u.data = data
      ∧ u.visibility ≠ 0 := by
  rw [getStorageFileDataByName, authenticated, unwrap_some, pure_bind] at shown
  dsimp only at shown
  split at shown
  next long => simp [rejectWith] at shown
  next short =>
    rw [exec_bind_ok _ (exec_get db)] at shown
    split at shown
    next absent => simp [rejectWith] at shown
    next u found =>
      obtain ⟨found, _⟩ := Option.filter_eq_some_iff.mp found
      have matched := List.find?_some found
      simp only [Bool.and_eq_true, beq_iff_eq] at matched
      split at shown
      next denied => simp [rejectWith] at shown
      next visible =>
        have foreign : (reader.userId == ownerId) = false := by simpa using other
        refine ⟨u, List.mem_of_find?_eq_some found, matched.2, matched.1, ?_, fun zero => ?_⟩
        · simpa [accept] using shown
        · exact visible ⟨toFileVisibility_private_iff.mpr zero, foreign⟩

theorem mem_limit {α : Type} {n : Nat} {rows : List α} {a : α}
    (member : a ∈ Sqlite.limit n rows) : a ∈ rows := by
  unfold Sqlite.limit at member
  split at member
  · exact List.mem_of_mem_take member
  · exact member

theorem mem_offset {α : Type} {n : Nat} {rows : List α} {a : α}
    (member : a ∈ Sqlite.offset n rows) : a ∈ rows := by
  unfold Sqlite.offset at member
  split at member
  · exact List.mem_of_mem_drop member
  · exact member

theorem exec_list {session : BdSession} {user : SessionAuthentication} {ownerId : UInt64}
    (page : FilePage) (filter : Option String) (db : StorageDb)
    (authenticated : session.authentication = some user) (bound : Sqlite.bindable ownerId = true) :
    exec (list session ownerId page filter) db
      = (.ok (.ok ((Sqlite.limit page.itemCount (Sqlite.offset page.itemOffset
          (listed ownerId user.title.toU32 page.minDateTime (listPattern filter)
            (if user.userId = ownerId then anyVisibility else fromFileVisibility .visiblePublic)
            db.userFile))).map (fileInfo user.title ownerId))), db) := by
  rw [list, authenticated, unwrap_some, pure_bind]
  dsimp only
  rw [exec_bind_ok _ (exec_get db), if_pos bound]
  rfl

theorem exec_list_unbound {session : BdSession} {user : SessionAuthentication} {ownerId : UInt64}
    (page : FilePage) (filter : Option String) (db : StorageDb)
    (authenticated : session.authentication = some user)
    (unbound : ¬Sqlite.bindable ownerId = true) :
    exec (list session ownerId page filter) db
      = (.ok (.error .storageFileNotFoundError), db) := by
  rw [list, authenticated, unwrap_some, pure_bind]
  dsimp only
  rw [exec_bind_ok _ (exec_get db), if_neg unbound]
  rfl

theorem list_other {session : BdSession} {reader : SessionAuthentication} {ownerId : UInt64}
    {page : FilePage} {filter : Option String} {db : StorageDb} {infos : List StorageFileInfo}
    (authenticated : session.authentication = some reader) (other : reader.userId ≠ ownerId)
    (shown : (exec (list session ownerId page filter) db).1 = .ok (.ok infos)) :
    ∀ info ∈ infos, ∃ u ∈ db.userFile, u.key = ⟨ownerId, reader.title.toU32, info.filename⟩
      ∧ u.visibility = 1 := by
  by_cases bound : Sqlite.bindable ownerId = true
  · rw [exec_list page filter db authenticated bound, if_neg other] at shown
    obtain rfl := Except.ok.inj (Except.ok.inj shown)
    intro info member
    obtain ⟨u, cut, rfl⟩ := List.mem_map.mp member
    have inside := mem_offset (mem_limit cut)
    obtain ⟨present, matched⟩ := List.mem_filter.mp inside
    simp only [Bool.and_eq_true, Bool.or_eq_true, beq_iff_eq] at matched
    obtain ⟨⟨⟨⟨sameOwner, sameTitle⟩, _⟩, _⟩, visible⟩ := matched
    refine ⟨u, present, ?_, ?_⟩
    · rw [UserFile.key, sameOwner, sameTitle]
      rfl
    · rcases visible with one | any
      · exact one
      · cases any
  · rw [exec_list_unbound page filter db authenticated bound] at shown
    cases Except.ok.inj shown

theorem undisclosed_of_privateRows {s : Served} (rows : PrivateRows s) : Undisclosed s := by
  constructor
  · intro session reader ownerId fileId file authenticated other
    rw [byId_other fileId s.db authenticated other]
    simp
  · intro session reader ownerId filename data authenticated other shown
    obtain ⟨u, present, sameOwner, sameName, sameData, visible⟩ :=
      byName_other authenticated other shown
    exact ⟨u, present, sameOwner, sameName, sameData, fun asks => visible (rows u present asks)⟩
  · intro session reader ownerId page filter infos authenticated other shown info member asks
    obtain ⟨u, present, sameKey, visible⟩ := list_other authenticated other shown info member
    rw [← sameKey] at asks
    have hidden := rows u present asks
    rw [visible] at hidden
    cases hidden

theorem add_one_ne (n : UInt64) : n + 1 ≠ n := by
  intro same
  have small := n.toNat_lt
  have numbers := congrArg UInt64.toNat same
  rw [UInt64.toNat_add] at numbers
  have one : (1 : UInt64).toNat = 1 := rfl
  omega

theorem privateRows_of_undisclosed {s : Served} (sound : Sound s) (undisclosed : Undisclosed s) :
    PrivateRows s := by
  intro u present asks
  rcases sound.known u present with hidden | visible
  · exact hidden
  · exfalso
    obtain ⟨title, titled⟩ := sound.titled u present
    -- any other user who lists from the file's creation on
    let reader : SessionAuthentication := ⟨u.ownerId + 1, "", [], title⟩
    let session : BdSession := ⟨0, some reader, none⟩
    let page : FilePage := ⟨u.createdAt, 0, 2 ^ 63⟩
    have other : reader.userId ≠ u.ownerId := add_one_ne u.ownerId
    have shown : exec (list session u.ownerId page none) s.db = _ :=
      exec_list page none s.db rfl (sound.bound u present)
    rw [if_neg other] at shown
    have inside : u ∈ listed u.ownerId title.toU32 page.minDateTime (listPattern none) 1
        s.db.userFile := by
      refine List.mem_filter.mpr ⟨present, ?_⟩
      have sameTitle : u.title = title.toU32 := titled.symm
      have matched : Sqlite.like (listPattern none) u.filename.toList = true :=
        Sqlite.like_everything _
      have since : page.minDateTime ≤ u.createdAt := Int64.le_refl _
      simp [sameTitle, matched, visible, since]
    have whole : u ∈ Sqlite.limit page.itemCount (Sqlite.offset page.itemOffset
        (listed u.ownerId title.toU32 page.minDateTime (listPattern none) 1 s.db.userFile)) := by
      simpa [page, Sqlite.limit, Sqlite.offset] using inside
    refine undisclosed.listed session reader u.ownerId page none _ rfl other
      (congrArg Prod.fst shown) _ (List.mem_map_of_mem whole) ?_
    change s.asked ⟨u.ownerId, title.toU32, u.filename⟩ = some .visiblePrivate
    rw [titled]
    exact asks

theorem undisclosed_iff {s : Served} (sound : Sound s) : Undisclosed s ↔ PrivateRows s :=
  ⟨privateRows_of_undisclosed sound, undisclosed_of_privateRows⟩

theorem sound_new : Sound Served.new := by
  constructor <;> intro u member <;> cases member

theorem undisclosed_new : Undisclosed Served.new :=
  undisclosed_of_privateRows fun u member => by cases member

/-- Nothing private is ever disclosed exactly if no private file replaces a public one. -/
theorem undisclosed_always_iff (sqlite : Sqlite) (calls : List Call) :
    Always (step sqlite) Undisclosed Served.new calls
      ↔ Meets (step sqlite) KeepsPrivate Served.new calls := by
  refine @always_iff_meets _ _ (step sqlite) Sound Undisclosed KeepsPrivate ?_ ?_ _ _ sound_new
    undisclosed_new
  · intro s call sound _ _
    exact sound_step sqlite sound call
  · intro s call sound undisclosed
    rw [undisclosed_iff (sound_step sqlite sound call)]
    exact privateRows_step_iff sqlite ((undisclosed_iff sound).mp undisclosed) call

def owner : BdSession := ⟨1, some ⟨7, "owner", [], .t6Pc⟩, none⟩

def visitor : BdSession := ⟨2, some ⟨8, "visitor", [], .t6Pc⟩, none⟩

-- the same file, first for everybody and then for its owner only
def madePrivate : List Call :=
  [⟨100, .create owner 7 "stats" .visiblePublic [1]⟩,
    ⟨200, .create owner 7 "stats" .visiblePrivate [2]⟩]

theorem madePrivate_disclosed :
    (run (step ⟨true⟩) Served.new madePrivate).asked ⟨7, Title.t6Pc.toU32, "stats"⟩
        = some .visiblePrivate
      ∧ (exec (getStorageFileDataByName visitor 7 "stats")
          (run (step ⟨true⟩) Served.new madePrivate).db).1 = .ok (.ok [2])
      ∧ ¬Always (step ⟨true⟩) Undisclosed Served.new madePrivate := by
  refine ⟨by decide, by decide, fun always => ?_⟩
  have last := always.2.2
  have seen : (exec (list visitor 7 ⟨0, 0, 10⟩ none)
      (run (step ⟨true⟩) Served.new madePrivate).db).1
      = .ok (.ok [⟨1, "stats", .t6Pc, 1, 100, 200, .visiblePublic, 7⟩]) := by decide
  exact last.listed visitor ⟨8, "visitor", [], .t6Pc⟩ 7 ⟨0, 0, 10⟩ none _ rfl (by decide) seen _
    List.mem_cons_self (by decide)

end DwUserStorageService

end BitDemon
