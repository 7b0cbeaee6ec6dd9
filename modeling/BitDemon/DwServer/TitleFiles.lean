import BitDemon.DwServer.PrivateFiles

set_option autoImplicit false

/-!
# The files of a title

User files are bound to the title they are created for. Some statements ask for
the title of a row and some do not.
-/

namespace BitDemon

open Machine Runs

namespace DwUserStorageService

variable {sqlite : Sqlite} {db : StorageDb} {session : BdSession} {user : SessionAuthentication}
  {filename : String}

def keyOf (user : SessionAuthentication) (filename : String) : FileKey :=
  ⟨user.userId, user.title.toU32, filename⟩

structure RemovesOnly (key : FileKey) (before : StorageDb)
    (ran : Except Fault (Answered Unit) × StorageDb) : Prop where
  others : ran.2.userFile.filter (fun u => decide (u.key ≠ key))
    = before.userFile.filter fun u => decide (u.key ≠ key)
  part : List.Sublist ran.2.userFile before.userFile
  answered : ran.1 = .ok (.ok ()) ↔ ∃ u ∈ before.userFile, u.key = key
  removed : ran.1 = .ok (.ok ()) → ∀ u ∈ ran.2.userFile, u.key ≠ key

/-- The name is held by no other file, or where the statement fails, by not even this one. -/
def HeldAlone (sqlite : Sqlite) (key : FileKey) (db : StorageDb) : Prop :=
  if sqlite.acceptsBareAlias then ∀ u ∈ db.userFile, u.filename = key.filename → u.key = key
  else ∀ u ∈ db.userFile, u.key ≠ key

theorem any_name_iff (rows : List UserFile) :
    (rows.any fun u => u.filename == filename) = true ↔ ∃ u ∈ rows, u.filename = filename := by
  simp

theorem removesOnly_of_heldAlone {key : FileKey}
    (alone : ∀ u ∈ db.userFile, u.filename = key.filename → u.key = key) :
    RemovesOnly key db
      (if db.userFile.any fun u => u.filename == key.filename then .ok (.ok ())
        else .ok (.error .storageFileNotFoundError),
        { db with userFile := withoutName key.filename db.userFile }) := by
  have existed : (∃ u ∈ db.userFile, u.filename = key.filename) ↔ ∃ u ∈ db.userFile, u.key = key := by
    constructor
    · rintro ⟨u, present, named⟩
      exact ⟨u, present, alone u present named⟩
    · rintro ⟨u, present, rfl⟩
      exact ⟨u, present, rfl⟩
  constructor
  · rw [withoutName, List.filter_filter]
    refine List.filter_congr fun u present => ?_
    by_cases same : u.filename = key.filename
    next => simp [alone u present same]
    next => simp [same]
  · exact List.filter_sublist
  · rw [← existed, ← any_name_iff]
    split <;> simp_all
  · rintro _ u member rfl
    exact (mem_withoutName.mp member).2 rfl

/--
A removal touches its own file only, and tells whether there was one, exactly if
no other user and no other title has a file of that name.
-/
theorem removes_only_iff (sqlite : Sqlite) (db : StorageDb) (session : BdSession)
    (user : SessionAuthentication) (filename : String)
    (authenticated : session.authentication = some user)
    (short : filename.utf8ByteSize ≤ maxFilenameLength) :
    RemovesOnly (keyOf user filename) db
        (exec (removeStorageFile sqlite session user.userId filename) db)
      ↔ HeldAlone sqlite (keyOf user filename) db := by
  rw [exec_remove authenticated short, HeldAlone]
  cases sqlite.acceptsBareAlias with
  | true =>
    simp only [if_true]
    refine ⟨fun only u present named => ?_, removesOnly_of_heldAlone⟩
    by_contra other
    have kept : u ∈ db.userFile.filter fun u => decide (u.key ≠ keyOf user filename) :=
      List.mem_filter.mpr ⟨present, decide_eq_true other⟩
    rw [← only.others] at kept
    exact (mem_withoutName.mp (List.mem_of_mem_filter kept)).2 named
  | false =>
    simp only [Bool.false_eq_true, if_false]
    constructor
    · intro only u present same
      cases only.answered.mpr ⟨u, present, same⟩
    · intro absent
      refine ⟨rfl, List.Sublist.refl _, ⟨nofun, ?_⟩, nofun⟩
      rintro ⟨u, present, same⟩
      exact absurd same (absent u present)

def ownerIw5 : BdSession := ⟨3, some ⟨7, "owner", [], .iw5⟩, none⟩

-- the same name under another title, and for another user
def sameName : List Call :=
  [⟨0, .create owner 7 "stats" .visiblePrivate [1]⟩, ⟨0, .create ownerIw5 7 "stats" .visiblePrivate [2]⟩,
    ⟨0, .create visitor 8 "stats" .visiblePrivate [3]⟩]

theorem removes_others :
    ¬RemovesOnly (keyOf ⟨7, "owner", [], .t6Pc⟩ "stats") (run (step ⟨true⟩) Served.new sameName).db
        (exec (removeStorageFile ⟨true⟩ owner 7 "stats") (run (step ⟨true⟩) Served.new sameName).db)
      ∧ ¬RemovesOnly (keyOf ⟨7, "owner", [], .t6Pc⟩ "stats")
        (run (step ⟨false⟩) Served.new sameName).db
        (exec (removeStorageFile ⟨false⟩ owner 7 "stats")
          (run (step ⟨false⟩) Served.new sameName).db) := by
  constructor
  · intro only
    exact absurd only.others (by decide)
  · intro only
    exact absurd (only.answered.mpr (by decide)) (by decide)

theorem removes_only_absent :
    RemovesOnly (keyOf ⟨7, "owner", [], .t6Pc⟩ "stats")
      (run (step ⟨false⟩) Served.new (sameName.drop 1)).db
      (exec (removeStorageFile ⟨false⟩ owner 7 "stats")
        (run (step ⟨false⟩) Served.new (sameName.drop 1)).db) :=
  (removes_only_iff ⟨false⟩ _ owner ⟨7, "owner", [], .t6Pc⟩ "stats" rfl (by decide)).mpr (by
    rw [HeldAlone, if_neg Bool.false_ne_true]
    decide)

def Request.madeBy : Request → BdSession
  | .create session _ _ _ _ => session
  | .update session _ _ _ => session
  | .remove session _ _ => session

def inTitle (title : Title) (session : BdSession) : Bool :=
  session.authentication.any fun user => decide (user.title = title)

def write (sqlite : Sqlite) (db : StorageDb) : Request → StorageDb
  | .create session ownerId filename visibility fileData =>
    (exec (createStorageFile session ownerId filename visibility fileData) db).2
  | .update session ownerId fileId fileData =>
    (exec (updateStorageFileData session ownerId fileId fileData) db).2
  | .remove session ownerId filename =>
    (exec (removeStorageFile sqlite session ownerId filename) db).2

structure SideBySide where
  shared : StorageDb
  alone : StorageDb

namespace SideBySide

def started : SideBySide := { shared := Served.new.db, alone := Served.new.db }

def titleRows (title : Title) (db : StorageDb) : List UserFile :=
  db.userFile.filter fun u => u.title == title.toU32

/-- The id that the file with an id in the shared database has in the other one. -/
def counterpart (title : Title) (s : SideBySide) (fileId : UInt64) : UInt64 :=
  let place := (titleRows title s.shared).findIdx fun u => u.id == fileId.toNat
  match (titleRows title s.alone)[place]? with
  | some u => UInt64.ofNat u.id
  | none => fileId

def translate (title : Title) (s : SideBySide) : Request → Request
  | .update session ownerId fileId fileData =>
    .update session ownerId (counterpart title s fileId) fileData
  | request => request

/-- A call reaches the shared database, and the other one only if it is made in the title. -/
def step (sqlite : Sqlite) (title : Title) (s : SideBySide) (call : Call) : SideBySide :=
  { shared := write sqlite { s.shared with now := call.now } call.request
    alone :=
      let alone := { s.alone with now := call.now }
      if inTitle title call.request.madeBy then
        write sqlite alone (translate title s call.request)
      else
        alone }

end SideBySide

-- answers without the ids in them
def withoutId (info : StorageFileInfo) : StorageFileInfo := { info with id := 0 }

def fileWithoutId (file : StorageFile) : StorageFile := { file with info := withoutId file.info }

structure Isolated (title : Title) (s : SideBySide) : Prop where
  fileById : ∀ (session : BdSession) (ownerId fileId : UInt64) (file : StorageFile),
    inTitle title session = true →
    (exec (getStorageFileDataById session ownerId fileId) s.shared).1 = .ok (.ok file) →
    ∃ u ∈ s.shared.userFile, u.id = fileId.toNat ∧ u.ownerId = ownerId ∧ u.title = title.toU32
  byId : ∀ (session : BdSession) (ownerId fileId : UInt64), inTitle title session = true →
    ∃ otherId,
      (exec (getStorageFileDataById session ownerId fileId) s.shared).1.map (Except.map fileWithoutId)
        = (exec (getStorageFileDataById session ownerId otherId) s.alone).1.map
          (Except.map fileWithoutId)
  fileByName : ∀ (session : BdSession) (ownerId : UInt64) (filename : String) (data : List UInt8),
    inTitle title session = true →
    (exec (getStorageFileDataByName session ownerId filename) s.shared).1 = .ok (.ok data) →
    ∃ u ∈ s.shared.userFile, u.key = ⟨ownerId, title.toU32, filename⟩ ∧ u.data = data
  byName : ∀ (session : BdSession) (ownerId : UInt64) (filename : String),
    inTitle title session = true →
    (exec (getStorageFileDataByName session ownerId filename) s.shared).1
      = (exec (getStorageFileDataByName session ownerId filename) s.alone).1
  fileListed : ∀ (session : BdSession) (ownerId : UInt64) (page : FilePage) (filter : Option String)
    (infos : List StorageFileInfo), inTitle title session = true →
    (exec (list session ownerId page filter) s.shared).1 = .ok (.ok infos) →
    ∀ info ∈ infos, ∃ u ∈ s.shared.userFile, UInt64.ofNat u.id = info.id
      ∧ u.key = ⟨ownerId, title.toU32, info.filename⟩
  listed : ∀ (session : BdSession) (ownerId : UInt64) (page : FilePage) (filter : Option String),
    inTitle title session = true →
    (exec (list session ownerId page filter) s.shared).1.map (Except.map (List.map withoutId))
      = (exec (list session ownerId page filter) s.alone).1.map (Except.map (List.map withoutId))

def KeepsOut (sqlite : Sqlite) (title : Title) (s : SideBySide) (call : Call) : Prop :=
  match call.request with
  | .create session ownerId filename _ fileData =>
    ∀ of, admits session ownerId filename fileData = some of → of = title
  | .update _ _ _ _ => True
  | .remove session ownerId filename =>
    ∀ user, session.authentication = some user → user.title ≠ title → user.userId = ownerId →
      filename.utf8ByteSize ≤ maxFilenameLength → sqlite.acceptsBareAlias = true →
      ∀ u ∈ SideBySide.titleRows title s.shared, u.filename ≠ filename

variable {title : Title} {s : SideBySide}

theorem forall_write {property : FileKey → Prop} {request : Request}
    (all : ∀ u ∈ db.userFile, property u.key)
    (stores : ∀ session ownerId filename visibility fileData title,
      request = .create session ownerId filename visibility fileData →
      admits session ownerId filename fileData = some title →
      property ⟨ownerId, title.toU32, filename⟩) :
    ∀ u ∈ (write sqlite db request).userFile, property u.key := by
  have part {rows : List UserFile} (within : Within db.userFile rows) :
      ∀ u ∈ rows, property u.key := by
    intro u member
    obtain ⟨v, present, same, _⟩ := within u member
    rw [same]
    exact all v present
  cases request with
  | create session ownerId filename visibility fileData =>
    rw [write]
    cases admitted : admits session ownerId filename fileData with
    | none => rwa [(exec_create_refused visibility db admitted).1]
    | some title =>
      obtain ⟨info, _, did⟩ := exec_create_admitted visibility db admitted
      rw [did]
      intro u member
      rcases mem_stored member with ⟨v, present, same, _⟩ | ⟨rfl, _⟩
      next =>
        rw [same]
        exact all v present
      next => exact stores session ownerId filename visibility fileData title rfl admitted
  | update session ownerId fileId fileData => exact part (within_update _ _ _ _ db)
  | remove session ownerId filename => exact part (within_remove sqlite _ _ _ db)

theorem inTitle_iff : inTitle title session = true
    ↔ ∃ user, session.authentication = some user ∧ user.title = title := by
  rw [inTitle, Option.any_eq_true]
  simp

theorem title_of_foreign (foreign : inTitle title session = false)
    (authenticated : session.authentication = some user) : user.title ≠ title := by
  rintro rfl
  rw [inTitle_iff.mpr ⟨user, authenticated, rfl⟩] at foreign
  cases foreign

theorem update_foreign {ownerId fileId : UInt64} {fileData : List UInt8}
    (titled : ∀ u ∈ db.userFile, u.title = title.toU32) (foreign : inTitle title session = false) :
    (exec (updateStorageFileData session ownerId fileId fileData) db).2 = db := by
  rw [updateStorageFileData]
  cases authenticated : session.authentication with
  | none => rfl
  | some user =>
    have other := title_of_foreign foreign authenticated
    have missing : (db.userFile.find? fun u => u.id == fileId.toNat && u.title == user.title.toU32)
        = none := by
      rw [List.find?_eq_none]
      intro u present hit
      rw [Bool.and_eq_true, beq_iff_eq, beq_iff_eq, titled u present] at hit
      exact other (Title.toU32_inj hit.2).symm
    rw [unwrap_some, pure_bind]
    split
    next => rfl
    next =>
      split
      next => rfl
      next =>
        rw [exec_bind_ok _ (exec_get db), missing]
        rfl

theorem remove_foreign {ownerId : UInt64} {filename : String}
    (absent : ∀ user, session.authentication = some user → user.userId = ownerId →
      filename.utf8ByteSize ≤ maxFilenameLength → sqlite.acceptsBareAlias = true →
      ∀ u ∈ db.userFile, u.filename ≠ filename) :
    (exec (removeStorageFile sqlite session ownerId filename) db).2 = db := by
  rcases remove_cases sqlite session ownerId filename db with
    ⟨user, authenticated, owns, short, runs, did⟩ | same
  next =>
    have whole : withoutName filename db.userFile = db.userFile :=
      List.filter_eq_self.mpr fun u present =>
        bne_iff_ne.mpr (absent user authenticated owns short runs u present)
    rw [did, whole]
  next => exact same

namespace SideBySide

structure Same (title : Title) (s : SideBySide) : Prop where
  equal : s.alone = s.shared
  titled : ∀ u ∈ s.shared.userFile, u.key.titleNum = title.toU32 ∧ Sqlite.bindable u.key.ownerId = true

theorem titleRows_of_titled {db : StorageDb}
    (titled : ∀ u ∈ db.userFile, u.key.titleNum = title.toU32 ∧ Sqlite.bindable u.key.ownerId = true) :
    titleRows title db = db.userFile :=
  List.filter_eq_self.mpr fun u present => beq_iff_eq.mpr (titled u present).1

theorem Same.counterpart (same : Same title s) (fileId : UInt64) :
    counterpart title s fileId = fileId := by
  rw [SideBySide.counterpart, same.equal]
  split
  next u found =>
    rw [← List.find?_eq_getElem?_findIdx] at found
    have id : u.id = fileId.toNat := by simpa using List.find?_some found
    rw [id, UInt64.ofNat_toNat]
  next => rfl

theorem Same.translate (same : Same title s) (request : Request) :
    translate title s request = request := by
  cases request with
  | create => rfl
  | update session ownerId fileId fileData => rw [SideBySide.translate, same.counterpart]
  | remove => rfl

theorem Same.write_foreign (same : Same title s) {call : Call} (out : KeepsOut sqlite title s call)
    (foreign : inTitle title call.request.madeBy = false) (now : Int64) :
    write sqlite { s.shared with now := now } call.request = { s.shared with now := now } := by
  cases asked : call.request with
  | create session ownerId filename visibility fileData =>
    rw [KeepsOut, asked] at out
    rw [asked] at foreign
    have refused : admits session ownerId filename fileData = none := by
      cases admitted : admits session ownerId filename fileData with
      | none => rfl
      | some of =>
        obtain ⟨user, authenticated, _, title', _⟩ := admits_eq_some admitted
        exact absurd (title'.trans (out of admitted)) (title_of_foreign foreign authenticated)
    exact (exec_create_refused visibility _ refused).1
  | update session ownerId fileId fileData =>
    rw [asked] at foreign
    exact update_foreign (fun u present => (same.titled u present).1) foreign
  | remove session ownerId filename =>
    rw [KeepsOut, asked, titleRows_of_titled same.titled] at out
    rw [asked] at foreign
    exact remove_foreign fun user authenticated =>
      out user authenticated (title_of_foreign foreign authenticated)

theorem same_step (same : Same title s) {call : Call} (out : KeepsOut sqlite title s call) :
    Same title (step sqlite title s call) := by
  constructor
  · rw [step, same.translate, same.equal]
    dsimp only
    split
    next => rfl
    next foreign =>
      rw [Bool.not_eq_true] at foreign
      exact (same.write_foreign out foreign call.now).symm
  · refine @forall_write sqlite { s.shared with now := call.now }
      (fun key => key.titleNum = title.toU32 ∧ Sqlite.bindable key.ownerId = true) call.request
      same.titled ?_
    intro session ownerId filename visibility fileData of asked admitted
    rw [KeepsOut, asked] at out
    obtain ⟨_, _, _, _, _, _, bound⟩ := admits_eq_some admitted
    rw [out of admitted]
    exact ⟨rfl, bound⟩

theorem same_started : Same title started := ⟨rfl, nofun⟩

end SideBySide

theorem byId_ok {ownerId fileId : UInt64} {file : StorageFile}
    (given : (exec (getStorageFileDataById session ownerId fileId) db).1 = .ok (.ok file)) :
    ∃ u ∈ db.userFile, u.id = fileId.toNat ∧ u.ownerId = ownerId := by
  rw [getStorageFileDataById] at given
  cases authenticated : session.authentication with
  | none =>
    rw [authenticated] at given
    cases given
  | some user =>
    rw [authenticated, unwrap_some, pure_bind] at given
    split at given
    next => cases given
    next =>
      rw [exec_bind_ok _ (exec_get db)] at given
      dsimp only at given
      split at given
      next => cases given
      next u found =>
        obtain ⟨found, _⟩ := Option.filter_eq_some_iff.mp found
        have matched := List.find?_some found
        rw [Bool.and_eq_true, beq_iff_eq, beq_iff_eq] at matched
        exact ⟨u, List.mem_of_find?_eq_some found, matched⟩

theorem byName_ok {ownerId : UInt64} {data : List UInt8}
    (given : (exec (getStorageFileDataByName session ownerId filename) db).1 = .ok (.ok data)) :
    ∃ u ∈ db.userFile, u.ownerId = ownerId ∧ u.filename = filename ∧ u.data = data := by
  rw [getStorageFileDataByName] at given
  cases authenticated : session.authentication with
  | none =>
    rw [authenticated] at given
    cases given
  | some user =>
    rw [authenticated, unwrap_some, pure_bind] at given
    dsimp only at given
    split at given
    next => cases given
    next =>
      rw [exec_bind_ok _ (exec_get db)] at given
      split at given
      next => cases given
      next u found =>
        obtain ⟨found, _⟩ := Option.filter_eq_some_iff.mp found
        have matched := List.find?_some found
        rw [Bool.and_eq_true, beq_iff_eq, beq_iff_eq] at matched
        split at given
        next => cases given
        next =>
          cases given
          exact ⟨u, List.mem_of_find?_eq_some found, matched.2, matched.1, rfl⟩

theorem list_ok {ownerId : UInt64} {page : FilePage} {filter : Option String}
    {infos : List StorageFileInfo} (member : inTitle title session = true)
    (given : (exec (list session ownerId page filter) db).1 = .ok (.ok infos)) :
    ∀ info ∈ infos, ∃ u ∈ db.userFile, fileInfo title ownerId u = info
      ∧ u.key = ⟨ownerId, title.toU32, info.filename⟩ := by
  obtain ⟨user, authenticated, rfl⟩ := inTitle_iff.mp member
  rw [list, authenticated, unwrap_some, pure_bind] at given
  dsimp only at given
  rw [exec_bind_ok _ (exec_get db)] at given
  split at given
  next =>
    cases given
    intro info shown
    obtain ⟨u, cut, rfl⟩ := List.mem_map.mp shown
    obtain ⟨present, matched⟩ := List.mem_filter.mp (mem_offset (mem_limit cut))
    simp only [Bool.and_eq_true, beq_iff_eq] at matched
    obtain ⟨⟨⟨⟨owns, titled⟩, _⟩, _⟩, _⟩ := matched
    exact ⟨u, present, rfl, by rw [UserFile.key, owns, titled]; rfl⟩
  next => cases given

theorem isolated_of_same (same : SideBySide.Same title s) : Isolated title s where
  fileById session ownerId fileId file _ given := by
    obtain ⟨u, present, id, owns⟩ := byId_ok given
    exact ⟨u, present, id, owns, (same.titled u present).1⟩
  byId session ownerId fileId _ := ⟨fileId, by rw [same.equal]⟩
  fileByName session ownerId filename data _ given := by
    obtain ⟨u, present, owns, named, stored⟩ := byName_ok given
    have titled : u.title = title.toU32 := (same.titled u present).1
    exact ⟨u, present, by rw [UserFile.key, owns, named, titled], stored⟩
  byName session ownerId filename _ := by rw [same.equal]
  fileListed session ownerId page filter infos member given := by
    intro info shown
    obtain ⟨u, present, told, same⟩ := list_ok member given info shown
    exact ⟨u, present, congrArg StorageFileInfo.id told, same⟩
  listed session ownerId page filter _ := by rw [same.equal]

def readerOf (ownerId : UInt64) (title : Title) : BdSession := ⟨0, some ⟨ownerId, "", [], title⟩, none⟩

theorem inTitle_readerOf (ownerId : UInt64) (title : Title) :
    inTitle title (readerOf ownerId title) = true := by
  simp [inTitle, readerOf]

theorem byId_found {u : UserFile} {fileId : UInt64} (present : u ∈ db.userFile)
    (id : u.id = fileId.toNat) (bound : Sqlite.bindable u.ownerId = true)
    (fits : Sqlite.bindable fileId = true) :
    ∃ file, (exec (getStorageFileDataById (readerOf u.ownerId title) u.ownerId fileId) db).1
      = .ok (.ok file) := by
  have there : ∃ v, (db.userFile.find? fun v => v.id == fileId.toNat && v.ownerId == u.ownerId)
      = some v := by
    rw [← Option.isSome_iff_exists, List.find?_isSome]
    exact ⟨u, present, by simp [id]⟩
  obtain ⟨v, found⟩ := there
  rw [getStorageFileDataById, readerOf, unwrap_some, pure_bind, if_neg (by simp),
    exec_bind_ok _ (exec_get db), found, fits, bound]
  exact ⟨_, rfl⟩

theorem byName_found {u : UserFile} (present : u ∈ db.userFile)
    (short : u.filename.utf8ByteSize ≤ maxFilenameLength)
    (bound : Sqlite.bindable u.ownerId = true) :
    ∃ data, (exec (getStorageFileDataByName (readerOf u.ownerId title) u.ownerId u.filename) db).1
      = .ok (.ok data) := by
  have there : ∃ v, (db.userFile.find? fun v => v.filename == u.filename && v.ownerId == u.ownerId)
      = some v := by
    rw [← Option.isSome_iff_exists, List.find?_isSome]
    exact ⟨u, present, by simp⟩
  obtain ⟨v, found⟩ := there
  rw [getStorageFileDataByName, readerOf, unwrap_some, pure_bind]
  dsimp only
  rw [if_neg (by omega), exec_bind_ok _ (exec_get db), found, bound]
  dsimp only [Option.filter]
  rw [if_pos rfl]
  dsimp only
  rw [if_neg (by simp)]
  exact ⟨_, rfl⟩

namespace SideBySide

/-- SQLite gives a new row an id that is a signed number of 64 bits. -/
def RowIdFits (s : SideBySide) : Prop :=
  Sqlite.nextRowId (s.shared.userFile.map UserFile.id) < 2 ^ 63

theorem keepsOut_create {ownerId : UInt64} {visibility : FileVisibility} {fileData : List UInt8}
    {now : Int64} (same : Same title s) (fits : RowIdFits s)
    (isolated : Isolated title (step sqlite title s
      ⟨now, .create session ownerId filename visibility fileData⟩)) :
    KeepsOut sqlite title s ⟨now, .create session ownerId filename visibility fileData⟩ := by
  intro of admitted
  by_contra foreign
  obtain ⟨info, _, did⟩ := exec_create_admitted visibility { s.shared with now := now } admitted
  obtain ⟨_, _, _, _, _, _, bound⟩ := admits_eq_some admitted
  let row := newRow ⟨ownerId, of.toU32, filename⟩ visibility fileData { s.shared with now := now }
  have free : s.shared.userFile.find? (holds filename of.toU32 ownerId) = none := by
    rw [List.find?_eq_none]
    intro u present hit
    have there : u.title = title.toU32 := (same.titled u present).1
    rw [holds_iff, UserFile.key, FileKey.mk.injEq, there] at hit
    exact foreign (Title.toU32_inj hit.2.1).symm
  have rows : (step sqlite title s
      ⟨now, .create session ownerId filename visibility fileData⟩).shared.userFile
      = s.shared.userFile ++ [row] := by
    rw [step, write, did]
    dsimp only [stored]
    rw [free]
  have id : row.id = (UInt64.ofNat row.id).toNat :=
    (UInt64.toNat_ofNat_of_lt' (Nat.lt_trans fits (by decide))).symm
  have fitting : Sqlite.bindable (UInt64.ofNat row.id) = true := by
    rw [Sqlite.bindable, ← id]
    exact decide_eq_true fits
  have present : row ∈ (step sqlite title s
      ⟨now, .create session ownerId filename visibility fileData⟩).shared.userFile := by
    rw [rows]
    simp
  obtain ⟨file, given⟩ := @byId_found _ title row _ present id bound fitting
  obtain ⟨u, member, named, _, titled⟩ :=
    isolated.fileById _ _ _ file (inTitle_readerOf row.ownerId title) given
  rw [rows] at member
  rcases List.mem_append.mp member with old | new
  next =>
    have smaller := Sqlite.lt_nextRowId (List.mem_map_of_mem (f := UserFile.id) old)
    rw [named, ← id] at smaller
    exact Nat.lt_irrefl _ smaller
  next =>
    rw [List.mem_singleton.mp new] at titled
    exact foreign (Title.toU32_inj titled)

theorem keepsOut_remove {ownerId : UInt64} {now : Int64} (same : Same title s)
    (isolated : Isolated title (step sqlite title s ⟨now, .remove session ownerId filename⟩)) :
    KeepsOut sqlite title s ⟨now, .remove session ownerId filename⟩ := by
  rintro user authenticated elsewhere rfl short runs u member rfl
  have present : u ∈ s.shared.userFile := List.mem_of_mem_filter member
  have foreign : inTitle title session = false := by
    rw [← Bool.not_eq_true, inTitle_iff]
    rintro ⟨other, asks, titled⟩
    obtain rfl := Option.some.inj (authenticated.symm.trans asks)
    exact elsewhere titled
  obtain ⟨data, given⟩ := @byName_found { s.alone with now := now } title u
    (by rw [same.equal]; exact present) short (same.titled u present).2
  have shown := isolated.byName _ u.ownerId u.filename (inTitle_readerOf u.ownerId title)
  have alone : (step sqlite title s ⟨now, .remove session user.userId u.filename⟩).alone
      = { s.alone with now := now } := by
    simp [step, Request.madeBy, foreign]
  rw [alone, given] at shown
  obtain ⟨v, left, _, named, _⟩ := byName_ok shown
  rw [step, write, exec_remove authenticated short, if_pos runs] at left
  exact (mem_withoutName.mp left).2 named

theorem isolated_step_iff (same : Same title s) (fits : RowIdFits s) (call : Call) :
    Isolated title (step sqlite title s call) ↔ KeepsOut sqlite title s call := by
  constructor
  · intro isolated
    obtain ⟨now, request⟩ := call
    cases request with
    | create session ownerId filename visibility fileData => exact keepsOut_create same fits isolated
    | update session ownerId fileId fileData => trivial
    | remove session ownerId filename => exact keepsOut_remove same isolated
  · exact fun out => isolated_of_same (same_step same out)

/--
A title reads what it would read if it had the database for itself, after any
calls, as long as no other title stores a file nor removes a name that the title
uses; and only then, since the reads by id and by name take any title.
-/
theorem isolated_always_iff (sqlite : Sqlite) (title : Title) (calls : List Call) :
    (Meets (step sqlite title) (KeepsOut sqlite title) started calls →
        Always (step sqlite title) (Isolated title) started calls)
      ∧ (Meets (step sqlite title) (fun s _ => RowIdFits s) started calls →
        (Always (step sqlite title) (Isolated title) started calls
          ↔ Meets (step sqlite title) (KeepsOut sqlite title) started calls)) := by
  constructor
  · intro out
    refine Always.imp (fun s same => isolated_of_same same) (always_of_invariant ?_ same_started out)
    exact fun s call same out => same_step same out
  · intro fits
    refine @always_iff_meets_given _ _ (step sqlite title) (Same title) (Isolated title)
      (KeepsOut sqlite title) (fun s _ => RowIdFits s) ?_ ?_ _ _ same_started
      (isolated_of_same same_started) fits
    · exact fun s call same _ _ out => same_step same out
    · exact fun s call same _ fits => isolated_step_iff same fits call

theorem other_title_read :
    (exec (getStorageFileDataById ownerIw5 7 1)
        (run (step ⟨true⟩ .iw5) started (sameName.take 1)).shared).1
        = .ok (.ok ⟨⟨1, "stats", .iw5, 1, 0, 0, .visiblePrivate, 7⟩, [1]⟩)
      ∧ (exec (getStorageFileDataByName ownerIw5 7 "stats")
        (run (step ⟨true⟩ .iw5) started (sameName.take 1)).shared).1 = .ok (.ok [1])
      ∧ ¬Always (step ⟨true⟩ .iw5) (Isolated .iw5) started (sameName.take 1) := by
  refine ⟨by decide, by decide, fun always => ?_⟩
  have alone := always.2.first.byName ownerIw5 7 "stats" rfl
  exact absurd alone (by decide)

-- neither call of the other title gets through
def refusedOther : List Call :=
  [⟨0, .create owner 7 "stats" .visiblePrivate [1]⟩, ⟨1, .remove ownerIw5 7 "stats"⟩,
    ⟨2, .create ownerIw5 8 "stats" .visiblePrivate [2]⟩]

theorem isolated_refused : Always (step ⟨false⟩ .t6Pc) (Isolated .t6Pc) started refusedOther := by
  have all := isolated_always_iff ⟨false⟩ .t6Pc refusedOther
  have fits : Meets (step ⟨false⟩ .t6Pc) (fun s _ => RowIdFits s) started refusedOther := by
    have first : Sqlite.nextRowId [] < 2 ^ 63 := by decide
    have second : Sqlite.nextRowId [1] < 2 ^ 63 := by decide
    exact ⟨first, second, second, trivial⟩
  have out : Meets (step ⟨false⟩ .t6Pc) (KeepsOut ⟨false⟩ .t6Pc) started refusedOther := by
    refine ⟨fun of admitted => (Option.some.inj admitted).symm, fun _ _ _ _ _ accepts => ?_,
      fun of admitted => ?_, trivial⟩
    · cases accepts
    · cases admitted
  exact (all.2 fits).mpr out

end SideBySide

end DwUserStorageService

end BitDemon
