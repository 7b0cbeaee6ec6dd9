import BitDemon.DwServer.CreatedFiles
import BitDemon.DwServer.PublisherFiles
import BitDemon.Library.Focus
import BitDemon.Library.Paths

set_option autoImplicit false

/-!
# The data of a publisher's files

The storage handler looks for an id among the files of the user and then among those
of the publisher. A name is a path below the directory of the title.
-/

namespace BitDemon

open Machine Paths

structure PublisherDisk where
  -- what `fs::read_dir` gives
  storage : PublisherStorage
  -- what `fs::read` finds
  tree : Tree
  workingDirectory : Place

def PublisherDisk.readFile (disk : PublisherDisk) (path : String) : Option (List UInt8) :=
  Paths.read disk.tree disk.workingDirectory path.toList

namespace DwPublisherStorageService

def directoryPath (title : Title) : String := "storage/publisher/" ++ toString title.toU32

def filePath (title : Title) (filename : String) : String := directoryPath title ++ "/" ++ filename

def storageOf : Focus PublisherDisk PublisherStorage where
  get disk := disk.storage
  put storage disk := { disk with storage }
  get_put _ _ := rfl
  put_get _ := rfl

def getPublisherFileData (session : BdSession) (filename : String) :
    Fallible PublisherDisk (Answered (List UInt8)) :=
  if .parentDir ∈ components filename.toList then
    pure (.error .storageFileNotFoundError)
  else do
    let authentication ← unwrap session.authentication
    let disk ← get
    match disk.readFile (filePath authentication.title filename) with
    | some data => pure (.ok data)
    | none => pure (.error .storageFileNotFoundError)

-- a name that is no UTF-8 is passed over
def hasId (id : UInt64) (entry : DirEntry) : Bool :=
  entry.fileName.any fun name => fileId name == id

def getPublisherFileDataById (session : BdSession) (id : UInt64) :
    Fallible PublisherDisk (Answered StorageFile) := do
  let authentication ← unwrap session.authentication
  let disk ← get
  let dir := disk.storage.directory authentication.title
  match dir.bind fun dir => (dir.filterMap fun entry => entry).find? (hasId id) with
  | none => pure (.error .storageFileNotFoundError)
  | some entry =>
    match entry.fileName.bind fun name => disk.readFile (filePath authentication.title name) with
    | none => pure (.error .storageFileNotFoundError)
    | some data => do
      let info ← storageOf.within (mapInfoInfo authentication.title entry)
      pure (.ok { info, data })

end DwPublisherStorageService

structure StorageWorld where
  db : StorageDb
  disk : PublisherDisk

namespace StorageWorld

open DwPublisherStorageService

def userFiles : Focus StorageWorld StorageDb where
  get world := world.db
  put db world := { world with db }
  get_put _ _ := rfl
  put_get _ := rfl

def publisherFiles : Focus StorageWorld PublisherDisk where
  get world := world.disk
  put disk world := { world with disk }
  get_put _ _ := rfl
  put_get _ := rfl

def userStorageService : UserStorageService StorageWorld :=
  let service := DwUserStorageService.service
  { getStorageFileDataById := fun session ownerId fileId =>
      userFiles.within (service.getStorageFileDataById session ownerId fileId)
    listStorageFiles := fun session ownerId page =>
      userFiles.within (service.listStorageFiles session ownerId page)
    filterStorageFiles := fun session ownerId page filter =>
      userFiles.within (service.filterStorageFiles session ownerId page filter)
    createStorageFile := fun session ownerId filename visibility fileData =>
      userFiles.within (service.createStorageFile session ownerId filename visibility fileData)
    updateStorageFileData := fun session ownerId fileId fileData =>
      userFiles.within (service.updateStorageFileData session ownerId fileId fileData) }

def publisherStorageService : PublisherStorageService StorageWorld :=
  { getPublisherFileDataById := fun session fileId =>
      publisherFiles.within (getPublisherFileDataById session fileId)
    listPublisherFiles := fun session page =>
      publisherFiles.within (storageOf.within (listPublisherFiles session page))
    filterPublisherFiles := fun session page filter =>
      publisherFiles.within (storageOf.within (filterPublisherFiles session page filter)) }

-- `create_storage_handler`
def handler : StorageHandler StorageWorld :=
  { storageService := userStorageService, publisherStorageService }

end StorageWorld

namespace DwPublisherStorageService

variable {disk : PublisherDisk} {session : BdSession} {user : SessionAuthentication} {title : Title}
  {filename : String} {data : List UInt8}

def shelf (disk : PublisherDisk) (title : Title) : Place :=
  disk.workingDirectory ++ ["storage".toList, "publisher".toList, (toString title.toU32).toList]

structure ReadsBelow (disk : PublisherDisk) (session : BdSession) (title : Title) : Prop where
  inside : ∀ filename data,
    (exec (getPublisherFileData session filename) disk).1 = .ok (.ok data) →
    ∃ names, names ≠ [] ∧ (∀ name ∈ names, Plain name)
      ∧ resolve disk.tree disk.workingDirectory (filePath title filename).toList
        = some (shelf disk title ++ names)
      ∧ disk.tree.node (shelf disk title ++ names) = some (.file data)
  reached : ∀ names data, names ≠ [] →
    disk.tree.node (shelf disk title ++ names) = some (.file data) →
    (exec (getPublisherFileData session (String.ofList (['/'].intercalate names))) disk).1
      = .ok (.ok data)

theorem plain_title (title : Title) : '/' ∉ (toString title.toU32).toList
    ∧ '\x00' ∉ (toString title.toU32).toList ∧ idle (toString title.toU32).toList = false := by
  cases title <;> decide

theorem toList_directoryPath (title : Title) :
    (directoryPath title).toList
      = "storage".toList ++ '/' :: ("publisher".toList ++ '/' :: (toString title.toU32).toList) := by
  have start : "storage/publisher/".toList
      = "storage".toList ++ '/' :: ("publisher".toList ++ ['/']) := by decide
  calc (directoryPath title).toList
      = "storage/publisher/".toList ++ (toString title.toU32).toList := String.toList_append
    _ = ("storage".toList ++ '/' :: ("publisher".toList ++ ['/'])) ++ (toString title.toU32).toList :=
      congrArg (· ++ _) start
    _ = _ := by simp only [List.append_assoc, List.cons_append, List.nil_append]

theorem toList_filePath (title : Title) (filename : String) :
    (filePath title filename).toList = (directoryPath title).toList ++ '/' :: filename.toList := by
  rw [filePath, String.toList_append, String.toList_append, List.append_assoc]
  rfl

theorem names_filePath (title : Title) (filename : String) :
    names (filePath title filename).toList
      = ["storage".toList, "publisher".toList, (toString title.toU32).toList]
        ++ names filename.toList := by
  have single (name : Name) (single : '/' ∉ name) : names name = [name] :=
    List.splitOn_eq_singleton single
  rw [toList_filePath, names_append, toList_directoryPath, names_append, names_append,
    single _ (by decide), single _ (by decide), single _ (plain_title title).1]
  rfl

theorem resolve_filePath (disk : PublisherDisk) (title : Title) (filename : String) :
    resolve disk.tree disk.workingDirectory (filePath title filename).toList
      = if '\x00' ∈ filename.toList then none
        else walk disk.tree disk.workingDirectory
          (["storage".toList, "publisher".toList, (toString title.toU32).toList]
            ++ names filename.toList) := by
  have first : (filePath title filename).toList.head? = some 's' := by
    rw [toList_filePath, toList_directoryPath]
    rfl
  have filled : (filePath title filename).toList ≠ [] := by
    intro empty
    rw [empty] at first
    cases first
  have zero : '\x00' ∈ (filePath title filename).toList ↔ '\x00' ∈ filename.toList := by
    have digits := (plain_title title).2.1
    rw [toList_filePath, toList_directoryPath]
    simp [digits]
  rw [resolve, first, if_neg (by decide : ¬some 's' = some '/'), names_filePath]
  exact if_congr ((or_iff_right filled).trans zero) rfl rfl

theorem walk_filePath {there : Place}
    (resolved : resolve disk.tree disk.workingDirectory (filePath title filename).toList = some there) :
    walk disk.tree (shelf disk title) (names filename.toList) = some there := by
  rw [resolve_filePath] at resolved
  split at resolved
  next => cases resolved
  next =>
    rw [walk_append] at resolved
    obtain ⟨next, led, walked⟩ := Option.bind_eq_some_iff.mp resolved
    have apart : ['.', '.'] ∉ ["storage".toList, "publisher".toList, (toString title.toU32).toList] := by
      cases title <;> decide
    have here := walk_down apart led
    have busy : ∀ name ∈ ["storage".toList, "publisher".toList, (toString title.toU32).toList],
        (!idle name) = true := by
      cases title <;> decide
    rw [List.filter_eq_self.mpr busy] at here
    rw [shelf, ← here]
    exact walked

theorem getPublisherFileData_ok_iff (authenticated : session.authentication = some user) :
    (exec (getPublisherFileData session filename) disk).1 = .ok (.ok data)
      ↔ ['.', '.'] ∉ names filename.toList
        ∧ disk.readFile (filePath user.title filename) = some data := by
  rw [getPublisherFileData, ← parentDir_mem_iff]
  split
  next up => simp [up]
  next down =>
    rw [authenticated, unwrap_some, pure_bind, exec_bind_ok _ (exec_get disk)]
    cases found : disk.readFile (filePath user.title filename) with
    | none => simp [down]
    | some bytes => simp [down]

/--
Whatever a user names, only files below the publisher's directory of the user's title
are read; and each of them can be named.
-/
theorem reads_below (disk : PublisherDisk) (session : BdSession) (user : SessionAuthentication)
    (authenticated : session.authentication = some user) : ReadsBelow disk session user.title := by
  constructor
  · intro filename data served
    obtain ⟨down, found⟩ := (getPublisherFileData_ok_iff authenticated).mp served
    obtain ⟨there, resolved, held⟩ := read_eq_some_iff.mp found
    have walked := walk_filePath resolved
    have place := walk_down down walked
    rw [place] at held resolved
    refine ⟨_, fun empty => ?_, disk.tree.plain_below (by rw [held]; rfl), resolved, held⟩
    -- a walk from the directory needs it to be one
    obtain ⟨name, rest, split⟩ := List.exists_cons_of_ne_nil (names_ne_nil filename.toList)
    rw [split] at walked
    rw [empty, List.append_nil, directory_of_walk walked] at held
    cases held
  · intro parts data filled held
    have there : (disk.tree.node (shelf disk user.title ++ parts)).isSome = true := by rw [held]; rfl
    have plain := disk.tree.plain_below there
    have text : '\x00' ∉ ['/'].intercalate parts :=
      not_mem_joined (by decide) fun name member => (plain name member).text
    have split : names (['/'].intercalate parts) = parts :=
      names_joined (fun name member => (plain name member).single) filled
    refine (getPublisherFileData_ok_iff authenticated).mpr ⟨?_, read_eq_some_iff.mpr ⟨_, ?_, held⟩⟩
    · rw [String.toList_ofList, split]
      exact fun up => (plain _ up).notUp rfl
    · rw [resolve_filePath, String.toList_ofList, if_neg text, split]
      rw [shelf, List.append_assoc] at there ⊢
      exact walk_to there

def mapDisk : PublisherDisk where
  storage := ⟨fun _ => none⟩
  tree := Tree.single
    ["storage".toList, "publisher".toList, "18397".toList, "maps".toList, "one".toList] (by decide) [1]
  workingDirectory := []

theorem reads_below_map :
    (exec (getPublisherFileData player "maps/one") mapDisk).1 = .ok (.ok [1]) := by
  have named : String.ofList (['/'].intercalate ["maps".toList, "one".toList]) = "maps/one" := by
    decide
  rw [← named]
  exact (reads_below mapDisk player ⟨7, "player", [], .t6Pc⟩ rfl).reached _ _
    (List.cons_ne_nil _ _) (by decide)

theorem le_fileId (filename : String) : 2 ^ 63 ≤ (fileId filename).toNat := by
  rw [fileId, UInt64.toNat_or]
  exact Nat.right_le_or

theorem find_entry (disk : PublisherDisk) (title : Title) (chosen : DirEntry → Bool) :
    ((disk.storage.directory title).bind fun dir => (dir.filterMap fun entry => entry).find? chosen)
      = (entriesOf disk.storage title).find? chosen := by
  rw [entriesOf]
  cases disk.storage.directory title <;> rfl

theorem name_of_hasId {id : UInt64} {entry : DirEntry} (has : hasId id entry = true) :
    ∃ name, entry.fileName = some name ∧ fileId name = id := by
  rw [hasId] at has
  cases named : entry.fileName with
  | none =>
    rw [named] at has
    cases has
  | some name =>
    rw [named, Option.any_some] at has
    exact ⟨name, rfl, beq_iff_eq.mp has⟩

theorem infoOf_name {entry : DirEntry} {info : StorageFileInfo} (known : infoOf title entry = some info) :
    entry.fileName = some info.filename ∧ info.id = fileId info.filename := by
  obtain ⟨metadata, there, known⟩ := Option.bind_eq_some_iff.mp known
  obtain ⟨filename, named, known⟩ := Option.bind_eq_some_iff.mp known
  obtain ⟨created, born, known⟩ := Option.bind_eq_some_iff.mp known
  obtain ⟨modified, changed, known⟩ := Option.bind_eq_some_iff.mp known
  obtain rfl := Option.some.inj known
  exact ⟨named, rfl⟩

theorem exec_getPublisherFileDataById (authenticated : session.authentication = some user)
    {id : UInt64} {entry : DirEntry} {info : StorageFileInfo}
    (found : (entriesOf disk.storage user.title).find? (hasId id) = some entry)
    (known : infoOf user.title entry = some info)
    (held : disk.readFile (filePath user.title info.filename) = some data) :
    exec (getPublisherFileDataById session id) disk = (.ok (.ok { info, data }), disk) := by
  rw [getPublisherFileDataById, authenticated, unwrap_some, pure_bind, exec_bind_ok _ (exec_get disk)]
  dsimp only
  rw [find_entry, found]
  dsimp only
  rw [(infoOf_name known).1, Option.bind_some, held]
  dsimp only
  rw [exec_bind_ok _ (Focus.exec_within_eq (exec_mapInfoInfo known disk.storage))]
  rfl

theorem getPublisherFileDataById_ok (authenticated : session.authentication = some user)
    {id : UInt64} {file : StorageFile}
    (served : (exec (getPublisherFileDataById session id) disk).1 = .ok (.ok file)) :
    ∃ entry ∈ entriesOf disk.storage user.title, infoOf user.title entry = some file.info
      ∧ file.info.id = id ∧ disk.readFile (filePath user.title file.info.filename) = some file.data := by
  rw [getPublisherFileDataById, authenticated, unwrap_some, pure_bind, exec_bind_ok _ (exec_get disk)]
    at served
  dsimp only at served
  rw [find_entry] at served
  split at served
  next => cases served
  next entry found =>
    obtain ⟨name, named, same⟩ := name_of_hasId (List.find?_some found)
    split at served
    next => cases served
    next data held =>
      obtain ⟨info, _, mapped, given⟩ := ok_of_bind served
      have known := known_of_mapInfoInfo (congrArg Prod.fst mapped)
      obtain ⟨told, known⟩ := Option.isSome_iff_exists.mp known
      rw [Focus.exec_within_eq (exec_mapInfoInfo known disk.storage)] at mapped
      cases mapped
      cases given
      rw [named, Option.bind_some] at held
      have alike := infoOf_name known
      obtain rfl := Option.some.inj (named.symm.trans alike.1)
      exact ⟨entry, List.mem_of_find?_eq_some found, known, alike.2.trans same, held⟩

theorem getPublisherFileDataById_none {id : UInt64} (early : id.toNat < 2 ^ 63)
    (authenticated : session.authentication = some user) :
    exec (getPublisherFileDataById session id) disk
      = (.ok (.error .storageFileNotFoundError), disk) := by
  have nobody : (entriesOf disk.storage user.title).find? (hasId id) = none := by
    refine List.find?_eq_none.mpr fun entry _ has => ?_
    obtain ⟨name, _, same⟩ := name_of_hasId has
    have late := le_fileId name
    rw [same] at late
    exact absurd early (Nat.not_lt.mpr late)
  rw [getPublisherFileDataById, authenticated, unwrap_some, pure_bind, exec_bind_ok _ (exec_get disk)]
  dsimp only
  rw [find_entry, nobody]
  rfl

theorem mem_of_collect {filter : Option String} {minDateTime : Int64} {itemOffset itemCount : Nat}
    {entries : List DirEntry} {storage : PublisherStorage} {infos : List StorageFileInfo}
    (told : (exec (collect title filter minDateTime itemOffset itemCount entries) storage).1
      = .ok infos) : ∀ info ∈ infos, ∃ entry ∈ entries, infoOf title entry = some info := by
  induction entries generalizing itemOffset itemCount infos with
  | nil =>
    intro info member
    cases itemCount <;> (cases told; cases member)
  | cons entry entries ih =>
    have later {infos : List StorageFileInfo} {itemOffset itemCount : Nat}
        (told : (exec (collect title filter minDateTime itemOffset itemCount entries) storage).1
          = .ok infos) : ∀ info ∈ infos, ∃ other ∈ entry :: entries, infoOf title other = some info := by
      intro info member
      obtain ⟨other, present, known⟩ := ih told info member
      exact ⟨other, List.mem_cons_of_mem _ present, known⟩
    cases itemCount with
    | zero =>
      cases told
      simp
    | succ itemCount =>
      rw [collect.eq_def] at told
      dsimp only at told
      obtain ⟨_, _, selected, _⟩ := ok_of_bind told
      have named := named_of_selects (congrArg Prod.fst selected)
      rw [exec_bind_ok _ (exec_selects named storage)] at told
      split at told
      next =>
        cases itemOffset with
        | succ itemOffset => exact later told
        | zero =>
          dsimp only at told
          obtain ⟨_, _, mapped, _⟩ := ok_of_bind told
          obtain ⟨info, known⟩ :=
            Option.isSome_iff_exists.mp (known_of_mapInfoInfo (congrArg Prod.fst mapped))
          rw [exec_bind_ok _ (exec_mapInfoInfo known storage)] at told
          split at told
          next =>
            obtain ⟨rest, _, did, given⟩ := ok_of_bind told
            obtain rfl := Except.ok.inj given
            refine List.forall_mem_cons.mpr ⟨⟨entry, List.mem_cons_self, known⟩, ?_⟩
            exact later (congrArg Prod.fst did)
          next => exact later told
      next => exact later told

theorem mem_of_request {filter : Option String} {page : FilePage} {storage : PublisherStorage}
    {infos : List StorageFileInfo} (authenticated : session.authentication = some user)
    (told : (exec (request session filter page) storage).1 = .ok (.ok infos)) :
    ∀ info ∈ infos, ∃ entry ∈ entriesOf storage user.title, infoOf user.title entry = some info := by
  rw [request_eq, readPublisherFiles, authenticated, unwrap_some, pure_bind,
    exec_bind_ok _ (exec_get storage)] at told
  cases there : storage.directory user.title with
  | none =>
    rw [there] at told
    cases told
    intro info member
    cases member
  | some dir =>
    rw [there] at told
    dsimp only at told
    rw [entriesOf_some there]
    obtain ⟨given, _, collected, told⟩ := ok_of_bind told
    split at told
    next => cases told
    next =>
      cases told
      exact mem_of_collect (congrArg Prod.fst collected)

end DwPublisherStorageService

namespace StorageWorld

open DwPublisherStorageService
open DwUserStorageService (Unique Call Served serve saved unique_new unique_serve forall_write
  admits_eq_some)

-- the title is that of the session
def ownFile (user : SessionAuthentication) (row : UserFile) : StorageFile :=
  { info :=
      { id := UInt64.ofNat row.id, filename := row.filename, title := user.title
        fileSize := UInt64.ofNat row.data.length, created := row.createdAt, modified := row.modifiedAt
        visibility := toFileVisibility row.visibility, ownerId := user.userId }
    data := row.data }

structure FetchesById (world : StorageWorld) (session : BdSession) (user : SessionAuthentication) :
    Prop where
  own : ∀ row ∈ world.db.userFile, row.ownerId = user.userId → row.id < 2 ^ 63 →
    exec (handler.findFile session user.userId (UInt64.ofNat row.id)) world
      = (.ok (.ok (ownFile user row)), world)
  -- unless another name in the directory has the same id
  published : ∀ filter page infos,
    (exec (request session filter page) world.disk.storage).1 = .ok (.ok infos) →
    ∀ info ∈ infos, ∀ data,
      world.disk.readFile (filePath user.title info.filename) = some data →
      (∀ entry ∈ entriesOf world.disk.storage user.title, hasId info.id entry = true →
        infoOf user.title entry = some info) →
      exec (handler.findFile session user.userId info.id) world = (.ok (.ok { info, data }), world)
  either : ∀ fileId file, (exec (handler.findFile session user.userId fileId) world).1
      = .ok (.ok file) →
    (fileId.toNat < 2 ^ 63 ∧ ∃ row ∈ world.db.userFile, row.ownerId = user.userId
        ∧ row.id = fileId.toNat ∧ file = ownFile user row)
      ∨ (2 ^ 63 ≤ fileId.toNat ∧ ∃ entry ∈ entriesOf world.disk.storage user.title,
        infoOf user.title entry = some file.info ∧ file.info.id = fileId
          ∧ world.disk.readFile (filePath user.title file.info.filename) = some file.data)

variable {world : StorageWorld} {session : BdSession} {user : SessionAuthentication}
  {fileId : UInt64}

theorem find_row {db : StorageDb} (unique : Unique db) {row : UserFile} (present : row ∈ db.userFile) :
    (db.userFile.find? fun u => u.id == row.id && u.ownerId == row.ownerId) = some row := by
  have some : (db.userFile.find? fun u => u.id == row.id && u.ownerId == row.ownerId).isSome = true :=
    List.find?_isSome.mpr ⟨row, present, by simp⟩
  obtain ⟨other, found⟩ := Option.isSome_iff_exists.mp some
  have chosen := List.find?_some found
  simp only [Bool.and_eq_true, beq_iff_eq] at chosen
  have one : other = row :=
    List.inj_on_of_nodup_map unique.ids (List.mem_of_find?_eq_some found) present chosen.1
  rw [found, one]

theorem getStorageFileDataById_eq (authenticated : session.authentication = some user)
    (fileId : UInt64) (db : StorageDb) :
    exec (DwUserStorageService.getStorageFileDataById session user.userId fileId) db
      = (match (db.userFile.find? fun u => u.id == fileId.toNat && u.ownerId == user.userId).filter
            fun _ => Sqlite.bindable fileId && Sqlite.bindable user.userId with
          | none => .ok (.error .storageFileNotFoundError)
          | some row => .ok (.ok (ownFile user row)), db) := by
  rw [DwUserStorageService.getStorageFileDataById, authenticated, unwrap_some, pure_bind,
    if_neg (not_not.mpr rfl), exec_bind_ok _ (exec_get db)]
  dsimp only
  cases found : (db.userFile.find? fun u => u.id == fileId.toNat && u.ownerId == user.userId).filter
      fun _ => Sqlite.bindable fileId && Sqlite.bindable user.userId with
  | none => rfl
  | some row =>
    have there := List.find?_some (Option.filter_eq_some_iff.mp found).1
    have same : row.id = fileId.toNat := by
      simp only [Bool.and_eq_true, beq_iff_eq] at there
      exact there.1
    have id : fileId = UInt64.ofNat row.id := by rw [same, UInt64.ofNat_toNat]
    rw [id]
    rfl

theorem getStorageFileDataById_late (authenticated : session.authentication = some user)
    (late : 2 ^ 63 ≤ fileId.toNat) (db : StorageDb) :
    exec (DwUserStorageService.getStorageFileDataById session user.userId fileId) db
      = (.ok (.error .storageFileNotFoundError), db) := by
  have unbound : Sqlite.bindable fileId = false := decide_eq_false (Nat.not_lt.mpr late)
  rw [getStorageFileDataById_eq authenticated, unbound, Bool.false_and]
  cases db.userFile.find? fun u => u.id == fileId.toNat && u.ownerId == user.userId <;> rfl

theorem findFile_missing {error : StorageServiceError}
    (ran : exec (DwUserStorageService.getStorageFileDataById session user.userId fileId) world.db
      = (.ok (.error error), world.db)) :
    exec (handler.findFile session user.userId fileId) world
      = ((exec (getPublisherFileDataById session fileId) world.disk).1,
        publisherFiles.put (exec (getPublisherFileDataById session fileId) world.disk).2 world) := by
  rw [StorageHandler.findFile]
  refine (exec_bind_ok _ (Focus.exec_within_eq ran)).trans ?_
  rfl

theorem findFile_own {file : StorageFile}
    (ran : exec (DwUserStorageService.getStorageFileDataById session user.userId fileId) world.db
      = (.ok (.ok file), world.db)) :
    exec (handler.findFile session user.userId fileId) world = (.ok (.ok file), world) := by
  rw [StorageHandler.findFile]
  refine (exec_bind_ok _ (Focus.exec_within_eq ran)).trans ?_
  rfl

-- the statement that stored a row bound its owner
def Bound (db : StorageDb) : Prop := ∀ row ∈ db.userFile, Sqlite.bindable row.key.ownerId = true

theorem bound_serve (sqlite : Sqlite) (db : StorageDb) (call : Call) (bound : Bound db) :
    Bound (serve sqlite db call) := by
  refine @forall_write sqlite { db with now := call.now }
    (fun key => Sqlite.bindable key.ownerId = true) call.request bound ?_
  intro session ownerId filename visibility fileData title _ admitted
  obtain ⟨_, _, _, _, _, _, fits⟩ := admits_eq_some admitted
  exact fits

theorem fetchesById (unique : Unique world.db) (bounds : Bound world.db)
    (authenticated : session.authentication = some user) : FetchesById world session user := by
  constructor
  · intro row present owned signed
    have bindable : Sqlite.bindable user.userId = true := owned ▸ bounds row present
    have same : (UInt64.ofNat row.id).toNat = row.id := by
      rw [UInt64.toNat_ofNat']
      exact Nat.mod_eq_of_lt (by omega)
    have bound : Sqlite.bindable (UInt64.ofNat row.id) = true := by
      rw [Sqlite.bindable, same]
      exact decide_eq_true signed
    refine findFile_own ?_
    rw [getStorageFileDataById_eq authenticated, same, ← owned, find_row unique present,
      Option.filter_some, bound, owned, bindable]
    rfl
  · intro filter page infos shown info member data held alone
    obtain ⟨entry, present, known⟩ := mem_of_request authenticated shown info member
    obtain ⟨named, same⟩ := infoOf_name known
    have has : hasId info.id entry = true := by simp [hasId, named, same]
    obtain ⟨first, found⟩ := Option.isSome_iff_exists.mp
      (List.find?_isSome.mpr ⟨entry, present, has⟩)
    have known := alone first (List.mem_of_find?_eq_some found) (List.find?_some found)
    have late : 2 ^ 63 ≤ info.id.toNat := by
      rw [same]
      exact le_fileId info.filename
    rw [findFile_missing (getStorageFileDataById_late authenticated late world.db),
      exec_getPublisherFileDataById authenticated found known held]
    rfl
  · intro fileId file served
    by_cases late : 2 ^ 63 ≤ fileId.toNat
    next =>
      rw [findFile_missing (getStorageFileDataById_late authenticated late world.db)] at served
      exact .inr ⟨late, getPublisherFileDataById_ok authenticated served⟩
    next =>
      have early := Nat.not_le.mp late
      have ran := getStorageFileDataById_eq authenticated fileId world.db
      split at ran
      next =>
        rw [findFile_missing ran, getPublisherFileDataById_none early authenticated] at served
        cases served
      next row found =>
        rw [findFile_own ran] at served
        cases served
        have there := List.find?_some (Option.filter_eq_some_iff.mp found).1
        simp only [Bool.and_eq_true, beq_iff_eq] at there
        exact .inl ⟨early, row, List.mem_of_find?_eq_some (Option.filter_eq_some_iff.mp found).1,
          there.2, there.1, rfl⟩

/--
In whatever way users have stored files: who asks for their own file by its id, or for
one that a listing of the publisher's has shown, gets it; and no id brings another file.
-/
theorem fetches_by_id (sqlite : Sqlite) (calls : List Call) (disk : PublisherDisk)
    (session : BdSession) (user : SessionAuthentication)
    (authenticated : session.authentication = some user) :
    FetchesById ⟨Runs.run (serve sqlite) Served.new.db calls, disk⟩ session user := by
  have bound : Bound Served.new.db := fun row none => absurd none List.not_mem_nil
  exact fetchesById (Runs.run_keeps (unique_serve sqlite) unique_new)
    (Runs.run_keeps (bound_serve sqlite) bound) authenticated

def patchDisk : PublisherDisk where
  storage := ⟨fun _ => some [dated "patch" 5]⟩
  tree := Tree.single ["storage".toList, "publisher".toList, "18397".toList, "patch".toList]
    (by decide) [1, 2]
  workingDirectory := []

theorem fetches_by_id_patch :
    exec (handler.findFile player 7 (DwPublisherStorageService.fileId "patch"))
        ⟨Runs.run (serve ⟨false⟩) Served.new.db [saved 100 [1]], patchDisk⟩
      = (.ok (.ok { info := datedInfo "patch" 5, data := [1, 2] }),
        ⟨Runs.run (serve ⟨false⟩) Served.new.db [saved 100 [1]], patchDisk⟩) := by
  refine (fetches_by_id ⟨false⟩ [saved 100 [1]] patchDisk player ⟨7, "player", [], .t6Pc⟩ rfl).published
    none ⟨0, 0, 10⟩ [datedInfo "patch" 5] (by decide) _ (List.mem_singleton.mpr rfl) [1, 2]
    (by decide) fun entry member _ => ?_
  obtain rfl := List.mem_singleton.mp member
  rfl

end StorageWorld

end BitDemon
