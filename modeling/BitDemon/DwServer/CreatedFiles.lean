import BitDemon.DwServer.TitleFiles
import BitDemon.Library.Rows

set_option autoImplicit false

/-!
# What the creation of a file reports

The reply to a creation is built from the request. Over an existing file the
row keeps more of what it was than the reply says.
-/

namespace BitDemon

open Machine Runs

namespace DwUserStorageService

-- every file there is, on one page
def wholePage : FilePage := ⟨Int64.minValue, 0, 2 ^ 63⟩

structure Unique (db : StorageDb) : Prop where
  ids : Rows.Distinct UserFile.id db.userFile
  keys : Rows.Distinct UserFile.key db.userFile

structure Reported (reply : StorageFileInfo) (db : StorageDb) : Prop where
  listed : ∀ (reader : BdSession) (user : SessionAuthentication),
    reader.authentication = some user → user.userId = reply.ownerId → user.title = reply.title →
    ∃ infos, (exec (listStorageFiles reader reply.ownerId wholePage) db).1 = .ok (.ok infos)
      ∧ reply ∈ infos
  -- the ids of SQLite are signed numbers of 64 bits
  only : (∀ u ∈ db.userFile, u.id < 2 ^ 63) →
    ∀ (reader : BdSession) (user : SessionAuthentication) (page : FilePage)
      (infos : List StorageFileInfo),
    reader.authentication = some user → user.title = reply.title →
    (exec (listStorageFiles reader reply.ownerId page) db).1 = .ok (.ok infos) →
    ∀ info ∈ infos, info.id = reply.id → info = reply

def serve (sqlite : Sqlite) (db : StorageDb) (call : Call) : StorageDb :=
  write sqlite { db with now := call.now } call.request

structure CreatesAsStored (sqlite : Sqlite) (db : StorageDb) (call : Call) : Prop where
  keepsId : ∀ session ownerId filename visibility fileData reply,
    call.request = .create session ownerId filename visibility fileData →
    (exec (createStorageFile session ownerId filename visibility fileData)
      { db with now := call.now }).1 = .ok (.ok reply) →
    ∀ u ∈ db.userFile, u.key = ⟨ownerId, reply.title.toU32, filename⟩ →
      reply.id = UInt64.ofNat u.id
        ∧ ∃ v ∈ (serve sqlite db call).userFile, v.key = u.key ∧ v.id = u.id
  reported : ∀ session ownerId filename visibility fileData reply,
    call.request = .create session ownerId filename visibility fileData →
    (exec (createStorageFile session ownerId filename visibility fileData)
      { db with now := call.now }).1 = .ok (.ok reply) →
    Reported reply (serve sqlite db call)

def AgreesWithRow (db : StorageDb) (call : Call) : Prop :=
  match call.request with
  | .create session ownerId filename visibility fileData =>
    ∀ title, admits session ownerId filename fileData = some title →
      ∀ row ∈ db.userFile, row.key = ⟨ownerId, title.toU32, filename⟩ →
        row.createdAt = call.now ∧ toFileVisibility row.visibility = visibility
  | _ => True

variable {sqlite : Sqlite} {db : StorageDb} {session : BdSession} {ownerId : UInt64}
  {filename : String} {fileData : List UInt8} {title : Title} {key : FileKey}
  {visibility : FileVisibility}

theorem holder_mem (key : FileKey) (visibility : FileVisibility) (fileData : List UInt8)
    (db : StorageDb) :
    holder key visibility fileData db ∈ stored key visibility fileData db
      ∧ (holder key visibility fileData db).key = key
      ∧ (holder key visibility fileData db).data = fileData
      ∧ (holder key visibility fileData db).modifiedAt = db.now := by
  rw [holder, stored]
  cases found : db.userFile.find? (holds key.filename key.titleNum key.ownerId) with
  | some existing =>
    have named : existing.key = key := holds_iff.mp (List.find?_some found)
    refine ⟨?_, named, rfl, rfl⟩
    exact List.mem_map.mpr ⟨existing, List.mem_of_find?_eq_some found, if_pos rfl⟩
  | none =>
    exact ⟨List.mem_append_right _ (List.mem_singleton.mpr rfl), rfl, rfl, rfl⟩

theorem holder_existing (unique : Unique db) {row : UserFile} (present : row ∈ db.userFile)
    (same : row.key = key) (visibility : FileVisibility) (fileData : List UInt8) :
    holder key visibility fileData db = { row with data := fileData, modifiedAt := db.now } := by
  rw [holder]
  cases found : db.userFile.find? (holds key.filename key.titleNum key.ownerId) with
  | some existing =>
    have named := holds_iff.mp (List.find?_some found)
    have one : existing = row := List.inj_on_of_nodup_map unique.keys
      (List.mem_of_find?_eq_some found) present (named.trans same.symm)
    rw [one]
  | none => exact absurd (holds_iff.mpr same) (List.find?_eq_none.mp found row present)

theorem holder_new (absent : ∀ row ∈ db.userFile, row.key ≠ key) (visibility : FileVisibility)
    (fileData : List UInt8) :
    holder key visibility fileData db = newRow key visibility fileData db := by
  rw [holder]
  cases found : db.userFile.find? (holds key.filename key.titleNum key.ownerId) with
  | some existing =>
    exact absurd (holds_iff.mp (List.find?_some found)) (absent _ (List.mem_of_find?_eq_some found))
  | none => rfl

theorem map_setData {α : Type} (column : UserFile → α) (rows : List UserFile) (id : Nat)
    (data : List UInt8) (now : Int64)
    (kept : ∀ u : UserFile, column { u with data := data, modifiedAt := now } = column u) :
    (setData rows id data now).map column = rows.map column := by
  rw [setData, List.map_map]
  refine List.map_congr_left fun u _ => ?_
  dsimp only [Function.comp]
  split
  next => exact kept u
  next => rfl

theorem unique_setData (unique : Unique db) (id : Nat) (data : List UInt8) (now : Int64) :
    Unique { db with userFile := setData db.userFile id data now } := by
  constructor
  · rw [Rows.Distinct, map_setData _ _ _ _ _ fun _ => rfl]
    exact unique.ids
  · rw [Rows.Distinct, map_setData _ _ _ _ _ fun _ => rfl]
    exact unique.keys

theorem unique_stored (unique : Unique db) (key : FileKey) (visibility : FileVisibility)
    (fileData : List UInt8) :
    Unique { db with userFile := stored key visibility fileData db } := by
  rw [stored]
  cases found : db.userFile.find? (holds key.filename key.titleNum key.ownerId) with
  | some existing => exact unique_setData unique existing.id fileData db.now
  | none =>
    constructor
    · refine Rows.distinct_append unique.ids fun old present => Nat.ne_of_lt ?_
      exact Sqlite.lt_nextRowId (List.mem_map_of_mem present)
    · refine Rows.distinct_append unique.keys fun old present same => ?_
      exact List.find?_eq_none.mp found old present (holds_iff.mpr same)

theorem unique_write (sqlite : Sqlite) (unique : Unique db) (request : Request) :
    Unique (write sqlite db request) := by
  cases request with
  | create session ownerId filename visibility fileData =>
    rw [write]
    cases admitted : admits session ownerId filename fileData with
    | none =>
      rw [(exec_create_refused visibility db admitted).1]
      exact unique
    | some title =>
      rw [exec_create visibility db admitted]
      exact unique_stored unique _ visibility fileData
  | update session ownerId fileId fileData =>
    rw [write]
    rcases update_cases session ownerId fileId fileData db with did | same
    next =>
      rw [did]
      exact unique_setData unique _ fileData db.now
    next =>
      rw [same]
      exact unique
  | remove session ownerId filename =>
    rw [write]
    rcases remove_cases sqlite session ownerId filename db with ⟨_, _, _, _, _, did⟩ | same
    next =>
      rw [did]
      have part : List.Sublist (withoutName filename db.userFile) db.userFile := List.filter_sublist
      exact ⟨unique.ids.sublist (part.map _), unique.keys.sublist (part.map _)⟩
    next =>
      rw [same]
      exact unique

theorem unique_serve (sqlite : Sqlite) (db : StorageDb) (call : Call) (unique : Unique db) :
    Unique (serve sqlite db call) :=
  @unique_write { db with now := call.now } sqlite ⟨unique.ids, unique.keys⟩ call.request

theorem unique_new : Unique Served.new.db := ⟨List.nodup_nil, List.nodup_nil⟩

theorem exec_list_owner {reader : BdSession} {user : SessionAuthentication} (page : FilePage)
    (db : StorageDb) (authenticated : reader.authentication = some user)
    (bound : Sqlite.bindable user.userId = true) :
    exec (listStorageFiles reader user.userId page) db
      = (.ok (.ok ((Sqlite.limit page.itemCount (Sqlite.offset page.itemOffset
          (listed user.userId user.title.toU32 page.minDateTime (listPattern none) anyVisibility
            db.userFile))).map (fileInfo user.title user.userId))), db) := by
  rw [listStorageFiles, exec_list page none db authenticated bound, if_pos rfl]

theorem listed_whole {row : UserFile} {rows : List UserFile} {user : SessionAuthentication} :
    row ∈ Sqlite.limit wholePage.itemCount (Sqlite.offset wholePage.itemOffset
        (listed user.userId user.title.toU32 wholePage.minDateTime (listPattern none) anyVisibility
          rows))
      ↔ row ∈ rows ∧ row.ownerId = user.userId ∧ row.title = user.title.toU32 := by
  have matched : Sqlite.like (listPattern none) row.filename.toList = true :=
    Sqlite.like_everything _
  have since : wholePage.minDateTime ≤ row.createdAt := Int64.minValue_le _
  have whole : Sqlite.limit wholePage.itemCount (Sqlite.offset wholePage.itemOffset
        (listed user.userId user.title.toU32 wholePage.minDateTime (listPattern none) anyVisibility
          rows))
      = listed user.userId user.title.toU32 wholePage.minDateTime (listPattern none) anyVisibility
          rows := rfl
  rw [whole, listed, List.mem_filter]
  simp [matched, since]

theorem reported_iff {reply : StorageFileInfo} {row : UserFile} (unique : Unique db)
    (present : row ∈ db.userFile) (id : reply.id = UInt64.ofNat row.id)
    (same : row.key = ⟨reply.ownerId, reply.title.toU32, reply.filename⟩)
    (bound : Sqlite.bindable reply.ownerId = true) :
    Reported reply db ↔ fileInfo reply.title reply.ownerId row = reply := by
  constructor
  · intro reported
    obtain ⟨infos, shown, member⟩ := reported.listed (readerOf reply.ownerId reply.title)
      ⟨reply.ownerId, "", [], reply.title⟩ rfl rfl rfl
    have did := @exec_list_owner (readerOf reply.ownerId reply.title)
      ⟨reply.ownerId, "", [], reply.title⟩ wholePage db rfl bound
    rw [did] at shown
    obtain rfl := Except.ok.inj (Except.ok.inj shown)
    obtain ⟨v, inside, told⟩ := List.mem_map.mp member
    obtain ⟨there, owned, titled⟩ := listed_whole.mp inside
    have named : v.filename = reply.filename := congrArg StorageFileInfo.filename told
    have alike : v.key = row.key := by
      rw [same, UserFile.key, owned, titled, named]
    rw [← List.inj_on_of_nodup_map unique.keys there present alike]
    exact told
  · intro told
    obtain ⟨owned, titled, _⟩ := FileKey.mk.inj same
    constructor
    · intro reader user authenticated owner inTitle
      have did := exec_list_owner wholePage db authenticated (by rw [owner]; exact bound)
      rw [owner, inTitle] at did
      refine ⟨_, by rw [did], ?_⟩
      have inside := (@listed_whole row db.userFile ⟨reply.ownerId, "", [], reply.title⟩).mpr
        ⟨present, owned, titled⟩
      exact List.mem_map.mpr ⟨row, inside, told⟩
    · intro small reader user page infos authenticated titledSo shown info member alike
      obtain ⟨v, there, shows, named⟩ :=
        list_ok (inTitle_iff.mpr ⟨user, authenticated, titledSo⟩) shown info member
      have number : UInt64.ofNat v.id = UInt64.ofNat row.id := by
        rw [← id, ← alike, ← shows]
        rfl
      have bits := congrArg UInt64.toNat number
      rw [UInt64.toNat_ofNat_of_lt' (Nat.lt_trans (small v there) (by decide)),
        UInt64.toNat_ofNat_of_lt' (Nat.lt_trans (small row present) (by decide))] at bits
      obtain rfl := List.inj_on_of_nodup_map unique.ids there present bits
      rw [← shows, told]

theorem told_iff (unique : Unique db) :
    fileInfo title ownerId (holder ⟨ownerId, title.toU32, filename⟩ visibility fileData db)
        = { id := UInt64.ofNat (holder ⟨ownerId, title.toU32, filename⟩ visibility fileData db).id
            filename, title, fileSize := UInt64.ofNat fileData.length, created := db.now
            modified := db.now, visibility, ownerId }
      ↔ ∀ row ∈ db.userFile, row.key = ⟨ownerId, title.toU32, filename⟩ →
          row.createdAt = db.now ∧ toFileVisibility row.visibility = visibility := by
  by_cases absent : ∀ row ∈ db.userFile, row.key ≠ ⟨ownerId, title.toU32, filename⟩
  next =>
    rw [holder_new absent]
    refine ⟨fun _ row present same => absurd same (absent row present), fun _ => ?_⟩
    simp [fileInfo, newRow]
  next =>
    push Not at absent
    obtain ⟨row, present, same⟩ := absent
    obtain ⟨_, _, named⟩ := FileKey.mk.inj same
    rw [holder_existing unique present same]
    simp only [fileInfo, named, StorageFileInfo.mk.injEq, and_true, true_and]
    constructor
    · rintro agrees v there alike
      rw [List.inj_on_of_nodup_map unique.keys there present (alike.trans same.symm)]
      exact agrees
    · exact fun agrees => agrees row present same

theorem reported_create_iff (unique : Unique db)
    (admitted : admits session ownerId filename fileData = some title) :
    Reported
        { id := UInt64.ofNat (holder ⟨ownerId, title.toU32, filename⟩ visibility fileData db).id
          filename, title, fileSize := UInt64.ofNat fileData.length, created := db.now
          modified := db.now, visibility, ownerId }
        { db with userFile := stored ⟨ownerId, title.toU32, filename⟩ visibility fileData db }
      ↔ ∀ row ∈ db.userFile, row.key = ⟨ownerId, title.toU32, filename⟩ →
          row.createdAt = db.now ∧ toFileVisibility row.visibility = visibility := by
  obtain ⟨_, _, _, _, _, _, bound⟩ := admits_eq_some admitted
  obtain ⟨present, same, _, _⟩ := holder_mem ⟨ownerId, title.toU32, filename⟩ visibility fileData db
  rw [← told_iff unique]
  exact reported_iff (unique_stored unique _ visibility fileData) present rfl same bound

theorem keepsId_create (unique : Unique db) (visibility : FileVisibility) (fileData : List UInt8)
    {u : UserFile} (present : u ∈ db.userFile) (same : u.key = key) :
    (holder key visibility fileData db).id = u.id
      ∧ ∃ v ∈ stored key visibility fileData db, v.key = u.key ∧ v.id = u.id := by
  have id : (holder key visibility fileData db).id = u.id := by
    rw [holder_existing unique present same]
  obtain ⟨written, named, _, _⟩ := holder_mem key visibility fileData db
  exact ⟨id, _, written, named.trans same.symm, id⟩

theorem createsAsStored_iff (sqlite : Sqlite) (unique : Unique db) (call : Call) :
    CreatesAsStored sqlite db call ↔ AgreesWithRow db call := by
  obtain ⟨now, request⟩ := call
  have waited : Unique { db with now := now } := ⟨unique.ids, unique.keys⟩
  cases request with
  | create session ownerId filename visibility fileData =>
    cases admitted : admits session ownerId filename fileData with
    | none =>
      obtain ⟨_, never⟩ := exec_create_refused visibility { db with now := now } admitted
      constructor
      · intro _ title admits
        rw [admitted] at admits
        cases admits
      · intro _
        constructor
        · rintro _ _ _ _ _ reply ⟨⟩ given
          exact absurd given (never reply)
        · rintro _ _ _ _ _ reply ⟨⟩ given
          exact absurd given (never reply)
    | some title =>
      have did := exec_create visibility { db with now := now } admitted
      have after : serve sqlite db ⟨now, .create session ownerId filename visibility fileData⟩
          = { userFile := stored ⟨ownerId, title.toU32, filename⟩ visibility fileData
                { db with now := now }, now := now } := by
        rw [serve, write, did]
      constructor
      · intro creates of admits
        have reported := creates.reported _ _ _ _ _ _ rfl (by rw [did])
        rw [after] at reported
        obtain rfl := Option.some.inj (admitted.symm.trans admits)
        exact (reported_create_iff waited admitted).mp reported
      · intro agrees
        constructor
        · rintro _ _ _ _ _ reply ⟨⟩ given u present same
          rw [did] at given
          obtain rfl := Except.ok.inj (Except.ok.inj given)
          obtain ⟨id, kept⟩ := keepsId_create waited visibility fileData present same
          rw [after]
          exact ⟨congrArg UInt64.ofNat id, kept⟩
        · rintro _ _ _ _ _ reply ⟨⟩ given
          rw [did] at given
          obtain rfl := Except.ok.inj (Except.ok.inj given)
          rw [after]
          exact (reported_create_iff waited admitted).mpr (agrees title admitted)
  | update session ownerId fileId fileData =>
    refine ⟨fun _ => trivial, fun _ => ⟨?_, ?_⟩⟩
    · rintro _ _ _ _ _ _ ⟨⟩
    · rintro _ _ _ _ _ _ ⟨⟩
  | remove session ownerId filename =>
    refine ⟨fun _ => trivial, fun _ => ⟨?_, ?_⟩⟩
    · rintro _ _ _ _ _ _ ⟨⟩
    · rintro _ _ _ _ _ _ ⟨⟩

/--
Files are unique, keep their id and are reported as stored in a run exactly if
no creation in it finds a file that is older or differs in its visibility.
-/
theorem created_as_stored_iff (sqlite : Sqlite) (calls : List Call) :
    (Always (serve sqlite) Unique Served.new.db calls
        ∧ Meets (serve sqlite) (CreatesAsStored sqlite) Served.new.db calls)
      ↔ Meets (serve sqlite) AgreesWithRow Served.new.db calls := by
  have decided : Meets (serve sqlite) (CreatesAsStored sqlite) Served.new.db calls
      ↔ Meets (serve sqlite) AgreesWithRow Served.new.db calls :=
    meets_iff_of_invariant (unique_serve sqlite)
      (fun db call unique => createsAsStored_iff sqlite unique call) unique_new
  have always : Always (serve sqlite) Unique Served.new.db calls :=
    always_of_invariant (fun db call unique _ => unique_serve sqlite db call unique) unique_new
      (meets_true _ calls)
  rw [decided]
  exact and_iff_right always

def saved (now : Int64) (fileData : List UInt8) : Call :=
  ⟨now, .create owner 7 "stats" .visiblePublic fileData⟩

theorem older_file_misreported :
    ¬(Always (serve ⟨true⟩) Unique Served.new.db [saved 100 [1], saved 105 [2]]
      ∧ Meets (serve ⟨true⟩) (CreatesAsStored ⟨true⟩) Served.new.db [saved 100 [1], saved 105 [2]]) := by
  rintro ⟨_, _, second, _⟩
  have reported := second.reported owner 7 "stats" .visiblePublic [2]
    ⟨1, "stats", .t6Pc, 1, 105, 105, .visiblePublic, 7⟩ rfl (by decide)
  obtain ⟨infos, shown, member⟩ := reported.listed owner ⟨7, "owner", [], .t6Pc⟩ rfl rfl rfl
  have listed : (exec (listStorageFiles owner 7 wholePage)
      (serve ⟨true⟩ (serve ⟨true⟩ Served.new.db (saved 100 [1])) (saved 105 [2]))).1
        = .ok (.ok [⟨1, "stats", .t6Pc, 1, 100, 105, .visiblePublic, 7⟩]) := by decide
  obtain rfl := Except.ok.inj (Except.ok.inj (listed.symm.trans shown))
  cases List.mem_singleton.mp member

end DwUserStorageService

end BitDemon
