import BitDemon.Library.Paging
import BitDemon.Library.Utf8
import BitDemon.Lobby.Handlers.Storage

set_option autoImplicit false

/-!
# The files of a publisher

They are what a directory of the server holds. The entries are read one after
the other, and none that is not needed for the page.
-/

namespace BitDemon

open Machine Paging

structure FileMetadata where
  len : UInt64
  -- in seconds since the epoch; none where the time is unknown, or before it
  created : Option UInt64
  modified : Option UInt64
  deriving DecidableEq

structure DirEntry where
  -- none is no UTF-8
  fileName : Option String
  metadata : Option FileMetadata
  deriving DecidableEq

structure PublisherStorage where
  -- what `fs::read_dir` gives for a title; an entry may be an error
  directory : Title → Option (List (Option DirEntry))

namespace DwPublisherStorageService

abbrev Answered (α : Type) := Except StorageServiceError α

def rejectWith {α : Type} (error : StorageServiceError) : Fallible PublisherStorage (Answered α) :=
  pure (Except.error error)

def accept {α : Type} (value : α) : Fallible PublisherStorage (Answered α) :=
  pure (Except.ok value)

def fileId (filename : String) : UInt64 :=
  let hash : UInt64 := (Utf8.encode filename).foldl
    (fun hash byte => (hash ^^^ byte.toUInt64) * 0x100000001b3) 0xcbf29ce484222325
  hash ||| 0x8000000000000000

-- `Result::unwrap`
def unwrapResult {α : Type} (value : Option α) : Fallible PublisherStorage α :=
  match value with
  | some a => pure a
  | none => panicWith .unwrapOnError

def mapInfoInfo (title : Title) (entry : DirEntry) : Fallible PublisherStorage StorageFileInfo := do
  let metadata ← unwrapResult entry.metadata
  let filename ← unwrap entry.fileName
  let created ← unwrapResult metadata.created
  let modified ← unwrapResult metadata.modified
  pure
    { id := fileId filename, filename, title, fileSize := metadata.len, created := created.toInt64
      modified := modified.toInt64, visibility := .visiblePublic, ownerId := 0 }

def selects (filter : Option String) (entry : DirEntry) : Fallible PublisherStorage Bool :=
  match filter with
  | some filter => do
    let filename ← unwrap entry.fileName
    pure (Utf8.startsWith filename filter)
  | none => pure true

/-- The iterator over the directory: skip, then map, then filter by date, then take. -/
def collect (title : Title) (filter : Option String) (minDateTime : Int64) :
    Nat → Nat → List DirEntry → Fallible PublisherStorage (List StorageFileInfo)
  | _, 0, _ => pure []
  | _, _ + 1, [] => pure []
  | itemOffset, itemCount + 1, entry :: rest => do
    if ← selects filter entry then
      match itemOffset with
      | itemOffset + 1 => collect title filter minDateTime itemOffset (itemCount + 1) rest
      | 0 => do
        let info ← mapInfoInfo title entry
        if minDateTime ≤ info.created then
          let later ← collect title filter minDateTime 0 itemCount rest
          pure (info :: later)
        else
          collect title filter minDateTime 0 (itemCount + 1) rest
    else
      collect title filter minDateTime itemOffset (itemCount + 1) rest

def readPublisherFiles (session : BdSession) (page : FilePage) (filter : Option String) :
    Fallible PublisherStorage (Answered (List StorageFileInfo)) := do
  let authentication ← unwrap session.authentication
  let storage ← get
  match storage.directory authentication.title with
  | none => accept []
  | some dir => do
    let fileInfo ← collect authentication.title filter page.minDateTime page.itemOffset
      page.itemCount (dir.filterMap fun entry => entry)
    if fileInfo.isEmpty then
      rejectWith .storageFileNotFoundError
    else
      accept fileInfo

def listPublisherFiles (session : BdSession) (page : FilePage) :
    Fallible PublisherStorage (Answered (List StorageFileInfo)) :=
  readPublisherFiles session page none

def filterPublisherFiles (session : BdSession) (page : FilePage) (filter : String) :
    Fallible PublisherStorage (Answered (List StorageFileInfo)) :=
  readPublisherFiles session page (some filter)

def infoOf (title : Title) (entry : DirEntry) : Option StorageFileInfo := do
  let metadata ← entry.metadata
  let filename ← entry.fileName
  let created ← metadata.created
  let modified ← metadata.modified
  some
    { id := fileId filename, filename, title, fileSize := metadata.len, created := created.toInt64
      modified := modified.toInt64, visibility := .visiblePublic, ownerId := 0 }

def chosen (filter : Option String) (entry : DirEntry) : Bool :=
  match filter with
  | some filter => entry.fileName.any fun filename => Utf8.startsWith filename filter
  | none => true

-- the name is read only to compare it with a filter
def Named (filter : Option String) (entry : DirEntry) : Prop :=
  filter.isSome = true → entry.fileName.isSome = true

def entriesOf (storage : PublisherStorage) (title : Title) : List DirEntry :=
  ((storage.directory title).getD []).filterMap fun entry => entry

structure Readable (title : Title) (filter : Option String) (entries : List DirEntry) : Prop where
  named : ∀ entry ∈ entries, Named filter entry
  known : ∀ entry ∈ entries.filter (chosen filter), (infoOf title entry).isSome = true

def listing (title : Title) (filter : Option String) (entries : List DirEntry) :
    List StorageFileInfo :=
  (entries.filter (chosen filter)).filterMap (infoOf title)

def since (minDateTime : Int64) (info : StorageFileInfo) : Bool := decide (minDateTime ≤ info.created)

def request (session : BdSession) (filter : Option String) (page : FilePage) :
    Fallible PublisherStorage (Answered (List StorageFileInfo)) :=
  match filter with
  | some filter => filterPublisherFiles session page filter
  | none => listPublisherFiles session page

-- a page that is not found is empty; after a panic there is none
def pageOf (outcome : Except Fault (Answered (List StorageFileInfo))) : Option (List StorageFileInfo) :=
  match outcome with
  | .ok (.ok infos) => some infos
  | .ok (.error .storageFileNotFoundError) => some []
  | _ => none

def PartitionsListing (storage : PublisherStorage) (session : BdSession) (title : Title)
    (filter : Option String) (minDateTime : Int64) (size : Nat) : Prop :=
  Gathers
    (fun offset => pageOf (exec (request session filter ⟨minDateTime, offset, size⟩) storage).1)
    size 0 ((listing title filter (entriesOf storage title)).filter (since minDateTime))

variable {storage : PublisherStorage} {session : BdSession} {user : SessionAuthentication}
  {title : Title} {filter : Option String} {minDateTime : Int64} {size : Nat}
  {entry : DirEntry} {entries : List DirEntry}

theorem exec_unwrapResult {α : Type} (a : α) (storage : PublisherStorage) :
    exec (unwrapResult (some a)) storage = (.ok a, storage) := rfl

theorem exec_mapInfoInfo {info : StorageFileInfo} (known : infoOf title entry = some info)
    (storage : PublisherStorage) : exec (mapInfoInfo title entry) storage = (.ok info, storage) := by
  obtain ⟨metadata, there, known⟩ := Option.bind_eq_some_iff.mp known
  obtain ⟨filename, named, known⟩ := Option.bind_eq_some_iff.mp known
  obtain ⟨created, born, known⟩ := Option.bind_eq_some_iff.mp known
  obtain ⟨modified, changed, known⟩ := Option.bind_eq_some_iff.mp known
  obtain rfl := Option.some.inj known
  rw [mapInfoInfo, there, named, exec_bind_ok _ (exec_unwrapResult metadata storage), unwrap_some,
    pure_bind, born, changed, exec_bind_ok _ (exec_unwrapResult created storage),
    exec_bind_ok _ (exec_unwrapResult modified storage)]
  rfl

theorem known_of_mapInfoInfo {info : StorageFileInfo}
    (told : (exec (mapInfoInfo title entry) storage).1 = .ok info) :
    (infoOf title entry).isSome = true := by
  cases there : entry.metadata with
  | none =>
    rw [mapInfoInfo, there] at told
    cases told
  | some metadata =>
    rw [mapInfoInfo, there, exec_bind_ok _ (exec_unwrapResult metadata storage)] at told
    cases named : entry.fileName with
    | none =>
      rw [named] at told
      cases told
    | some filename =>
      rw [named, unwrap_some, pure_bind] at told
      cases born : metadata.created with
      | none =>
        rw [born] at told
        cases told
      | some created =>
        rw [born, exec_bind_ok _ (exec_unwrapResult created storage)] at told
        cases changed : metadata.modified with
        | none =>
          rw [changed] at told
          cases told
        | some modified =>
          simp [infoOf, there, named, born, changed]

theorem exec_selects (named : Named filter entry) (storage : PublisherStorage) :
    exec (selects filter entry) storage = (.ok (chosen filter entry), storage) := by
  cases filter with
  | none => rfl
  | some filter =>
    obtain ⟨filename, there⟩ := Option.isSome_iff_exists.mp (named rfl)
    rw [selects, chosen, there]
    rfl

theorem named_of_selects {chose : Bool} (told : (exec (selects filter entry) storage).1 = .ok chose) :
    Named filter entry := by
  intro filtered
  obtain ⟨filter, rfl⟩ := Option.isSome_iff_exists.mp filtered
  cases there : entry.fileName with
  | none =>
    rw [selects, there] at told
    cases told
  | some filename => rfl

theorem listing_cons (title : Title) (filter : Option String) (entry : DirEntry)
    (entries : List DirEntry) :
    listing title filter (entry :: entries)
      = (if chosen filter entry then (infoOf title entry).toList else [])
        ++ listing title filter entries := by
  rw [listing, List.filter_cons]
  split
  next => cases known : infoOf title entry <;> simp [listing, known]
  next => rfl

theorem Readable.tail (readable : Readable title filter (entry :: entries)) :
    Readable title filter entries := by
  constructor
  · exact fun other member => readable.named other (List.mem_cons_of_mem _ member)
  · intro other member
    refine readable.known other (List.mem_filter.mpr ?_)
    obtain ⟨present, chose⟩ := List.mem_filter.mp member
    exact ⟨List.mem_cons_of_mem _ present, chose⟩

theorem exec_collect (readable : Readable title filter entries) (itemOffset itemCount : Nat)
    (storage : PublisherStorage) :
    exec (collect title filter minDateTime itemOffset itemCount entries) storage
      = (.ok (skipFirst (since minDateTime) itemCount (listing title filter entries) itemOffset),
        storage) := by
  induction entries generalizing itemOffset itemCount with
  | nil => cases itemCount <;> simp [collect, skipFirst, listing]
  | cons entry entries ih =>
    cases itemCount with
    | zero => simp [collect, skipFirst]
    | succ itemCount =>
      have named := readable.named entry List.mem_cons_self
      rw [collect.eq_def]
      dsimp only
      rw [exec_bind_ok _ (exec_selects named storage), listing_cons]
      cases chose : chosen filter entry with
      | false => exact ih readable.tail itemOffset (itemCount + 1)
      | true =>
        have here : entry ∈ (entry :: entries).filter (chosen filter) :=
          List.mem_filter.mpr ⟨List.mem_cons_self, chose⟩
        obtain ⟨info, known⟩ := Option.isSome_iff_exists.mp (readable.known entry here)
        rw [if_pos rfl, if_pos rfl, known, Option.toList_some, List.singleton_append]
        cases itemOffset with
        | succ itemOffset => exact ih readable.tail itemOffset (itemCount + 1)
        | zero =>
          dsimp only
          rw [exec_bind_ok _ (exec_mapInfoInfo known storage), skipFirst, List.drop_zero,
            List.filter_cons, since]
          by_cases young : minDateTime ≤ info.created
          next =>
            rw [if_pos young, exec_bind_ok _ (ih readable.tail 0 itemCount),
              if_pos (decide_eq_true young), List.take_succ_cons]
            rfl
          next =>
            rw [if_neg young, if_neg (by simpa using young)]
            exact ih readable.tail 0 (itemCount + 1)

structure CameUpon (title : Title) (filter : Option String) (entries : List DirEntry)
    (itemOffset itemCount given : Nat) : Prop where
  page : ∀ entry ∈ ((entries.filter (chosen filter)).drop itemOffset).take itemCount,
    (infoOf title entry).isSome = true
  named : given < itemCount → ∀ entry ∈ entries, Named filter entry
  known : given < itemCount → ∀ entry ∈ (entries.filter (chosen filter)).drop itemOffset,
    (infoOf title entry).isSome = true

section CameUpon

variable {itemOffset itemCount given : Nat}

theorem CameUpon.passed (named : Named filter entry) (chose : chosen filter entry = false)
    (later : CameUpon title filter entries itemOffset itemCount given) :
    CameUpon title filter (entry :: entries) itemOffset itemCount given := by
  have same : (entry :: entries).filter (chosen filter) = entries.filter (chosen filter) :=
    List.filter_cons_of_neg (by rw [chose]; exact Bool.false_ne_true)
  refine ⟨by rw [same]; exact later.page, fun short => ?_, by rw [same]; exact later.known⟩
  exact List.forall_mem_cons.mpr ⟨named, later.named short⟩

theorem CameUpon.skipped (named : Named filter entry) (chose : chosen filter entry = true)
    (later : CameUpon title filter entries itemOffset itemCount given) :
    CameUpon title filter (entry :: entries) (itemOffset + 1) itemCount given := by
  constructor
  · rw [List.filter_cons_of_pos chose, List.drop_succ_cons]
    exact later.page
  · exact fun short => List.forall_mem_cons.mpr ⟨named, later.named short⟩
  · rw [List.filter_cons_of_pos chose, List.drop_succ_cons]
    exact later.known

theorem CameUpon.mapped {itemCount' given' : Nat} (named : Named filter entry)
    (chose : chosen filter entry = true) (known : (infoOf title entry).isSome = true)
    (within : itemCount' ≤ itemCount + 1) (short : given' < itemCount' → given < itemCount)
    (later : CameUpon title filter entries 0 itemCount given) :
    CameUpon title filter (entry :: entries) 0 itemCount' given' := by
  constructor
  · rw [List.filter_cons_of_pos chose, List.drop_zero]
    intro other member
    have wider := (List.take_subset_take_left _ within) member
    rw [List.take_succ_cons] at wider
    rcases List.mem_cons.mp wider with rfl | after
    · exact known
    · exact later.page other (by rw [List.drop_zero]; exact after)
  · exact fun less => List.forall_mem_cons.mpr ⟨named, later.named (short less)⟩
  · rw [List.filter_cons_of_pos chose]
    exact fun less => List.forall_mem_cons.mpr ⟨known, later.known (short less)⟩

theorem cameUpon_of_collect {infos : List StorageFileInfo}
    (told : (exec (collect title filter minDateTime itemOffset itemCount entries) storage).1
      = .ok infos) : CameUpon title filter entries itemOffset itemCount infos.length := by
  induction entries generalizing itemOffset itemCount infos with
  | nil => constructor <;> simp
  | cons entry entries ih =>
    cases itemCount with
    | zero => constructor <;> simp
    | succ itemCount =>
      rw [collect.eq_def] at told
      dsimp only at told
      obtain ⟨_, _, chose, _⟩ := ok_of_bind told
      have named := named_of_selects (congrArg Prod.fst chose)
      rw [exec_bind_ok _ (exec_selects named storage)] at told
      cases chose : chosen filter entry with
      | false =>
        rw [chose] at told
        exact (ih told).passed named chose
      | true =>
        rw [chose, if_pos rfl] at told
        cases itemOffset with
        | succ itemOffset => exact (ih told).skipped named chose
        | zero =>
          dsimp only at told
          obtain ⟨info, _, mapped, _⟩ := ok_of_bind told
          have known := known_of_mapInfoInfo (congrArg Prod.fst mapped)
          obtain ⟨told_info, told_known⟩ := Option.isSome_iff_exists.mp known
          rw [exec_bind_ok _ (exec_mapInfoInfo told_known storage)] at told
          split at told
          next young =>
            obtain ⟨later, _, did, given⟩ := ok_of_bind told
            obtain rfl := Except.ok.inj given
            exact (ih (congrArg Prod.fst did)).mapped named chose known (Nat.le_refl _)
              Nat.lt_of_succ_lt_succ
          next old => exact (ih told).mapped named chose known (Nat.le_succ _) id

end CameUpon

theorem request_eq (session : BdSession) (filter : Option String) (page : FilePage) :
    request session filter page = readPublisherFiles session page filter := by
  cases filter <;> rfl

theorem entriesOf_some {dir : List (Option DirEntry)} (there : storage.directory title = some dir) :
    entriesOf storage title = dir.filterMap fun entry => entry := by
  rw [entriesOf, there, Option.getD_some]

theorem page_readable (authenticated : session.authentication = some user)
    (readable : Readable user.title filter (entriesOf storage user.title)) (offset : Nat) :
    pageOf (exec (request session filter ⟨minDateTime, offset, size⟩) storage).1
      = some (skipFirst (since minDateTime) size
          (listing user.title filter (entriesOf storage user.title)) offset) := by
  rw [request_eq, readPublisherFiles, authenticated, unwrap_some, pure_bind,
    exec_bind_ok _ (exec_get storage)]
  cases there : storage.directory user.title with
  | none => simp [entriesOf, there, listing, skipFirst, accept, pageOf]
  | some dir =>
    rw [entriesOf_some there] at readable ⊢
    dsimp only
    rw [exec_bind_ok _ (exec_collect readable offset size storage)]
    split
    next empty =>
      rw [List.isEmpty_iff.mp empty]
      rfl
    next => rfl

theorem cameUpon_of_page {offset : Nat} {infos : List StorageFileInfo}
    (authenticated : session.authentication = some user)
    (had : pageOf (exec (request session filter ⟨minDateTime, offset, size⟩) storage).1 = some infos) :
    CameUpon user.title filter (entriesOf storage user.title) offset size infos.length := by
  rw [request_eq, readPublisherFiles, authenticated, unwrap_some, pure_bind,
    exec_bind_ok _ (exec_get storage)] at had
  cases there : storage.directory user.title with
  | none => constructor <;> simp [entriesOf, there]
  | some dir =>
    rw [there] at had
    dsimp only at had
    rw [entriesOf_some there]
    rcases outcome : exec (collect user.title filter minDateTime offset size
      (dir.filterMap fun entry => entry)) storage with ⟨result, left⟩
    cases result with
    | error fault =>
      rw [exec_bind_error _ outcome] at had
      cases had
    | ok given =>
      rw [exec_bind_ok _ outcome] at had
      have same : given = infos := by
        split at had
        next empty =>
          rw [List.isEmpty_iff.mp empty]
          exact Option.some.inj had
        next => exact Option.some.inj had
      rw [← same]
      exact cameUpon_of_collect (congrArg Prod.fst outcome)

theorem readable_of_gathers {offset : Nat} {given : List StorageFileInfo}
    (authenticated : session.authentication = some user) (positive : 0 < size)
    (gathers : Gathers
      (fun offset => pageOf (exec (request session filter ⟨minDateTime, offset, size⟩) storage).1)
      size offset given) :
    (∀ entry ∈ entriesOf storage user.title, Named filter entry)
      ∧ ∀ entry ∈ ((entriesOf storage user.title).filter (chosen filter)).drop offset,
        (infoOf user.title entry).isSome = true := by
  induction gathers with
  | last offset empty =>
    have upon := cameUpon_of_page authenticated empty
    exact ⟨upon.named positive, upon.known positive⟩
  | more offset first rest had some later ih =>
    have upon := cameUpon_of_page authenticated had
    refine ⟨ih.1, fun entry member => ?_⟩
    rw [← List.take_append_drop size (List.drop offset _), List.drop_drop] at member
    rcases List.mem_append.mp member with here | after
    · exact upon.page entry here
    · exact ih.2 entry after

theorem partitions_of_readable (authenticated : session.authentication = some user)
    (positive : 0 < size) (readable : Readable user.title filter (entriesOf storage user.title)) :
    PartitionsListing storage session user.title filter minDateTime size
      ↔ NoneLate (since minDateTime) size
          (listing user.title filter (entriesOf storage user.title)) := by
  have pages : (fun offset =>
        pageOf (exec (request session filter ⟨minDateTime, offset, size⟩) storage).1)
      = fun offset => some (skipFirst (since minDateTime) size
          (listing user.title filter (entriesOf storage user.title)) offset) :=
    funext fun offset => page_readable authenticated readable offset
  rw [PartitionsListing, pages, gathers_iff positive]

/--
The pages give every file since the date once, in the order of the directory,
exactly if all entries can be read and no page of them has a file that is too
old with one that is not on a page after it.
-/
theorem pages_partition_iff (storage : PublisherStorage) (session : BdSession)
    (user : SessionAuthentication) (filter : Option String) (minDateTime : Int64) (size : Nat)
    (authenticated : session.authentication = some user) (positive : 0 < size) :
    PartitionsListing storage session user.title filter minDateTime size
      ↔ Readable user.title filter (entriesOf storage user.title)
        ∧ NoneLate (since minDateTime) size
          (listing user.title filter (entriesOf storage user.title)) := by
  constructor
  · intro partitions
    obtain ⟨named, known⟩ := readable_of_gathers authenticated positive partitions
    exact ⟨⟨named, known⟩,
      (partitions_of_readable authenticated positive ⟨named, known⟩).mp partitions⟩
  · rintro ⟨readable, none⟩
    exact (partitions_of_readable authenticated positive readable).mpr none

def player : BdSession := ⟨1, some ⟨7, "player", [], .t6Pc⟩, none⟩

def dated (filename : String) (seconds : UInt64) : Option DirEntry :=
  some ⟨some filename, some ⟨1, some seconds, some seconds⟩⟩

def datedInfo (filename : String) (seconds : Int64) : StorageFileInfo :=
  ⟨fileId filename, filename, .t6Pc, 1, seconds, seconds, .visiblePublic, 0⟩

theorem newer_file_twice :
    ¬PartitionsListing ⟨fun _ => some [dated "old" 5, dated "new" 20]⟩ player .t6Pc none 10 1 := by
  have readable : Readable .t6Pc none [⟨some "old", some ⟨1, some 5, some 5⟩⟩,
      ⟨some "new", some ⟨1, some 20, some 20⟩⟩] := ⟨fun _ _ named => (by cases named), by decide⟩
  intro partitions
  have none := (@partitions_of_readable ⟨fun _ => some [dated "old" 5, dated "new" 20]⟩ player
    ⟨7, "player", [], .t6Pc⟩ none 10 1 rfl Nat.one_pos readable).mp partitions
  have late := none 0 ⟨datedInfo "old" 5, List.mem_singleton.mpr rfl, by decide⟩
    (datedInfo "new" 20) (List.mem_singleton.mpr rfl)
  cases late

theorem pages_partition_newest_first :
    PartitionsListing ⟨fun _ => some [dated "new" 20, dated "old" 5]⟩ player .t6Pc none 10 1 :=
  (pages_partition_iff _ player ⟨7, "player", [], .t6Pc⟩ none 10 1 rfl (by decide)).mpr (by
    refine ⟨⟨fun _ _ named => (by cases named), by decide⟩, ?_⟩
    change NoneLate (since 10) 1 [datedInfo "new" 20, datedInfo "old" 5]
    rw [noneLate_iff, noneLate_iff]
    exact ⟨by decide, by decide, noneLate_nil⟩)

end DwPublisherStorageService

end BitDemon
