import BitDemon.DwServer.PublisherStreams
import BitDemon.Library.Runs
import Mathlib.Data.List.Perm.Subperm

set_option autoImplicit false

/-!
# A listing that follows its directory

A refresh brings what it comes upon up to date, and forgets nothing.
-/

namespace BitDemon

open Machine Runs

namespace PublisherStreamState

abbrev File := String × UInt64 × Int64

def fileOf (stream : StreamInfo) : File := (stream.filename, stream.streamSize, stream.modified)

-- none if its name or its time of modification cannot be had
def fileIn (entry : DirEntry) : Option File := do
  let filename ← entry.fileName
  let metadata ← entry.metadata
  let modified ← metadata.modified
  some (filename, metadata.len, modified.toInt64)

def entriesIn (directory : Option Directory) : List DirEntry :=
  directory.elim [] Directory.entries

def namesIn (entries : List DirEntry) : List String := entries.filterMap DirEntry.fileName

def files (state : PublisherStreamState) : List File := state.streams.map fileOf

def Lists (state : PublisherStreamState) (directory : Option Directory) : Prop :=
  (state.files.map some).Perm ((entriesIn directory).map fileIn)

def Refreshed (build : VecBuild) (service : DwPublisherContentStreamingService)
    (state : PublisherStreamState) (directory : Option Directory) : Prop :=
  ∃ after, exec (refresh build service directory) state = (.ok (), after) ∧ after.Lists directory

structure Readable (state : PublisherStreamState) (entry : DirEntry) : Prop where
  known : (fileIn entry).isSome = true
  born : ∀ filename metadata, entry.fileName = some filename → entry.metadata = some metadata →
    filename ∉ state.names → metadata.created.isSome = true

structure NoneGone (build : VecBuild) (state : PublisherStreamState) (directory : Option Directory) :
    Prop where
  present : ∀ filename ∈ state.names, filename ∈ namesIn (entriesIn directory)
  readable : ∀ entry ∈ entriesIn directory, state.Readable entry
  room : (entriesIn directory).length ≤ build.room

variable {build : VecBuild} {service : DwPublisherContentStreamingService} {entry : DirEntry}
  {entries : List DirEntry} {s t : PublisherStreamState}

theorem mem_modifyFirst_of_ne {filename : String} {change : StreamInfo → StreamInfo}
    {stream : StreamInfo} {streams : List StreamInfo} (member : stream ∈ streams)
    (other : stream.filename ≠ filename) : stream ∈ modifyFirst filename change streams := by
  induction streams with
  | nil => cases member
  | cons head streams ih =>
    by_cases here : head.filename = filename
    next =>
      rcases List.mem_cons.mp member with rfl | later
      · exact absurd here other
      · simp [modifyFirst, here, later]
    next =>
      rcases List.mem_cons.mp member with rfl | later
      · simp [modifyFirst, here]
      · simp [modifyFirst, here, ih later]

theorem exists_mem_modifyFirst {filename : String} {change : StreamInfo → StreamInfo}
    {streams : List StreamInfo} (listed : filename ∈ streams.map StreamInfo.filename) :
    ∃ stream ∈ streams, stream.filename = filename
      ∧ change stream ∈ modifyFirst filename change streams := by
  induction streams with
  | nil => cases listed
  | cons head streams ih =>
    by_cases here : head.filename = filename
    next => exact ⟨head, List.mem_cons_self, here, by simp [modifyFirst, here]⟩
    next =>
      have later : filename ∈ streams.map StreamInfo.filename := by
        simpa [Ne.symm here] using listed
      obtain ⟨stream, member, named, changed⟩ := ih later
      exact ⟨stream, List.mem_cons_of_mem head member, named, by simp [modifyFirst, here, changed]⟩

structure Merged (entry : DirEntry) (s t : PublisherStreamState) : Prop where
  readable : s.Readable entry
  names : ∀ filename, filename ∈ t.names ↔ filename ∈ s.names ∨ entry.fileName = some filename
  current : ∀ file, fileIn entry = some file → file ∈ t.files
  others : ∀ file ∈ s.files, entry.fileName ≠ some file.1 → file ∈ t.files

theorem mem_names_iff {filename : String} :
    filename ∈ s.names ↔ ∃ file ∈ s.files, file.1 = filename := by
  simp [names, files, fileOf]

theorem upToDate_filename (metadata : FileMetadata) (modified : UInt64) (stream : StreamInfo) :
    (upToDate metadata modified stream).filename = stream.filename := rfl

theorem names_withChange (s : PublisherStreamState) (filename : String)
    {change : StreamInfo → StreamInfo}
    (named : ∀ stream, (change stream).filename = stream.filename) :
    (s.withChange filename change).names = s.names :=
  modifyFirst_map filename named s.streams

theorem mem_files_withChange_of_ne {filename : String} {change : StreamInfo → StreamInfo}
    {file : File} (member : file ∈ s.files) (other : file.1 ≠ filename) :
    file ∈ (s.withChange filename change).files := by
  obtain ⟨stream, present, rfl⟩ := List.mem_map.mp member
  exact List.mem_map_of_mem (mem_modifyFirst_of_ne present other)

theorem handled_ok (ran : exec (handleEntry build service entry) s = (.ok (), t)) :
    ∃ filename metadata modified, entry.fileName = some filename ∧ entry.metadata = some metadata
      ∧ metadata.modified = some modified
      ∧ ((filename ∈ s.names ∧ t = s.withChange filename (upToDate metadata modified))
        ∨ (filename ∉ s.names ∧ ∃ created, metadata.created = some created
            ∧ t = s.withStream (newStream service filename metadata.len created modified s))) := by
  have came := handled build service entry s
  rw [ran] at came
  cases came with
  | changed read named changed listed =>
    exact ⟨_, _, _, named, read, changed, .inl ⟨listed, rfl⟩⟩
  | added read named born changed fresh _ =>
    exact ⟨_, _, _, named, read, changed, .inr ⟨fresh, _, born, rfl⟩⟩

theorem merged_of_ok (ran : exec (handleEntry build service entry) s = (.ok (), t)) :
    Merged entry s t := by
  obtain ⟨filename, metadata, modified, named, read, changed, came⟩ := handled_ok ran
  have known : fileIn entry = some (filename, metadata.len, modified.toInt64) := by
    simp [fileIn, read, named, changed]
  have seen : (fileIn entry).isSome = true := by rw [known]; rfl
  obtain ⟨listed, rfl⟩ | ⟨fresh, created, born, rfl⟩ := came
  · constructor
    · refine ⟨seen, fun other _ same _ fresh => ?_⟩
      cases named.symm.trans same
      exact absurd listed fresh
    · intro other
      rw [names_withChange s filename (upToDate_filename metadata modified), named, Option.some.injEq]
      exact ⟨.inl, fun either => either.elim id fun same => same ▸ listed⟩
    · intro file same
      rw [known] at same
      cases same
      obtain ⟨stream, _, here, brought⟩ := exists_mem_modifyFirst listed
      exact List.mem_map.mpr ⟨_, brought, by simp [fileOf, upToDate, here]⟩
    · intro file member other
      exact mem_files_withChange_of_ne member fun same => other (same ▸ named)
  · constructor
    · refine ⟨seen, fun _ other _ same _ => ?_⟩
      cases read.symm.trans same
      rw [born]
      rfl
    · intro other
      simp [names, withStream, newStream, named, eq_comm]
    · intro file same
      rw [known] at same
      cases same
      simp [files, withStream, newStream, fileOf]
    · intro file member _
      simp only [files, withStream, List.map_append]
      exact List.mem_append_left _ member

theorem Ready.idsLeft (ready : Ready s) (room : s.streams.length ≤ build.room) :
    idsRunOut build s = false := by
  by_contra out
  rw [Bool.not_eq_false, idsRunOut, Bool.and_eq_true, beq_iff_eq] at out
  have last : s.nextId.toNat = 18446744073709551615 := congrArg UInt64.toNat out.2
  have bound := build.room_lt
  rw [Ready] at ready
  omega

theorem exists_ok (ready : Ready s) (readable : s.Readable entry)
    (room : s.streams.length ≤ build.room)
    (left : ∀ filename, entry.fileName = some filename → filename ∉ s.names →
      s.streams.length < build.room) :
    ∃ t, exec (handleEntry build service entry) s = (.ok (), t) := by
  have came := handled build service entry s
  have ids := ready.idsLeft room
  obtain ⟨filename, named, rest⟩ :=
    Option.bind_eq_some_iff.mp (Option.isSome_iff_exists.mp readable.known).choose_spec
  obtain ⟨metadata, read, rest⟩ := Option.bind_eq_some_iff.mp rest
  obtain ⟨modified, changed, _⟩ := Option.bind_eq_some_iff.mp rest
  rcases ran : exec (handleEntry build service entry) s with ⟨outcome, t⟩
  rw [ran] at came
  cases outcome with
  | ok _ => exact ⟨t, rfl⟩
  | error fault =>
    exfalso
    cases came with
    | unread _ missing => simp [read, named] at missing
    | resized _ again _ gone _ =>
      cases read.symm.trans again
      rw [changed] at gone
      cases gone
    | runOut _ out _ _ =>
      rw [ids] at out
      cases out
    | refused _ again same fresh missing =>
      cases read.symm.trans again
      cases named.symm.trans same
      obtain unborn | gone | full := missing
      · have born := readable.born filename metadata named read fresh
        rw [unborn] at born
        cases born
      · rw [changed] at gone
        cases gone
      · exact Nat.not_lt_of_le full (left filename named fresh)

theorem fileName_of_fileIn {file : File} (known : fileIn entry = some file) :
    entry.fileName = some file.1 := by
  obtain ⟨filename, named, rest⟩ := Option.bind_eq_some_iff.mp known
  obtain ⟨metadata, _, rest⟩ := Option.bind_eq_some_iff.mp rest
  obtain ⟨modified, _, same⟩ := Option.bind_eq_some_iff.mp rest
  cases same
  exact named

theorem mem_namesIn {filename : String} (member : entry ∈ entries)
    (named : entry.fileName = some filename) : filename ∈ namesIn entries :=
  List.mem_filterMap.mpr ⟨entry, member, named⟩

structure MergedAll (entries : List DirEntry) (s t : PublisherStreamState) : Prop where
  readable : ∀ entry ∈ entries, s.Readable entry
  names : ∀ filename, filename ∈ t.names ↔ filename ∈ s.names ∨ filename ∈ namesIn entries
  current : ∀ entry ∈ entries, ∀ file, fileIn entry = some file → file ∈ t.files
  others : ∀ file ∈ s.files, file.1 ∉ namesIn entries → file ∈ t.files

theorem distinct_tail (distinct : (namesIn (entry :: entries)).Nodup) :
    (namesIn entries).Nodup := by
  cases named : entry.fileName with
  | none => simpa [namesIn, named] using distinct
  | some filename =>
    rw [namesIn, List.filterMap_cons_some named] at distinct
    exact distinct.of_cons

theorem distinct_head {filename : String} (distinct : (namesIn (entry :: entries)).Nodup)
    (named : entry.fileName = some filename) : filename ∉ namesIn entries := by
  rw [namesIn, List.filterMap_cons_some named] at distinct
  exact (List.nodup_cons.mp distinct).1

theorem mem_namesIn_cons {filename : String} :
    filename ∈ namesIn (entry :: entries)
      ↔ entry.fileName = some filename ∨ filename ∈ namesIn entries := by
  simp [namesIn]

theorem mergedAll_of_ok (distinct : (namesIn entries).Nodup)
    (ran : exec (handleEntries build service entries) s = (.ok (), t)) : MergedAll entries s t := by
  induction entries generalizing s with
  | nil =>
    cases ran
    constructor
    · exact List.forall_mem_nil _
    · simp [namesIn]
    · exact List.forall_mem_nil _
    · exact fun file member _ => member
  | cons entry entries ih =>
    rw [handleEntries] at ran
    obtain ⟨_, u, first, rest⟩ := exec_bind_eq_ok_iff.mp ran
    have here := merged_of_ok first
    have later := ih (distinct_tail distinct) rest
    constructor
    · intro other member
      rcases List.mem_cons.mp member with rfl | after
      · exact here.readable
      · refine ⟨(later.readable other after).known, fun filename metadata named read fresh => ?_⟩
        refine (later.readable other after).born filename metadata named read fun listed => ?_
        rcases (here.names filename).mp listed with earlier | same
        · exact fresh earlier
        · exact distinct_head distinct same (mem_namesIn after named)
    · intro filename
      rw [later.names, here.names, mem_namesIn_cons, or_assoc]
    · intro other member file known
      rcases List.mem_cons.mp member with rfl | after
      · exact later.others file (here.current file known)
          (distinct_head distinct (fileName_of_fileIn known))
      · exact later.current other after file known
    · intro file member other
      rw [mem_namesIn_cons, not_or] at other
      exact later.others file (here.others file member other.1) other.2

theorem Merged.readable_of (merged : Merged entry s t) {other : DirEntry}
    (readable : s.Readable other) : t.Readable other :=
  ⟨readable.known, fun filename metadata named read fresh =>
    readable.born filename metadata named read fun listed =>
      fresh ((merged.names filename).mpr (.inl listed))⟩

theorem exists_ok_all {all : List String} (room : all.length ≤ build.room)
    (numbered : Numbered build service s) (ready : Ready s) (within : ∀ f ∈ s.names, f ∈ all)
    (inside : ∀ f ∈ namesIn entries, f ∈ all) (readable : ∀ entry ∈ entries, s.Readable entry) :
    ∃ t, exec (handleEntries build service entries) s = (.ok (), t) := by
  induction entries generalizing s with
  | nil => exact ⟨s, rfl⟩
  | cons entry entries ih =>
    have left : ∀ filename, entry.fileName = some filename → filename ∉ s.names →
        s.streams.length < build.room := by
      intro filename named fresh
      have more : (filename :: s.names).Nodup := List.nodup_cons.mpr ⟨fresh, numbered.names⟩
      have counted := (more.subperm fun other member => (List.mem_cons.mp member).elim
        (fun same => same ▸ inside filename (mem_namesIn_cons.mpr (.inl named)))
        (within other)).length_le
      simp only [List.length_cons, names, List.length_map] at counted
      omega
    obtain ⟨u, first⟩ := exists_ok ready (readable entry List.mem_cons_self) numbered.room left
    have merged := merged_of_ok first
    obtain ⟨numberedAfter, readyAfter, _⟩ := @merges_handleEntry build service entry s numbered ready
    rw [first] at numberedAfter readyAfter
    obtain ⟨t, rest⟩ := ih numberedAfter (readyAfter rfl)
      (fun filename listed => ((merged.names filename).mp listed).elim (within filename)
        fun same => inside filename (mem_namesIn_cons.mpr (.inl same)))
      (fun filename member => inside filename (mem_namesIn_cons.mpr (.inr member)))
      (fun other member => merged.readable_of (readable other (List.mem_cons_of_mem entry member)))
    exact ⟨t, by rw [handleEntries, exec_bind_ok _ first, rest]⟩

theorem refresh_eq (directory : Option Directory) :
    refresh build service directory = handleEntries build service (entriesIn directory) := by
  cases directory with
  | none => rfl
  | some directory => rfl

theorem distinct_entriesIn (directory : Option Directory) :
    (namesIn (entriesIn directory)).Nodup := by
  cases directory with
  | none => exact List.nodup_nil
  | some directory => exact directory.distinct

theorem nodup_fileIn (distinct : (namesIn entries).Nodup)
    (known : ∀ entry ∈ entries, (fileIn entry).isSome = true) : (entries.map fileIn).Nodup := by
  induction entries with
  | nil => exact List.nodup_nil
  | cons entry entries ih =>
    obtain ⟨file, here⟩ := Option.isSome_iff_exists.mp (known entry List.mem_cons_self)
    refine List.nodup_cons.mpr ⟨fun again => ?_, ih (distinct_tail distinct) fun other member =>
      known other (List.mem_cons_of_mem entry member)⟩
    obtain ⟨other, member, same⟩ := List.mem_map.mp again
    have named := fileName_of_fileIn (same.trans here)
    exact distinct_head distinct (fileName_of_fileIn here) (mem_namesIn member named)

theorem Lists.present {directory : Option Directory} (lists : t.Lists directory) {filename : String}
    (listed : filename ∈ t.names) : filename ∈ namesIn (entriesIn directory) := by
  obtain ⟨file, member, rfl⟩ := mem_names_iff.mp listed
  have there := lists.subset (List.mem_map_of_mem member)
  obtain ⟨entry, present, known⟩ := List.mem_map.mp there
  exact mem_namesIn present (fileName_of_fileIn known)

theorem lists_of_mergedAll {directory : Option Directory}
    (merged : MergedAll (entriesIn directory) s t) (numbered : Numbered build service t)
    (present : ∀ filename ∈ s.names, filename ∈ namesIn (entriesIn directory)) :
    t.Lists directory := by
  have known : ∀ entry ∈ entriesIn directory, (fileIn entry).isSome = true :=
    fun entry member => (merged.readable entry member).known
  have all : ∀ known ∈ (entriesIn directory).map fileIn, known ∈ t.files.map some := by
    intro file member
    obtain ⟨entry, present, rfl⟩ := List.mem_map.mp member
    obtain ⟨file, here⟩ := Option.isSome_iff_exists.mp (known entry present)
    rw [here]
    exact List.mem_map_of_mem (merged.current entry present file here)
  have part := (nodup_fileIn (distinct_entriesIn directory) known).subperm all
  -- and no more streams than there are names in the directory
  have counted := (numbered.names.subperm fun filename listed =>
    ((merged.names filename).mp listed).elim (present filename) id).length_le
  have names : (namesIn (entriesIn directory)).length ≤ (entriesIn directory).length :=
    List.length_filterMap_le _ _
  refine (part.perm_of_length_le ?_).symm
  simp only [PublisherStreamState.names, files, List.length_map] at counted ⊢
  exact counted.trans names

theorem refreshed_iff (numbered : Numbered build service s) (ready : Ready s)
    (directory : Option Directory) :
    Refreshed build service s directory ↔ NoneGone build s directory := by
  rw [Refreshed, refresh_eq]
  constructor
  · intro ⟨t, ran, lists⟩
    have merged := mergedAll_of_ok (distinct_entriesIn directory) ran
    have after := (@merges_handleEntries build service (entriesIn directory) s numbered ready).1
    rw [ran] at after
    constructor
    · exact fun filename listed => lists.present ((merged.names filename).mpr (.inl listed))
    · exact merged.readable
    · have counted := lists.length_eq
      simp only [files, List.length_map] at counted
      rw [← counted]
      exact after.room
  · intro noneGone
    have room := (List.length_filterMap_le DirEntry.fileName _).trans noneGone.room
    obtain ⟨t, ran⟩ := exists_ok_all room numbered ready noneGone.present (fun _ member => member)
      noneGone.readable
    have after := (@merges_handleEntries build service (entriesIn directory) s numbered ready).1
    rw [ran] at after
    exact ⟨t, ran, lists_of_mergedAll (mergedAll_of_ok (distinct_entriesIn directory) ran) after
      noneGone.present⟩

def afterRefresh (build : VecBuild) (service : DwPublisherContentStreamingService)
    (state : PublisherStreamState) (directory : Option Directory) : PublisherStreamState :=
  (exec (refresh build service directory) state).2

def Follows (build : VecBuild) (service : DwPublisherContentStreamingService) (now : Int)
    (title : Title) (directories : List (Option Directory)) : Prop :=
  Meets (afterRefresh build service) (Refreshed build service) (new now title) directories

/--
The listing follows the directory exactly as long as no file that was listed is
gone at a refresh, and what is there can be read.
-/
theorem follows_iff (build : VecBuild) (service : DwPublisherContentStreamingService) (now : Int)
    (title : Title) (directories : List (Option Directory)) :
    Follows build service now title directories
      ↔ Meets (afterRefresh build service) (NoneGone build) (new now title) directories := by
  let related : PublisherStreamState → PublisherStreamState → Prop :=
    fun s t => s = t ∧ Numbered build service s ∧ Ready s
  have agree : ∀ s t directory, related s t →
      (Refreshed build service s directory ↔ NoneGone build t directory) := by
    rintro s _ directory ⟨rfl, numbered, ready⟩
    exact refreshed_iff numbered ready directory
  have keeps : ∀ s t directory, related s t → Refreshed build service s directory →
      related (afterRefresh build service s directory) (afterRefresh build service t directory) := by
    rintro s _ directory ⟨rfl, numbered, ready⟩ ⟨t, ran, _⟩
    obtain ⟨after, good, _⟩ := @merges_refresh build service directory s numbered ready
    rw [ran] at good
    exact ⟨rfl, after, by rw [afterRefresh, ran]; exact good rfl⟩
  exact meets_iff_of_related agree keeps ⟨rfl, numbered_new now title, rfl⟩

def oneFile : Directory := ⟨[⟨some "a", some ⟨1, some 5, some 5⟩⟩], List.nodup_singleton _⟩

def noFile : Directory := ⟨[], List.nodup_nil⟩

theorem deleted_file_listed :
    ¬Follows ⟨true, 100, by decide⟩ ⟨"localhost", 8080⟩ 0 .t6Pc [some oneFile, some noFile] := by
  intro follows
  obtain ⟨t, ran, lists⟩ := follows.2.1
  cases ran
  exact absurd lists.length_eq (by decide)

end PublisherStreamState

end BitDemon
