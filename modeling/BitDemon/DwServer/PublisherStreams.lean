import BitDemon.DwServer.PublisherFiles

set_option autoImplicit false

/-!
# The streams of a publisher

They are the files of a directory, which is scanned now and then. What a scan
comes upon is merged into what the earlier ones have found.
-/

namespace BitDemon

open Machine

/-- What the streams rely on in the build. -/
structure VecBuild where
  -- overflows are checked
  checks : Bool
  -- how many streams a `Vec` can hold: it never has more than `isize::MAX` bytes
  room : Nat
  room_lt : room < 2 ^ 63

/-- What `fs::read_dir` comes upon, entries that cannot be read left out. -/
structure Directory where
  entries : List DirEntry
  distinct : (entries.filterMap DirEntry.fileName).Nodup

structure DwPublisherContentStreamingService where
  contentServerHostname : String
  contentServerPort : UInt16

structure PublisherStreamState where
  -- in seconds
  lastRefresh : Int
  title : Title
  nextId : UInt64
  streams : List StreamInfo

namespace PublisherStreamState

def stateRefreshSeconds : Int := 60

def new (now : Int) (title : Title) : PublisherStreamState :=
  { lastRefresh := now, title, nextId := 1, streams := [] }

-- `Result::unwrap` and `Result::expect`
def unwrapOk {α : Type} (value : Option α) : Fallible PublisherStreamState α :=
  match value with
  | some a => pure a
  | none => panicWith .unwrapOnError

/-- `self.next_id += 1`, with what it was before. -/
def takeId (build : VecBuild) : Fallible PublisherStreamState UInt64 := do
  let state ← get
  if build.checks && state.nextId == 18446744073709551615 then
    panicWith .addWithOverflow
  else do
    set { state with nextId := state.nextId + 1 }
    pure state.nextId

-- `Vec::push` panics when there is no more room
def push (build : VecBuild) (info : StreamInfo) : Fallible PublisherStreamState Unit := do
  let state ← get
  if state.streams.length < build.room then
    set { state with streams := state.streams ++ [info] }
  else
    panicWith .bufferDoesNotFit

-- `iter_mut().find(..)` gives the first
def modifyFirst (filename : String) (change : StreamInfo → StreamInfo) :
    List StreamInfo → List StreamInfo
  | [] => []
  | stream :: streams =>
    if stream.filename == filename then change stream :: streams
    else stream :: modifyFirst filename change streams

def modifyStream (filename : String) (change : StreamInfo → StreamInfo) :
    Fallible PublisherStreamState Unit :=
  modify fun state => { state with streams := modifyFirst filename change state.streams }

def url (service : DwPublisherContentStreamingService) (title : Title) (id : UInt64) : String :=
  "http://" ++ service.contentServerHostname ++ ":" ++ toString service.contentServerPort
    ++ "/content/publisher/" ++ toString title.toU32 ++ "/" ++ toString id

variable (build : VecBuild) (service : DwPublisherContentStreamingService)

def handleEntry (entry : DirEntry) : Fallible PublisherStreamState Unit := do
  let metadata ← unwrapOk entry.metadata
  let filename ← unwrapOk entry.fileName
  let state ← get
  if state.streams.any fun stream => stream.filename == filename then
    modifyStream filename fun stream => { stream with streamSize := metadata.len }
    let modified ← unwrapOk metadata.modified
    modifyStream filename fun stream => { stream with modified := modified.toInt64 }
  else
    let id ← takeId build
    let created ← unwrapOk metadata.created
    let modified ← unwrapOk metadata.modified
    push build
      { id, filename, title := state.title, streamSize := metadata.len
        created := created.toInt64, modified := modified.toInt64, ownerId := 0, ownerName := ""
        url := url service state.title id, metadata := [], category := 0, slot := 0, tags := []
        numCopiesMade := 0, summaryFileSize := 0, originId := 0 }

def handleEntries : List DirEntry → Fallible PublisherStreamState Unit
  | [] => pure ()
  | entry :: entries => do
    handleEntry build service entry
    handleEntries entries

-- nothing changes where the directory cannot be read
def refresh (directory : Option Directory) : Fallible PublisherStreamState Unit :=
  match directory with
  | some directory => handleEntries build service directory.entries
  | none => pure ()

def refreshes : List (Option Directory) → Fallible PublisherStreamState Unit
  | [] => pure ()
  | directory :: directories => do
    refresh build service directory
    refreshes directories

def streamById (fileId : UInt64) (state : PublisherStreamState) : Option StreamInfo :=
  state.streams.find? fun info => info.id == fileId

def names (state : PublisherStreamState) : List String := state.streams.map StreamInfo.filename

def withChange (filename : String) (change : StreamInfo → StreamInfo)
    (state : PublisherStreamState) : PublisherStreamState :=
  { state with streams := modifyFirst filename change state.streams }

def upToDate (metadata : FileMetadata) (modified : UInt64) (stream : StreamInfo) : StreamInfo :=
  { stream with streamSize := metadata.len, modified := modified.toInt64 }

def withIdTaken (state : PublisherStreamState) : PublisherStreamState :=
  { state with nextId := state.nextId + 1 }

-- a file that has not been come upon before
def newStream (filename : String) (len created modified : UInt64) (state : PublisherStreamState) :
    StreamInfo :=
  { id := state.nextId, filename, title := state.title, streamSize := len
    created := created.toInt64, modified := modified.toInt64, ownerId := 0, ownerName := ""
    url := url service state.title state.nextId, metadata := [], category := 0, slot := 0, tags := []
    numCopiesMade := 0, summaryFileSize := 0, originId := 0 }

def withStream (info : StreamInfo) (state : PublisherStreamState) : PublisherStreamState :=
  { state.withIdTaken with streams := state.streams ++ [info] }

def idsRunOut (state : PublisherStreamState) : Bool :=
  build.checks && state.nextId == 18446744073709551615

variable {build service} {entry : DirEntry} {s t : PublisherStreamState}

theorem exec_unwrapOk {α : Type} (a : α) (s : PublisherStreamState) :
    exec (unwrapOk (some a)) s = (.ok a, s) := rfl

theorem exec_unwrapOk_none {α : Type} (s : PublisherStreamState) :
    exec (unwrapOk (none : Option α)) s = (.error (.panic .unwrapOnError), s) := rfl

theorem exec_takeId (left : idsRunOut build s = false) :
    exec (takeId build) s = (.ok s.nextId, s.withIdTaken) := by
  rw [takeId, exec_bind_ok _ (exec_get s), if_neg (by rw [← idsRunOut, left]; exact Bool.false_ne_true)]
  rfl

theorem exec_takeId_runOut (out : idsRunOut build s = true) :
    exec (takeId build) s = (.error (.panic .addWithOverflow), s) := by
  rw [takeId, exec_bind_ok _ (exec_get s), if_pos (by rw [← idsRunOut, out])]
  rfl

theorem exec_push (info : StreamInfo) (room : s.streams.length < build.room) :
    exec (push build info) s = (.ok (), { s with streams := s.streams ++ [info] }) := by
  rw [push, exec_bind_ok _ (exec_get s), if_pos room]
  rfl

theorem exec_push_full (info : StreamInfo) (full : build.room ≤ s.streams.length) :
    exec (push build info) s = (.error (.panic .bufferDoesNotFit), s) := by
  rw [push, exec_bind_ok _ (exec_get s), if_neg (Nat.not_lt_of_le full)]
  rfl

theorem listed_iff {filename : String} :
    (s.streams.any fun stream => stream.filename == filename) = true ↔ filename ∈ s.names := by
  simp [names]

inductive Handled (build : VecBuild) (service : DwPublisherContentStreamingService)
    (entry : DirEntry) (s : PublisherStreamState) : Except Fault Unit → PublisherStreamState → Prop
  | unread (fault : Fault) :
      entry.metadata = none ∨ entry.fileName = none → Handled build service entry s (.error fault) s
  | changed {filename : String} {metadata : FileMetadata} {modified : UInt64} :
      entry.metadata = some metadata → entry.fileName = some filename →
      metadata.modified = some modified → filename ∈ s.names →
      Handled build service entry s (.ok ()) (s.withChange filename (upToDate metadata modified))
  | resized {filename : String} {metadata : FileMetadata} (fault : Fault) :
      entry.metadata = some metadata → entry.fileName = some filename →
      metadata.modified = none → filename ∈ s.names →
      Handled build service entry s (.error fault) (s.withChange filename fun stream =>
        { stream with streamSize := metadata.len })
  | runOut {filename : String} (fault : Fault) : idsRunOut build s = true →
      entry.fileName = some filename → filename ∉ s.names →
      Handled build service entry s (.error fault) s
  | refused {filename : String} {metadata : FileMetadata} (fault : Fault) :
      entry.metadata = some metadata → entry.fileName = some filename → filename ∉ s.names →
      metadata.created = none ∨ metadata.modified = none ∨ build.room ≤ s.streams.length →
      Handled build service entry s (.error fault) s.withIdTaken
  | added {filename : String} {metadata : FileMetadata} {created modified : UInt64} :
      entry.metadata = some metadata → entry.fileName = some filename →
      metadata.created = some created → metadata.modified = some modified →
      filename ∉ s.names → s.streams.length < build.room →
      Handled build service entry s (.ok ())
        (s.withStream (newStream service filename metadata.len created modified s))

theorem modifyFirst_twice (filename : String) {first second : StreamInfo → StreamInfo}
    (same : ∀ stream, (first stream).filename = stream.filename) (streams : List StreamInfo) :
    modifyFirst filename second (modifyFirst filename first streams)
      = modifyFirst filename (fun stream => second (first stream)) streams := by
  induction streams with
  | nil => rfl
  | cons stream streams ih =>
    by_cases here : stream.filename = filename
    next => simp [modifyFirst, here, same]
    next => simp [modifyFirst, here, ih]

theorem handled (build : VecBuild) (service : DwPublisherContentStreamingService)
    (entry : DirEntry) (s : PublisherStreamState) :
    Handled build service entry s (exec (handleEntry build service entry) s).1
      (exec (handleEntry build service entry) s).2 := by
  cases read : entry.metadata with
  | none =>
    rw [handleEntry, read, exec_bind_error _ (exec_unwrapOk_none s)]
    exact .unread _ (.inl read)
  | some metadata =>
    cases named : entry.fileName with
    | none =>
      rw [handleEntry, read, named, exec_bind_ok _ (exec_unwrapOk metadata s),
        exec_bind_error _ (exec_unwrapOk_none s)]
      exact .unread _ (.inr named)
    | some filename =>
      rw [handleEntry, read, named, exec_bind_ok _ (exec_unwrapOk metadata s),
        exec_bind_ok _ (exec_unwrapOk filename s), exec_bind_ok _ (exec_get s)]
      by_cases listed : filename ∈ s.names
      next =>
        rw [if_pos (listed_iff.mpr listed)]
        cases changed : metadata.modified with
        | none => exact .resized _ read named changed listed
        | some modified =>
          have merged := @modifyFirst_twice filename
            (fun stream => { stream with streamSize := metadata.len })
            (fun stream => { stream with modified := modified.toInt64 }) (fun _ => rfl) s.streams
          have both : exec (do
                modifyStream filename fun stream => { stream with streamSize := metadata.len }
                let modified ← unwrapOk (some modified)
                modifyStream filename fun stream => { stream with modified := modified.toInt64 }) s
              = (.ok (), s.withChange filename (upToDate metadata modified)) := by
            have whole : upToDate metadata modified = fun stream =>
              { stream with streamSize := metadata.len, modified := modified.toInt64 } := rfl
            rw [withChange, whole, ← merged]
            rfl
          rw [both]
          exact .changed read named changed listed
      next =>
        rw [if_neg fun found => listed (listed_iff.mp found)]
        cases out : idsRunOut build s with
        | true =>
          rw [exec_bind_error _ (exec_takeId_runOut out)]
          exact .runOut _ out named listed
        | false =>
          rw [exec_bind_ok _ (exec_takeId out)]
          cases born : metadata.created with
          | none =>
            rw [exec_bind_error _ (exec_unwrapOk_none _)]
            exact .refused _ read named listed (.inl born)
          | some created =>
            rw [exec_bind_ok _ (exec_unwrapOk created _)]
            cases changed : metadata.modified with
            | none =>
              rw [exec_bind_error _ (exec_unwrapOk_none _)]
              exact .refused _ read named listed (.inr (.inl changed))
            | some modified =>
              rw [exec_bind_ok _ (exec_unwrapOk modified _)]
              by_cases room : s.streams.length < build.room
              next =>
                rw [exec_push _ (s := s.withIdTaken) room]
                exact .added read named born changed listed room
              next =>
                rw [exec_push_full _ (s := s.withIdTaken) (Nat.le_of_not_lt room)]
                exact .refused _ read named listed (.inr (.inr (Nat.le_of_not_lt room)))

-- what a client is told to know a stream by
def identity (stream : StreamInfo) : UInt64 × String × String :=
  (stream.id, stream.filename, stream.url)

theorem identity_eq_iff {a b : StreamInfo} :
    identity a = identity b ↔ a.id = b.id ∧ a.filename = b.filename ∧ a.url = b.url := by
  simp [identity]

theorem modifyFirst_map {α : Type} (filename : String) {change : StreamInfo → StreamInfo}
    {view : StreamInfo → α} (same : ∀ stream, view (change stream) = view stream)
    (streams : List StreamInfo) : (modifyFirst filename change streams).map view = streams.map view := by
  induction streams with
  | nil => rfl
  | cons stream streams ih =>
    by_cases here : stream.filename = filename
    next => simp [modifyFirst, here, same]
    next => simp [modifyFirst, here, ih]

structure Numbered (build : VecBuild) (service : DwPublisherContentStreamingService)
    (s : PublisherStreamState) : Prop where
  ids : (s.streams.map fun stream => stream.id.toNat) = List.range' 1 s.streams.length
  names : s.names.Nodup
  room : s.streams.length ≤ build.room
  next : s.streams.length < s.nextId.toNat
  urls : ∀ stream ∈ s.streams, stream.url = url service s.title stream.id

def Ready (s : PublisherStreamState) : Prop := s.nextId.toNat = s.streams.length + 1

structure Extends (s t : PublisherStreamState) : Prop where
  title : t.title = s.title
  lastRefresh : t.lastRefresh = s.lastRefresh
  streams : s.streams.map identity <+: t.streams.map identity

theorem Extends.refl (s : PublisherStreamState) : Extends s s := ⟨rfl, rfl, List.prefix_rfl⟩

theorem Extends.trans {u : PublisherStreamState} (first : Extends s t) (next : Extends t u) :
    Extends s u :=
  ⟨next.title.trans first.title, next.lastRefresh.trans first.lastRefresh,
    first.streams.trans next.streams⟩

def Merges (build : VecBuild) (service : DwPublisherContentStreamingService)
    (m : Fallible PublisherStreamState Unit) : Prop :=
  ∀ s, Numbered build service s → Ready s → Numbered build service (exec m s).2
    ∧ ((exec m s).1 = .ok () → Ready (exec m s).2) ∧ Extends s (exec m s).2

theorem merges_pure : Merges build service (pure ()) :=
  fun s numbered ready => ⟨numbered, fun _ => ready, Extends.refl s⟩

theorem merges_seq {m n : Fallible PublisherStreamState Unit} (first : Merges build service m)
    (next : Merges build service n) : Merges build service (m >>= fun _ => n) := by
  intro s numbered ready
  obtain ⟨here, good, extended⟩ := first s numbered ready
  rw [exec_bind]
  rcases ran : exec m s with ⟨outcome, t⟩
  rw [ran] at here good extended
  cases outcome with
  | ok _ =>
    obtain ⟨after, ready, more⟩ := next t here (good rfl)
    exact ⟨after, ready, extended.trans more⟩
  | error fault => exact ⟨here, (fun ok => by cases ok), extended⟩

theorem length_withChange (s : PublisherStreamState) (filename : String)
    {change : StreamInfo → StreamInfo}
    (named : ∀ stream, (change stream).filename = stream.filename) :
    (s.withChange filename change).streams.length = s.streams.length := by
  have lengths := congrArg List.length (modifyFirst_map filename named s.streams)
  simpa [withChange] using lengths

theorem Ready.withChange (ready : Ready s) (filename : String) {change : StreamInfo → StreamInfo}
    (named : ∀ stream, (change stream).filename = stream.filename) :
    Ready (s.withChange filename change) := by
  rw [Ready, length_withChange s filename named]
  exact ready

theorem Numbered.withChange (numbered : Numbered build service s) (filename : String)
    {change : StreamInfo → StreamInfo}
    (same : ∀ stream, identity (change stream) = identity stream) :
    Numbered build service (s.withChange filename change) := by
  have ids : ∀ stream, (change stream).id.toNat = stream.id.toNat :=
    fun stream => congrArg (fun known => known.1.toNat) (same stream)
  have named : ∀ stream, (change stream).filename = stream.filename :=
    fun stream => congrArg (fun known => known.2.1) (same stream)
  have count := length_withChange s filename named
  constructor
  · rw [count, ← numbered.ids]
    exact modifyFirst_map filename ids s.streams
  · have kept : (s.withChange filename change).names = s.names :=
      modifyFirst_map filename named s.streams
    rw [kept]
    exact numbered.names
  · rw [count]
    exact numbered.room
  · rw [count]
    exact numbered.next
  · have all : ∀ known ∈ (s.withChange filename change).streams.map identity,
        known.2.2 = url service s.title known.1 := by
      rw [show (s.withChange filename change).streams.map identity = s.streams.map identity from
        modifyFirst_map filename same s.streams]
      exact List.forall_mem_map.mpr numbered.urls
    exact List.forall_mem_map.mp all

theorem extends_withChange (s : PublisherStreamState) (filename : String)
    {change : StreamInfo → StreamInfo}
    (same : ∀ stream, identity (change stream) = identity stream) :
    Extends s (s.withChange filename change) := by
  refine ⟨rfl, rfl, ?_⟩
  rw [show (s.withChange filename change).streams.map identity = s.streams.map identity from
    modifyFirst_map filename same s.streams]

theorem Numbered.next_toNat (numbered : Numbered build service s) (ready : Ready s) :
    s.withIdTaken.nextId.toNat = s.streams.length + 2 := by
  have room := numbered.room
  have bound := build.room_lt
  rw [Ready] at ready
  rw [withIdTaken, UInt64.toNat_add, ready, show (1 : UInt64).toNat = 1 from rfl]
  exact Nat.mod_eq_of_lt (by omega)

theorem Numbered.withIdTaken (numbered : Numbered build service s) (ready : Ready s) :
    Numbered build service s.withIdTaken := by
  refine ⟨numbered.ids, numbered.names, numbered.room, ?_, numbered.urls⟩
  rw [numbered.next_toNat ready]
  exact Nat.lt_add_of_pos_right Nat.two_pos

theorem Numbered.withStream (numbered : Numbered build service s) (ready : Ready s)
    {filename : String} (len created modified : UInt64) (fresh : filename ∉ s.names)
    (room : s.streams.length < build.room) :
    Numbered build service
      (s.withStream (newStream service filename len created modified s)) := by
  constructor
  · have last : s.nextId.toNat = 1 + s.streams.length := by rw [ready, Nat.add_comm]
    simp [PublisherStreamState.withStream, newStream, numbered.ids, List.range'_1_concat, last]
  · have named : (s.withStream (newStream service filename len created modified s)).names
        = s.names ++ [filename] := by
      simp [PublisherStreamState.withStream, PublisherStreamState.names, newStream]
    rw [named, List.nodup_append]
    refine ⟨numbered.names, List.nodup_singleton filename, ?_⟩
    intro other member same one equal
    rw [List.mem_singleton.mp one] at equal
    exact fresh (equal ▸ member)
  · simpa [PublisherStreamState.withStream] using Nat.succ_le_of_lt room
  · have next := numbered.next_toNat ready
    simp only [PublisherStreamState.withStream, List.length_append, List.length_singleton, next]
    omega
  · intro stream member
    rcases List.mem_append.mp member with earlier | new
    · exact numbered.urls stream earlier
    · rw [List.mem_singleton.mp new]
      rfl

theorem merges_handleEntry (entry : DirEntry) :
    Merges build service (handleEntry build service entry) := by
  intro s numbered ready
  have came := handled build service entry s
  rcases ran : exec (handleEntry build service entry) s with ⟨outcome, t⟩
  rw [ran] at came
  cases came with
  | unread _ _ => exact ⟨numbered, (fun ok => by cases ok), Extends.refl _⟩
  | runOut _ _ _ _ => exact ⟨numbered, (fun ok => by cases ok), Extends.refl _⟩
  | changed _ _ _ _ =>
    exact ⟨numbered.withChange _ fun _ => rfl, fun _ => ready.withChange _ fun _ => rfl,
      extends_withChange s _ fun _ => rfl⟩
  | resized _ _ _ _ _ =>
    exact ⟨numbered.withChange _ fun _ => rfl, (fun ok => by cases ok),
      extends_withChange s _ fun _ => rfl⟩
  | refused _ _ _ _ _ =>
    exact ⟨numbered.withIdTaken ready, (fun ok => by cases ok), rfl, rfl, List.prefix_rfl⟩
  | added _ _ _ _ fresh room =>
    refine ⟨numbered.withStream ready _ _ _ fresh room, fun _ => ?_, rfl, rfl, ?_⟩
    · rw [Ready]
      simpa [withStream] using numbered.next_toNat ready
    · simp

theorem merges_handleEntries (entries : List DirEntry) :
    Merges build service (handleEntries build service entries) := by
  induction entries with
  | nil => exact merges_pure
  | cons entry entries ih => exact merges_seq (merges_handleEntry entry) ih

theorem merges_refresh (directory : Option Directory) :
    Merges build service (refresh build service directory) := by
  cases directory with
  | none => exact merges_pure
  | some directory => exact merges_handleEntries directory.entries

theorem merges_refreshes (directories : List (Option Directory)) :
    Merges build service (refreshes build service directories) := by
  induction directories with
  | nil => exact merges_pure
  | cons directory directories ih => exact merges_seq (merges_refresh directory) ih

theorem refreshes_append (first later : List (Option Directory)) :
    refreshes build service (first ++ later)
      = (refreshes build service first >>= fun _ => refreshes build service later) := by
  induction first with
  | nil => simp [refreshes]
  | cons directory first ih => simp [refreshes, ih]

def reached (build : VecBuild) (service : DwPublisherContentStreamingService) (now : Int)
    (title : Title) (directories : List (Option Directory)) : PublisherStreamState :=
  (exec (refreshes build service directories) (new now title)).2

structure StableIds (s t : PublisherStreamState) : Prop where
  distinctIds : (s.streams.map StreamInfo.id).Nodup
  belowNext : ∀ stream ∈ s.streams, stream.id < s.nextId
  distinctNames : s.names.Nodup
  kept : ∀ stream ∈ s.streams, ∃ later ∈ t.streams, identity later = identity stream
  sameFile : ∀ stream ∈ s.streams, ∀ later ∈ t.streams,
    later.id = stream.id ↔ later.filename = stream.filename
  sameUrl : ∀ stream ∈ s.streams, ∀ later ∈ t.streams,
    later.url = stream.url ↔ later.filename = stream.filename
  lookedUp : ∀ fileId stream, streamById fileId s = some stream →
    ∃ later, streamById fileId t = some later ∧ identity later = identity stream

theorem numbered_new (now : Int) (title : Title) : Numbered build service (new now title) where
  ids := rfl
  names := List.nodup_nil
  room := Nat.zero_le _
  next := Nat.one_pos
  urls _ member := by cases member

theorem url_inj {title : Title} {a b : UInt64} (same : url service title a = url service title b) :
    a = b := by
  delta url at same
  have letters := congrArg String.toList same
  simp only [String.toList_append, List.append_cancel_left_eq] at letters
  change (Nat.repr a.toNat).toList = (Nat.repr b.toNat).toList at letters
  rw [Nat.toList_repr, Nat.toList_repr] at letters
  have digits := congrArg (Nat.ofDigitChars 10 · 0) letters
  simp at digits
  exact UInt64.toNat_inj.mp digits

theorem Numbered.distinctIds (numbered : Numbered build service s) :
    (s.streams.map StreamInfo.id).Nodup := by
  have numbers : ((s.streams.map StreamInfo.id).map UInt64.toNat).Nodup := by
    rw [List.map_map]
    exact (congrArg List.Nodup numbered.ids).mpr List.nodup_range'
  exact numbers.of_map UInt64.toNat

theorem Numbered.belowNext (numbered : Numbered build service s) {stream : StreamInfo}
    (member : stream ∈ s.streams) : stream.id < s.nextId := by
  have number : stream.id.toNat ∈ List.range' 1 s.streams.length := by
    rw [← numbered.ids]
    exact List.mem_map_of_mem member
  have below := (List.mem_range'_1.mp number).2
  have next := numbered.next
  exact UInt64.lt_iff_toNat_lt.mpr (by omega)

theorem Extends.kept (extended : Extends s t) {stream : StreamInfo} (member : stream ∈ s.streams) :
    ∃ later ∈ t.streams, identity later = identity stream :=
  List.mem_map.mp (extended.streams.subset (List.mem_map_of_mem member))

theorem Numbered.eq_iff_id (numbered : Numbered build service s) {stream other : StreamInfo}
    (member : stream ∈ s.streams) (present : other ∈ s.streams) :
    stream.id = other.id ↔ stream = other :=
  ⟨List.inj_on_of_nodup_map numbered.distinctIds member present, congrArg StreamInfo.id⟩

theorem Numbered.eq_iff_filename (numbered : Numbered build service s) {stream other : StreamInfo}
    (member : stream ∈ s.streams) (present : other ∈ s.streams) :
    stream.filename = other.filename ↔ stream = other :=
  ⟨List.inj_on_of_nodup_map numbered.names member present, congrArg StreamInfo.filename⟩

theorem Numbered.eq_iff_url (numbered : Numbered build service s) {stream other : StreamInfo}
    (member : stream ∈ s.streams) (present : other ∈ s.streams) :
    stream.url = other.url ↔ stream = other := by
  constructor
  · intro same
    rw [numbered.urls stream member, numbered.urls other present] at same
    exact (numbered.eq_iff_id member present).mp (url_inj same)
  · exact congrArg StreamInfo.url

theorem Numbered.streamById_iff (numbered : Numbered build service s) {fileId : UInt64}
    {stream : StreamInfo} :
    streamById fileId s = some stream ↔ stream ∈ s.streams ∧ stream.id = fileId := by
  constructor
  · intro found
    exact ⟨List.mem_of_find?_eq_some found, by simpa using List.find?_some found⟩
  · intro ⟨member, same⟩
    cases found : streamById fileId s with
    | none => exact absurd (List.find?_eq_none.mp found stream member) (by simp [same])
    | some other =>
      have id : other.id = fileId := by simpa using List.find?_some found
      have equal := numbered.eq_iff_id (List.mem_of_find?_eq_some found) member
      rw [equal.mp (id.trans same.symm)]

theorem stableIds_of_extends (before : Numbered build service s) (after : Numbered build service t)
    (extended : Extends s t) : StableIds s t := by
  constructor
  · exact before.distinctIds
  · exact fun stream member => before.belowNext member
  · exact before.names
  · exact fun stream member => extended.kept member
  · intro stream member later present
    obtain ⟨same, here, known⟩ := extended.kept member
    obtain ⟨id, filename, _⟩ := identity_eq_iff.mp known
    rw [← id, ← filename, after.eq_iff_id present here, after.eq_iff_filename present here]
  · intro stream member later present
    obtain ⟨same, here, known⟩ := extended.kept member
    obtain ⟨_, filename, url⟩ := identity_eq_iff.mp known
    rw [← url, ← filename, after.eq_iff_url present here, after.eq_iff_filename present here]
  · intro fileId stream found
    obtain ⟨member, id⟩ := before.streamById_iff.mp found
    obtain ⟨same, here, known⟩ := extended.kept member
    exact ⟨same, after.streamById_iff.mpr ⟨here, (identity_eq_iff.mp known).1.trans id⟩, known⟩

theorem numbered_reached (build : VecBuild) (service : DwPublisherContentStreamingService)
    (now : Int) (title : Title) (directories : List (Option Directory)) :
    Numbered build service (reached build service now title directories) :=
  (merges_refreshes directories _ (numbered_new now title) rfl).1

theorem extends_reached (build : VecBuild) (service : DwPublisherContentStreamingService)
    (now : Int) (title : Title) (directories later : List (Option Directory)) :
    Extends (reached build service now title directories)
      (reached build service now title (directories ++ later)) := by
  have merged := merges_refreshes directories _ (@numbered_new build service now title) rfl
  rw [reached, reached, refreshes_append, exec_bind]
  rcases ran : exec (refreshes build service directories) (new now title) with ⟨outcome, s⟩
  rw [ran] at merged
  obtain ⟨numbered, ready, _⟩ := merged
  cases outcome with
  | ok _ => exact (merges_refreshes later s numbered (ready rfl)).2.2
  | error fault => exact Extends.refl s

/-- Refreshes give no id to another file, and no file another id. -/
theorem ids_stable (build : VecBuild) (service : DwPublisherContentStreamingService) (now : Int)
    (title : Title) (directories later : List (Option Directory)) :
    StableIds (reached build service now title directories)
      (reached build service now title (directories ++ later)) :=
  stableIds_of_extends (numbered_reached build service now title directories)
    (numbered_reached build service now title (directories ++ later))
    (extends_reached build service now title directories later)

end PublisherStreamState

end BitDemon
