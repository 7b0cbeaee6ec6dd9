import BitDemon.DwServer.Numerals
import BitDemon.DwServer.PublisherRefreshes
import BitDemon.Lobby.Handlers.ContentStreaming

set_option autoImplicit false

/-!
# Links to the streams of a publisher

A client is shown streams over the lobby connection, and fetches them over HTTP
by their links, sooner or later.
-/

namespace BitDemon

open Machine Runs PublisherStreamState

namespace PublisherStreams

abbrev Answered (α : Type) := Except ContentStreamingServiceError α

-- the state of a title, when `read_publisher_streams` has come back with its guard
def stateOf (title : Title) : Fallible PublisherStreams PublisherStreamState := do
  let lock ← get
  if lock.poisoned then panicWith .unwrapOnError else unwrap (lock.states.get title)

def streamById (title : Title) (fileId : UInt64) : Fallible PublisherStreams (Option StreamInfo) := do
  let state ← stateOf title
  pure (state.streamById fileId)

def getPublisherStreamById (session : BdSession) (fileId : UInt64) :
    Fallible PublisherStreams (Answered StreamInfo) := do
  let authentication ← unwrap session.authentication
  let found ← streamById authentication.title fileId
  match found with
  | some stream => pure (Except.ok stream)
  | none => pure (Except.error .noStreamFound)

-- the category is not looked at
def wanted (page : StreamPage) (filter : Option String) (info : StreamInfo) : Bool :=
  decide (page.minDateTime ≤ info.modified) && filter.all (Utf8.startsWith info.filename)

def readPage (session : BdSession) (page : StreamPage) (filter : Option String) :
    Fallible PublisherStreams (Answered (List StreamInfo)) := do
  let authentication ← unwrap session.authentication
  let state ← stateOf authentication.title
  let streamInfo := ((state.streams.filter (wanted page filter)).drop page.itemOffset).take page.itemCount
  if streamInfo.isEmpty then pure (Except.error .noStreamFound) else pure (Except.ok streamInfo)

def listPublisherStreams (session : BdSession) (page : StreamPage) :
    Fallible PublisherStreams (Answered (List StreamInfo)) := readPage session page none

def filterPublisherStreams (session : BdSession) (page : StreamPage) (filter : String) :
    Fallible PublisherStreams (Answered (List StreamInfo)) := readPage session page (some filter)

inductive Shown (lock : PublisherStreams) (session : BdSession) (info : StreamInfo) : Prop where
  | byId (fileId : UInt64)
      (told : (exec (getPublisherStreamById session fileId) lock).1 = .ok (.ok info))
  | listed (page : StreamPage) (streams : List StreamInfo)
      (told : (exec (listPublisherStreams session page) lock).1 = .ok (.ok streams))
      (member : info ∈ streams)
  | filtered (page : StreamPage) (filter : String) (streams : List StreamInfo)
      (told : (exec (filterPublisherStreams session page filter) lock).1 = .ok (.ok streams))
      (member : info ∈ streams)

inductive Download where
  | content (bytes : List UInt8)
  | badRequest | notFound
  deriving DecidableEq

def fileName (titleNum : UInt32) (filename : String) : String :=
  "stream/publisher/" ++ toString titleNum ++ "/" ++ filename

def retrievePublisherFile (disk : String → Option (List UInt8)) (titleNum : UInt32) (streamId : UInt64) :
    Fallible PublisherStreams Download :=
  match Title.fromU32 titleNum with
  | none => pure .badRequest
  | some title => do
    let found ← streamById title streamId
    match found with
    | none => pure .notFound
    | some stream =>
      match disk (fileName titleNum stream.filename) with
      | some bytes => pure (.content bytes)
      | none => pure .notFound

-- `/content/publisher/{title}/{stream_id}`
def publisherRoute (path : List Char) : Option (UInt32 × UInt64) :=
  match path.splitOn '/' with
  | [[], content, publisher, titleNum, streamId] =>
    if content = "content".toList ∧ publisher = "publisher".toList then do
      let titleNum ← parseUnsigned 10 (2 ^ 32) titleNum
      let streamId ← parseUnsigned 10 (2 ^ 64) streamId
      some (UInt32.ofNat titleNum, UInt64.ofNat streamId)
    else none
  | _ => none

-- what is behind the host and the port of a link
def pathIn (link : String) : List Char := (link.toList.drop "http://".toList.length).dropWhile (· ≠ '/')

variable {lock : PublisherStreams} {title : Title} {session : BdSession} {info : StreamInfo}

theorem exec_stateOf {state : PublisherStreamState} (alive : lock.poisoned = false)
    (known : lock.states.get title = some state) : exec (stateOf title) lock = (.ok state, lock) := by
  rw [stateOf, exec_bind_ok _ (exec_get lock), alive, known]
  rfl

theorem state_of_exec_stateOf {state : PublisherStreamState}
    (told : (exec (stateOf title) lock).1 = .ok state) :
    lock.states.get title = some state ∧ exec (stateOf title) lock = (.ok state, lock) := by
  rw [stateOf, exec_bind_ok _ (exec_get lock)] at told ⊢
  split at told
  next => cases told
  next alive =>
    rw [if_neg alive]
    cases known : lock.states.get title with
    | none =>
      rw [known] at told
      cases told
    | some found =>
      rw [known] at told
      obtain rfl := Except.ok.inj told
      exact ⟨rfl, rfl⟩

theorem Shown.there (shown : Shown lock session info) :
    ∃ user state, session.authentication = some user ∧ lock.states.get user.title = some state
      ∧ info ∈ state.streams := by
  have listing {page : StreamPage} {filter : Option String} {streams : List StreamInfo}
      (told : (exec (readPage session page filter) lock).1 = .ok (.ok streams)) (member : info ∈ streams) :
      ∃ user state, session.authentication = some user ∧ lock.states.get user.title = some state
        ∧ info ∈ state.streams := by
    cases signedIn : session.authentication with
    | none =>
      rw [readPage, signedIn] at told
      cases told
    | some user =>
      rw [readPage, signedIn, unwrap_some, pure_bind] at told
      cases had : (exec (stateOf user.title) lock).1 with
      | error fault =>
        rw [exec_bind_error _ (Prod.ext had rfl)] at told
        cases told
      | ok state =>
        obtain ⟨known, ran⟩ := state_of_exec_stateOf had
        rw [exec_bind_ok _ ran] at told
        dsimp only at told
        split at told
        next => cases told
        next =>
          obtain rfl := Except.ok.inj (Except.ok.inj told)
          have kept := List.mem_of_mem_drop (List.mem_of_mem_take member)
          exact ⟨user, state, rfl, known, (List.mem_filter.mp kept).1⟩
  cases shown with
  | listed page streams told member => exact listing told member
  | filtered page filter streams told member => exact listing told member
  | byId fileId told =>
    cases signedIn : session.authentication with
    | none =>
      rw [getPublisherStreamById, signedIn] at told
      cases told
    | some user =>
      rw [getPublisherStreamById, signedIn, unwrap_some, pure_bind, streamById] at told
      cases had : (exec (stateOf user.title) lock).1 with
      | error fault =>
        rw [bind_assoc, exec_bind_error _ (Prod.ext had rfl)] at told
        cases told
      | ok state =>
        obtain ⟨known, ran⟩ := state_of_exec_stateOf had
        rw [bind_assoc, exec_bind_ok _ ran, pure_bind] at told
        cases found : state.streamById fileId with
        | none =>
          rw [found] at told
          cases told
        | some stream =>
          rw [found] at told
          obtain rfl := Except.ok.inj (Except.ok.inj told)
          exact ⟨user, state, rfl, known, List.mem_of_find?_eq_some found⟩

variable {build : VecBuild} {service : DwPublisherContentStreamingService}

def Sound (build : VecBuild) (service : DwPublisherContentStreamingService) (lock : PublisherStreams) : Prop :=
  ∀ title state, lock.states.get title = some state →
    state.title = title ∧ Numbered build service state ∧ (lock.poisoned = false → Ready state)

def Grows (before after : PublisherStreams) : Prop :=
  ∀ title state, before.states.get title = some state →
    ∃ later, after.states.get title = some later ∧ Extends state later

theorem Grows.refl (lock : PublisherStreams) : Grows lock lock :=
  fun _ state known => ⟨state, known, Extends.refl state⟩

theorem Grows.trans {first second third : PublisherStreams} (grows : Grows first second)
    (next : Grows second third) : Grows first third := by
  intro title state known
  obtain ⟨middle, here, extended⟩ := grows title state known
  obtain ⟨later, there, further⟩ := next title middle here
  exact ⟨later, there, extended.trans further⟩

theorem sound_put (sound : Sound build service lock) {after : PublisherStreamState}
    {outcome : Except Fault Unit} (scans : List (Title × Int)) (titled : after.title = title)
    (numbered : Numbered build service after) (ready : outcome = .ok () → Ready after)
    (extended : ∀ state, lock.states.get title = some state → Extends state after) :
    Sound build service (guardedBy outcome { lock with states := lock.states.put title after, scans })
      ∧ Grows lock (guardedBy outcome { lock with states := lock.states.put title after, scans }) := by
  constructor
  · intro other state known
    change (lock.states.put title after).get other = some state at known
    rw [Table.get_put] at known
    split at known
    next same =>
      obtain rfl := Option.some.inj known
      refine ⟨titled.trans same.symm, numbered, fun alive => ready ?_⟩
      have both := (Bool.or_eq_false_iff.mp alive).2
      cases outcome with
      | ok _ => rfl
      | error fault => cases both
    next =>
      obtain ⟨titled, numbered, ready⟩ := sound other state known
      exact ⟨titled, numbered, fun alive => ready (Bool.or_eq_false_iff.mp alive).1⟩
  · intro other state known
    change ∃ later, (lock.states.put title after).get other = some later ∧ Extends state later
    rw [Table.get_put]
    split
    next same =>
      subst same
      exact ⟨after, rfl, extended state known⟩
    next => exact ⟨state, known, Extends.refl state⟩

theorem sound_write (sound : Sound build service lock) (now : Int) (title : Title)
    (directory : Option Directory) :
    Sound build service (exec (writeSection build service now title directory) lock).2
      ∧ Grows lock (exec (writeSection build service now title directory) lock).2 := by
  by_cases held : lock.poisoned = true
  · rw [exec_writeSection_poisoned held]
    exact ⟨sound, Grows.refl lock⟩
  · have free : lock.poisoned = false := by simpa using held
    cases known : lock.states.get title with
    | some state =>
      obtain ⟨titled, numbered, ready⟩ := sound title state known
      cases due : state.refreshNecessary now with
      | false =>
        rw [exec_writeSection_fresh free known due]
        exact ⟨sound, Grows.refl lock⟩
      | true =>
        obtain ⟨merged, fine, extended⟩ := merges_refresh directory state numbered (ready free)
        rw [exec_writeSection_due free known due]
        refine sound_put sound _ (extended.title.trans titled) merged fine ?_
        intro old here
        obtain rfl := Option.some.inj (known.symm.trans here)
        exact extended
    | none =>
      obtain ⟨merged, fine, extended⟩ :=
        merges_refresh directory (new now title) (@numbered_new build service now title) rfl
      rw [exec_writeSection_new free known]
      rcases ran : exec (refresh build service directory) (new now title) with ⟨outcome, after⟩
      rw [ran] at merged fine extended
      cases outcome with
      | ok _ =>
        refine sound_put sound _ extended.title merged fine ?_
        intro old here
        rw [known] at here
        cases here
      | error fault =>
        constructor
        · intro other state found
          obtain ⟨titled, numbered, _⟩ := sound other state found
          exact ⟨titled, numbered, fun alive => by cases (Bool.or_eq_false_iff.mp alive).2⟩
        · exact Grows.refl lock

end PublisherStreams

namespace Callers

open PublisherStreams

variable {build : VecBuild} {service : DwPublisherContentStreamingService}

theorem sound_step {s : Callers} (sound : Sound build service s.lock) (event : Event) :
    Sound build service (step build service s event).lock
      ∧ Grows s.lock (step build service s event).lock := by
  cases event with
  | pass seconds => exact ⟨sound, Grows.refl s.lock⟩
  | call title =>
    rw [(@lock_call build service s title).1]
    exact ⟨sound, Grows.refl s.lock⟩
  | write title directory =>
    by_cases waits : s.waiting title = 0
    · rw [step, if_pos waits]
      exact ⟨sound, Grows.refl s.lock⟩
    · rw [step_write title directory waits]
      exact sound_write sound s.clock title directory

theorem grows_run (events : List Event) {s : Callers} (sound : Sound build service s.lock) :
    Sound build service (run (step build service) s events).lock
      ∧ Grows s.lock (run (step build service) s events).lock := by
  induction events generalizing s with
  | nil => exact ⟨sound, Grows.refl s.lock⟩
  | cons event rest ih =>
    obtain ⟨next, grown⟩ := sound_step sound event
    obtain ⟨last, more⟩ := ih next
    exact ⟨last, grown.trans more⟩

theorem sound_starting (clock : Int) : Sound build service (starting clock).lock := by
  intro title state known
  cases known

end Callers

namespace PublisherStreams

theorem no_slash (n : Nat) : '/' ∉ Nat.toDigits 10 n :=
  DwAuth.not_mem_toDigits (by decide) (by decide) n (by decide)

theorem pathIn_url {service : DwPublisherContentStreamingService}
    (hostname : '/' ∉ service.contentServerHostname.toList) (title : Title) (id : UInt64) :
    pathIn (url service title id) = "/content/publisher/".toList
      ++ (Nat.toDigits 10 title.toU32.toNat ++ '/' :: Nat.toDigits 10 id.toNat) := by
  have digits (n : Nat) : (Nat.repr n).toList = Nat.toDigits 10 n := Nat.toList_repr
  have link : (url service title id).toList = "http://".toList
      ++ ((service.contentServerHostname.toList
        ++ ':' :: Nat.toDigits 10 service.contentServerPort.toNat)
      ++ ("/content/publisher/".toList
        ++ (Nat.toDigits 10 title.toU32.toNat ++ '/' :: Nat.toDigits 10 id.toNat))) := by
    rw [← digits, ← digits, ← digits]
    delta url
    simp only [String.toList_append, List.append_assoc]
    rfl
  have authority : ∀ c ∈ service.contentServerHostname.toList
      ++ ':' :: Nat.toDigits 10 service.contentServerPort.toNat, decide (c ≠ '/') = true := by
    intro c member
    refine decide_eq_true fun slash => ?_
    subst slash
    rcases List.mem_append.mp member with host | port
    · exact hostname host
    · rcases List.mem_cons.mp port with colon | port
      · cases colon
      · exact no_slash _ port
  rw [pathIn, link, List.drop_left, List.dropWhile_append_of_pos authority]
  rfl

theorem publisherRoute_link (title : Title) (id : UInt64) :
    publisherRoute ("/content/publisher/".toList
      ++ (Nat.toDigits 10 title.toU32.toNat ++ '/' :: Nat.toDigits 10 id.toNat))
      = some (title.toU32, id) := by
  have segments : ("/content/publisher/".toList
      ++ (Nat.toDigits 10 title.toU32.toNat ++ '/' :: Nat.toDigits 10 id.toNat)).splitOn '/'
      = [[], "content".toList, "publisher".toList, Nat.toDigits 10 title.toU32.toNat,
        Nat.toDigits 10 id.toNat] := by
    have pieces : "/content/publisher/".toList
        = [] ++ '/' :: ("content".toList ++ '/' :: ("publisher".toList ++ '/' :: [])) := rfl
    rw [pieces]
    simp only [List.append_assoc, List.cons_append, List.nil_append]
    rw [← List.nil_append ('/' :: _), List.splitOn_append_cons_self_of_not_mem (by simp),
      List.splitOn_append_cons_self_of_not_mem (by decide),
      List.splitOn_append_cons_self_of_not_mem (by decide),
      List.splitOn_append_cons_self_of_not_mem (no_slash _), List.splitOn_eq_singleton (no_slash _)]
  have read : parseUnsigned 10 (2 ^ 32) (Nat.toDigits 10 title.toU32.toNat) = some title.toU32.toNat :=
    DwAuth.parseUnsigned_toDigits (by decide) (by decide) title.toU32.toNat_lt
  have readId : parseUnsigned 10 (2 ^ 64) (Nat.toDigits 10 id.toNat) = some id.toNat :=
    DwAuth.parseUnsigned_toDigits (by decide) (by decide) id.toNat_lt
  simp only [publisherRoute, segments, and_self, if_true, read, readId, Option.bind_eq_bind,
    Option.bind_some, UInt32.ofNat_toNat, UInt64.ofNat_toNat]

-- what the file of a stream is answered with
def fileOf (disk : String → Option (List UInt8)) (title : Title) (filename : String) : Download :=
  match disk (fileName title.toU32 filename) with
  | some bytes => .content bytes
  | none => .notFound

theorem exec_retrieve {lock : PublisherStreams} {title : Title} {state : PublisherStreamState}
    {stream : StreamInfo} {build : VecBuild} {service : DwPublisherContentStreamingService}
    (alive : lock.poisoned = false) (known : lock.states.get title = some state)
    (numbered : Numbered build service state) (member : stream ∈ state.streams)
    (disk : String → Option (List UInt8)) :
    (exec (retrievePublisherFile disk title.toU32 stream.id) lock).1
      = .ok (fileOf disk title stream.filename) := by
  have found : state.streamById stream.id = some stream := numbered.streamById_iff.mpr ⟨member, rfl⟩
  rw [retrievePublisherFile, Title.fromU32_toU32]
  dsimp only
  rw [streamById, bind_assoc, exec_bind_ok _ (exec_stateOf alive known), pure_bind, found, fileOf]
  dsimp only
  cases disk (fileName title.toU32 stream.filename) with
  | some bytes => rfl
  | none => rfl

end PublisherStreams

namespace Callers

open PublisherStreams

/--
The link of a stream that a session was once told of leads to the file of that name
ever after, unless the lock is poisoned by a failed scan.
-/
theorem links_lead_home (build : VecBuild) (service : DwPublisherContentStreamingService) (clock : Int)
    (first rest : List Event) (session : BdSession) (info : StreamInfo) (disk : String → Option (List UInt8))
    (hostname : '/' ∉ service.contentServerHostname.toList)
    (shown : Shown (run (step build service) (starting clock) first).lock session info)
    (alive : (run (step build service) (starting clock) (first ++ rest)).lock.poisoned = false) :
    ∃ user id, session.authentication = some user
      ∧ publisherRoute (pathIn info.url) = some (user.title.toU32, id)
      ∧ (exec (retrievePublisherFile disk user.title.toU32 id)
          (run (step build service) (starting clock) (first ++ rest)).lock).1
        = .ok (fileOf disk user.title info.filename) := by
  obtain ⟨user, state, signedIn, known, member⟩ := shown.there
  obtain ⟨sound, _⟩ := @grows_run build service first (starting clock) (sound_starting clock)
  obtain ⟨titled, numbered, _⟩ := sound user.title state known
  obtain ⟨later, grown⟩ := @grows_run build service rest _ sound
  obtain ⟨state', known', extended⟩ := grown user.title state known
  obtain ⟨_, numbered', _⟩ := later user.title state' known'
  obtain ⟨same, here, identical⟩ := extended.kept member
  obtain ⟨id, filename, _⟩ := identity_eq_iff.mp identical
  rw [run_append] at alive ⊢
  refine ⟨user, info.id, signedIn, ?_, ?_⟩
  · rw [numbered.urls info member, titled, pathIn_url hostname, publisherRoute_link]
  · rw [← id, ← filename]
    exact exec_retrieve alive known' numbered' here disk

def patched : Directory := ⟨[⟨some "patch.ff", some ⟨3, some 5, some 5⟩⟩], List.nodup_singleton _⟩

-- another file comes before the patch when it is scanned again
def patchedTwice : Directory :=
  ⟨[⟨some "maps.ff", some ⟨1, some 9, some 9⟩⟩, ⟨some "patch.ff", some ⟨4, some 5, some 9⟩⟩], by decide⟩

theorem links_lead_home_patch :
    ∃ user id, (some ⟨7, "player", [], .t6Pc⟩ : Option SessionAuthentication) = some user
      ∧ publisherRoute (pathIn "http://localhost:8080/content/publisher/18397/1") = some (user.title.toU32, id)
      ∧ (exec (retrievePublisherFile (fun _ => some [1, 2]) user.title.toU32 id)
          (run (step ⟨true, 100, by decide⟩ ⟨"localhost", 8080⟩) (starting 0)
            ([.call .t6Pc, .write .t6Pc (some patched)]
              ++ [.pass 61, .call .t6Pc, .write .t6Pc (some patchedTwice)])).lock).1
        = .ok (fileOf (fun _ => some [1, 2]) user.title "patch.ff") :=
  links_lead_home ⟨true, 100, by decide⟩ ⟨"localhost", 8080⟩ 0 [.call .t6Pc, .write .t6Pc (some patched)]
    [.pass 61, .call .t6Pc, .write .t6Pc (some patchedTwice)] ⟨1, some ⟨7, "player", [], .t6Pc⟩, none⟩
    { id := 1, filename := "patch.ff", title := .t6Pc, streamSize := 3, summaryFileSize := 0, created := 5
      modified := 5, ownerId := 0, ownerName := "", metadata := [], category := 0, slot := 0, tags := []
      url := "http://localhost:8080/content/publisher/18397/1", numCopiesMade := 0, originId := 0 }
    (fun _ => some [1, 2]) (by decide) (.byId 1 (by decide +kernel)) (by decide +kernel)

end Callers

end BitDemon
