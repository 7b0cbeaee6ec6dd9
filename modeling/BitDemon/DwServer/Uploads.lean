import BitDemon.DwServer.RecordingNames
import BitDemon.Library.Directory
import BitDemon.Library.Runs

set_option autoImplicit false

/-!
# Overlapping uploads of recordings

An upload goes to a part first, which takes its place among the recordings at the
end. Every call of the file system is a step of its own, and each can fail. A write
is carried through behind the scenes: that it has failed is told to the next one.
-/

namespace BitDemon

open Directory

namespace Recording

-- what is written gathers in the order it is written in
def logDisk : Disk (List UInt8) where
  create := some []
  writeAll file out := some (file ++ out)
  syncAll file := some file

section Source

variable {δ ε φ : Type} (zstd : Zstd δ ε)

def Storing.left (s : Storing δ ε φ) : Except StatusCode (List UInt8) :=
  if !s.head.complete then
    .error .unprocessableEntity
  else
    match s.encoder with
    | some encoder => internal (zstd.finish encoder)
    | none => .ok []

def recorded (body : List (Option (List UInt8))) (encoding : Encoding) :
    Except StatusCode (List UInt8) := do
  let start ← Storing.start zstd logDisk encoding
  let last ← body.foldlM (Storing.chunk zstd logDisk) start
  let out ← last.left zstd
  .ok (last.file ++ out)

structure Upload where
  name : String
  encoding : Encoding
  body : List (Option (List UInt8))

/-- In a call that fails only the first bytes are written. -/
structure Failure where
  after : Nat
  -- a write of more than one buffer is told by its own next buffer
  told : Bool

-- `lost`: the last write has failed, which nobody was told
inductive Phase (δ ε : Type) where
  | admitted
  | writing (file : FileId) (storing : Storing δ ε (List UInt8)) (rest : List (Option (List UInt8)))
      (lost : Bool)
  | stored (lost : Bool)
  | failed (status : StatusCode)
  | answered (answer : Answer) (lost : Bool)
  -- the part is left: it could not be removed, or nobody waits for an answer
  | abandoned (status : Option StatusCode) (lost : Bool)

namespace Phase

variable {δ ε : Type}

def isRunning : Phase δ ε → Bool
  | .answered _ _ | .abandoned _ _ => false
  | _ => true

def lost : Phase δ ε → Bool
  | .writing _ _ _ lost | .stored lost | .answered _ lost | .abandoned _ lost => lost
  | .admitted | .failed _ => false

end Phase

/-- `write_all`; `none` is its error, of this write or of the last one. -/
def writeAll (files : Files String) (file : FileId) (offset : Nat) (out : List UInt8) (lost : Bool)
    (fails : Option Failure) : Files String × Option Bool :=
  if out = [] then
    (files, some lost)
  else if lost then
    (files, none)
  else
    match fails with
    | some failure =>
      (files.write file offset (out.take failure.after), if failure.told then none else some true)
    | none => (files.write file offset out, some false)

def Upload.next (u : Upload) (files : Files String) (fails : Option Failure) :
    Phase δ ε → Files String × Phase δ ε
  | .admitted =>
    match fails with
    | some _ => (files, .failed .internalServerError)
    | none =>
      let (file, files) := files.create (partName u.name)
      match Storing.start zstd logDisk u.encoding with
      | .error status => (files, .failed status)
      | .ok storing => (files, .writing file storing u.body false)
  | .writing file storing (chunk :: rest) lost =>
    match storing.chunk zstd logDisk chunk with
    | .error status => (files, .failed status)
    | .ok next =>
      let offset := storing.file.length
      match writeAll files file offset (next.file.drop offset) lost fails with
      | (files, some lost) => (files, .writing file next rest lost)
      | (files, none) => (files, .failed .internalServerError)
  | .writing file storing [] lost =>
    match storing.left zstd with
    | .error status => (files, .failed status)
    | .ok out =>
      match writeAll files file storing.file.length out lost fails with
      | (files, some lost) => (files, .stored lost)
      | (files, none) => (files, .failed .internalServerError)
  -- `sync_all` waits for the last write and keeps its error to itself
  | .stored lost =>
    match fails with
    | some _ => (files, .failed .internalServerError)
    | none =>
      match files.rename (partName u.name) u.name with
      | some files => (files, .answered .created lost)
      | none => (files, .failed .internalServerError)
  | .failed status =>
    match fails with
    | some _ => (files, .abandoned (some status) false)
    | none => (files.remove (partName u.name), .answered (.refused status) false)
  | .answered answer lost => (files, .answered answer lost)
  | .abandoned status lost => (files, .abandoned status lost)

structure Server (δ ε : Type) where
  files : Files String
  uploads : Table Nat (Upload × Phase δ ε)

inductive Event where
  | arrive (id : Nat) (headers : HeaderMap) (nonce : UInt32) (body : List (Option (List UInt8)))
  | advance (id : Nat) (fails : Option Failure)
  -- the connection is gone and the handler with it, but a call that was begun is carried through
  | drop (id : Nat) (begun : Option (Option Failure))

namespace Server

def started : Server δ ε := { files := .empty, uploads := ∅ }

def moved (s : Server δ ε) (files : Files String) (id : Nat) (u : Upload) (phase : Phase δ ε) :
    Server δ ε := { files, uploads := s.uploads.put id (u, phase) }

def step (s : Server δ ε) : Event → Server δ ε
  | .arrive id headers nonce body =>
    match s.uploads.get id, readHeaders headers with
    | none, .ok (found, encoding) =>
      s.moved s.files id ⟨fileName found nonce, encoding, body⟩ .admitted
    | _, _ => s
  | .advance id fails =>
    match s.uploads.get id with
    | none => s
    | some (u, phase) =>
      if phase.isRunning then
        let (files, phase) := u.next zstd s.files fails phase
        s.moved files id u phase
      else
        s
  | .drop id begun =>
    match s.uploads.get id with
    | none => s
    | some (u, phase) =>
      if phase.isRunning then
        let (files, phase) := match begun with
          | some fails => u.next zstd s.files fails phase
          | none => (s.files, phase)
        s.moved files id u (.abandoned none phase.lost)
      else
        s

abbrev after (events : List Event) : Server δ ε := Runs.run (step zstd) started events

def FreshName (s : Server δ ε) : Event → Prop
  | .arrive _ headers nonce _ =>
    ∀ found encoding, readHeaders headers = .ok (found, encoding) →
      ∀ id u phase, s.uploads.get id = some (u, phase) → phase.isRunning = true →
        u.name ≠ fileName found nonce
  | .advance _ _ | .drop _ _ => True

end Server

end Source

section Store

variable {δ ε : Type} {zstd : Zstd δ ε} {body : List (Option (List UInt8))} {encoding : Encoding}

theorem chunk_log {s next : Storing δ ε (List UInt8)} {chunk : Option (List UInt8)}
    (ran : s.chunk zstd logDisk chunk = .ok next) :
    ∃ out, next.file = s.file ++ out ∧ next.stored = s.stored + out.length := by
  cases chunk with
  | none => cases ran
  | some chunk =>
    simp only [Storing.chunk, bind, Except.bind] at ran
    split at ran
    next => cases ran
    next =>
      split at ran
      next => cases ran
      next head fed =>
        split at ran
        next => cases ran
        next out packed =>
          obtain rfl := Except.ok.inj ran
          exact ⟨out.1, rfl, rfl⟩

theorem chunks_log (chunks : List (Option (List UInt8))) {s last : Storing δ ε (List UInt8)}
    (counted : s.stored = s.file.length) (ran : chunks.foldlM (Storing.chunk zstd logDisk) s = .ok last) :
    last.stored = last.file.length := by
  induction chunks generalizing s with
  | nil =>
    obtain rfl := Except.ok.inj ran
    exact counted
  | cons chunk chunks ih =>
    rw [List.foldlM_cons] at ran
    cases first : s.chunk zstd logDisk chunk with
    | error status =>
      rw [first] at ran
      cases ran
    | ok next =>
      rw [first] at ran
      obtain ⟨out, file, stored⟩ := chunk_log first
      have counted' : next.stored = next.file.length := by
        rw [file, stored, counted, List.length_append]
      exact ih counted' ran

theorem start_log {start : Storing δ ε (List UInt8)}
    (began : Storing.start zstd logDisk encoding = .ok start) : start.file = [] ∧ start.stored = 0 := by
  cases encoding with
  | identity =>
    cases made : zstd.newEncoder level with
    | none => simp [Storing.start, Head.new, logDisk, internal, made, bind, Except.bind] at began
    | some encoder =>
      simp only [Storing.start, Head.new, logDisk, internal, made, bind, Except.bind] at began
      obtain rfl := Except.ok.inj began
      exact ⟨rfl, rfl⟩
  | zstd =>
    cases made : zstd.newDecoder with
    | none => simp [Storing.start, Head.new, logDisk, internal, made, bind, Except.bind] at began
    | some decoder =>
      simp only [Storing.start, Head.new, logDisk, internal, made, bind, Except.bind] at began
      obtain rfl := Except.ok.inj began
      exact ⟨rfl, rfl⟩

theorem finish_eq (s : Storing δ ε (List UInt8)) (counted : s.stored = s.file.length) :
    s.finish zstd logDisk = (s.left zstd).map fun out => (s.file ++ out).length := by
  cases full : s.head.complete with
  | false => simp [Storing.finish, Storing.left, full, Except.map]
  | true =>
    cases packing : s.encoder with
    | none =>
      simp [Storing.finish, Storing.left, full, packing, logDisk, internal, Except.map, counted, bind,
        Except.bind]
    | some encoder =>
      cases ended : zstd.finish encoder with
      | none =>
        simp [Storing.finish, Storing.left, full, packing, ended, internal, Except.map, bind,
          Except.bind]
      | some out =>
        simp [Storing.finish, Storing.left, full, packing, ended, logDisk, internal, Except.map, counted,
          bind, Except.bind]

theorem store_eq (zstd : Zstd δ ε) (body : List (Option (List UInt8))) (encoding : Encoding) :
    store zstd logDisk body encoding = (recorded zstd body encoding).map List.length := by
  rw [store, recorded]
  cases began : Storing.start zstd logDisk encoding with
  | error status => rfl
  | ok start =>
    change (body.foldlM (Storing.chunk zstd logDisk) start >>= _)
      = Except.map _ (body.foldlM (Storing.chunk zstd logDisk) start >>= _)
    obtain ⟨file, stored⟩ := start_log began
    cases ran : body.foldlM (Storing.chunk zstd logDisk) start with
    | error status => rfl
    | ok last =>
      have counted := chunks_log body (by rw [file, stored]; rfl) ran
      change last.finish zstd logDisk = Except.map _ (last.left zstd >>= _)
      rw [finish_eq last counted]
      cases last.left zstd with
      | error status => rfl
      | ok out => rfl

theorem recorded_of_left {start last : Storing δ ε (List UInt8)} {out : List UInt8}
    (began : Storing.start zstd logDisk encoding = .ok start)
    (ran : body.foldlM (Storing.chunk zstd logDisk) start = .ok last) (ended : last.left zstd = .ok out) :
    recorded zstd body encoding = .ok (last.file ++ out) := by
  simp [recorded, began, ran, ended, bind, Except.bind]

end Store

section Upload

variable {δ ε : Type} {zstd : Zstd δ ε} {u : Upload} {files next : Files String} {phase : Phase δ ε}

/-- What is in a file is all that was to be written, or the beginning of it if a write is lost. -/
structure Copied (lost : Bool) (content whole : List UInt8) : Prop where
  begins : content <+: whole
  intact : lost = false → content = whole

theorem keeps_writeAll {name : String} {file : FileId} {offset : Nat} {out : List UInt8} {lost : Bool}
    {fails : Option Failure} (named : files.names.get name = some file) :
    Keeps (· = name) files (writeAll files file offset out lost fails).1 := by
  unfold writeAll
  split
  next => exact Keeps.refl _ files
  next =>
    split
    next => exact Keeps.refl _ files
    next => cases fails <;> exact keeps_write named

theorem names_writeAll {file : FileId} {offset : Nat} {out : List UInt8} {lost : Bool}
    {fails : Option Failure} : (writeAll files file offset out lost fails).1.names = files.names := by
  unfold writeAll
  split
  next => rfl
  next =>
    split
    next => rfl
    next => cases fails <;> rfl

theorem Copied.writeAll {file : FileId} {whole out : List UInt8} {lost later : Bool}
    {fails : Option Failure} (copied : Copied lost (files.content file) whole)
    (wrote : writeAll files file whole.length out lost fails = (next, some later)) :
    Copied later (next.content file) (whole ++ out) := by
  unfold Recording.writeAll at wrote
  split at wrote
  next empty =>
    obtain ⟨rfl, same⟩ := Prod.mk.inj wrote
    obtain rfl := Option.some.inj same
    rw [empty, List.append_nil]
    exact copied
  next =>
    split at wrote
    next => cases (Prod.mk.inj wrote).2
    next kept =>
      have content := copied.intact (Bool.eq_false_iff.mpr kept)
      cases fails with
      | none =>
        obtain ⟨rfl, same⟩ := Prod.mk.inj wrote
        obtain rfl := Option.some.inj same
        have written : (files.write file whole.length out).content file = whole ++ out := by
          rw [Files.content_write_self, content, Files.writtenAt_end]
        exact ⟨by rw [written], fun _ => written⟩
      | some failure =>
        obtain ⟨rfl, same⟩ := Prod.mk.inj wrote
        split at same
        next => cases same
        next =>
          obtain rfl := Option.some.inj same
          constructor
          · rw [Files.content_write_self, content, Files.writtenAt_end]
            exact (List.prefix_append_right_inj whole).mpr (List.take_prefix _ out)
          · intro told
            cases told

inductive Holds (zstd : Zstd δ ε) (files : Files String) (u : Upload) : Phase δ ε → Prop where
  | admitted : Holds zstd files u .admitted
  | writing {file : FileId} {start storing : Storing δ ε (List UInt8)}
      {rest : List (Option (List UInt8))} {lost : Bool} (front : List (Option (List UInt8)))
      (named : files.names.get (partName u.name) = some file)
      (copied : Copied lost (files.content file) storing.file)
      (body : u.body = front ++ rest)
      (began : Storing.start zstd logDisk u.encoding = .ok start)
      (ran : front.foldlM (Storing.chunk zstd logDisk) start = .ok storing) :
      Holds zstd files u (.writing file storing rest lost)
  | stored {content whole : List UInt8} {lost : Bool}
      (held : files.read (partName u.name) = some content) (copied : Copied lost content whole)
      (all : recorded zstd u.body u.encoding = .ok whole) : Holds zstd files u (.stored lost)
  | failed (status : StatusCode) : Holds zstd files u (.failed status)
  | answered (answer : Answer) (lost : Bool) : Holds zstd files u (.answered answer lost)
  | abandoned (status : Option StatusCode) (lost : Bool) : Holds zstd files u (.abandoned status lost)

theorem Holds.kept {own : String → Prop} (keeps : Keeps own files next) (other : ¬own (partName u.name))
    (holds : Holds zstd files u phase) : Holds zstd next u phase := by
  cases holds with
  | admitted => exact .admitted
  | writing front named copied body began ran =>
    refine .writing _ ?_ ?_ body began ran
    · rw [keeps.names _ other, named]
    · rw [keeps.content _ _ other named]
      exact copied
  | stored held copied all => exact .stored (by rw [keeps.read other, held]) copied all
  | failed status => exact .failed status
  | answered answer lost => exact .answered answer lost
  | abandoned status lost => exact .abandoned status lost

def Phase.created : Phase δ ε → Bool
  | .answered .created _ => true
  | _ => false

def Placed (zstd : Zstd δ ε) (u : Upload) (next : Files String) (phase : Phase δ ε) : Prop :=
  ∃ content whole, next.read u.name = some content ∧ Copied phase.lost content whole
    ∧ recorded zstd u.body u.encoding = .ok whole

structure Advanced (zstd : Zstd δ ε) (u : Upload) (files next : Files String) (phase : Phase δ ε) :
    Prop where
  keeps : Keeps (fun name => name = partName u.name ∨ name = u.name) files next
  holds : Holds zstd next u phase
  cleared : ∀ answer lost, phase = .answered answer lost → next.read (partName u.name) = none
  placed : next.read u.name = files.read u.name ∧ phase.created = false
    ∨ (∃ lost, phase = .answered .created lost ∨ phase = .abandoned none lost)
      ∧ Placed zstd u next phase

theorem Advanced.of_part (apart : u.name ≠ partName u.name) (keeps : Keeps (· = partName u.name) files next)
    (holds : Holds zstd next u phase)
    (cleared : ∀ answer lost, phase = .answered answer lost → next.read (partName u.name) = none)
    (open' : phase.created = false) : Advanced zstd u files next phase where
  keeps := ⟨fun name other => keeps.names name (not_or.mp other).1,
    fun name file other => keeps.content name file (not_or.mp other).1⟩
  holds := holds
  cleared := cleared
  placed := .inl ⟨keeps.read apart, open'⟩

theorem Advanced.still_running (apart : u.name ≠ partName u.name)
    (keeps : Keeps (· = partName u.name) files next) (holds : Holds zstd next u phase)
    (running : phase.isRunning = true) : Advanced zstd u files next phase := by
  refine .of_part apart keeps holds (fun answer lost same => ?_) ?_
  · rw [same] at running
    cases running
  · cases phase with
    | answered => cases running
    | _ => rfl

theorem advanced_failed (apart : u.name ≠ partName u.name) (keeps : Keeps (· = partName u.name) files next)
    (status : StatusCode) : Advanced zstd u files next (.failed status) :=
  .still_running apart keeps (.failed status) rfl

theorem advanced_writeAll (apart : u.name ≠ partName u.name) {file : FileId} {offset : Nat}
    {out whole : List UInt8} {lost : Bool} {fails : Option Failure} {later : Bool → Phase δ ε}
    (named : files.names.get (partName u.name) = some file) (length : whole.length = offset)
    (copied : Copied lost (files.content file) whole)
    (goes : ∀ next lost, next.names.get (partName u.name) = some file →
      Copied lost (next.content file) (whole ++ out) →
      Holds zstd next u (later lost) ∧ (later lost).isRunning = true) :
    Advanced zstd u files
      (match writeAll files file offset out lost fails with
        | (files, some lost) => (files, later lost)
        | (files, none) => (files, .failed .internalServerError)).1
      (match writeAll files file offset out lost fails with
        | (files, some lost) => (files, later lost)
        | (files, none) => (files, .failed .internalServerError)).2 := by
  subst length
  have keeps : Keeps (· = partName u.name) files
      (writeAll files file whole.length out lost fails).1 := keeps_writeAll named
  have names : (writeAll files file whole.length out lost fails).1.names = files.names := names_writeAll
  cases wrote : writeAll files file whole.length out lost fails with
  | mk next result =>
    rw [wrote] at keeps names
    cases result with
    | none => exact advanced_failed apart keeps _
    | some lost =>
      obtain ⟨holds, running⟩ := goes next lost (by rw [names, named]) (copied.writeAll wrote)
      exact .still_running apart keeps holds running

theorem advanced_next (apart : u.name ≠ partName u.name) (running : phase.isRunning = true)
    (holds : Holds zstd files u phase) (fails : Option Failure) :
    Advanced zstd u files (u.next zstd files fails phase).1 (u.next zstd files fails phase).2 := by
  cases holds with
  | answered | abandoned => cases running
  | admitted =>
    cases fails with
    | some failure => exact advanced_failed apart (Keeps.refl _ files) _
    | none =>
      rw [Upload.next]
      cases began : Storing.start zstd logDisk u.encoding with
      | error status => exact advanced_failed apart keeps_create status
      | ok storing =>
        have empty : (files.create (partName u.name)).2.content (files.create (partName u.name)).1
            = storing.file := by rw [Files.content_create_self, (start_log began).1]
        refine .still_running apart keeps_create ?_ rfl
        refine .writing [] Files.get_create_self ⟨?_, fun _ => empty⟩ (List.nil_append u.body).symm began rfl
        rw [empty]
  | @writing file start storing rest lost front named copied body began ran =>
    cases rest with
    | nil =>
      rw [Upload.next]
      cases ended : storing.left zstd with
      | error status => exact advanced_failed apart (Keeps.refl _ files) status
      | ok out =>
        have whole : front.foldlM (Storing.chunk zstd logDisk) start = .ok storing := ran
        rw [← List.append_nil front, ← body] at whole
        refine advanced_writeAll apart named rfl copied fun next lost held sofar => ⟨?_, rfl⟩
        refine .stored ?_ sofar (recorded_of_left began whole ended)
        rw [Files.read, held, Option.map_some]
    | cons chunk rest =>
      rw [Upload.next]
      cases fed : storing.chunk zstd logDisk chunk with
      | error status => exact advanced_failed apart (Keeps.refl _ files) status
      | ok later =>
        obtain ⟨out, grown, _⟩ := chunk_log fed
        have more : later.file.drop storing.file.length = out := by rw [grown, List.drop_left]
        dsimp only
        rw [more]
        refine advanced_writeAll apart named rfl copied fun next lost held sofar => ⟨?_, rfl⟩
        refine .writing (front ++ [chunk]) held ?_ (by rw [body, List.append_assoc]; rfl) began ?_
        · rw [grown]
          exact sofar
        · rw [List.foldlM_append, ran]
          change ([chunk].foldlM (Storing.chunk zstd logDisk) storing) = _
          rw [List.foldlM_cons, fed]
          rfl
  | @stored content whole lost held copied all =>
    cases fails with
    | some failure => exact advanced_failed apart (Keeps.refl _ files) _
    | none =>
      rw [Upload.next]
      cases moved : files.rename (partName u.name) u.name with
      | none => exact advanced_failed apart (Keeps.refl _ files) _
      | some later =>
        refine ⟨keeps_rename moved, .answered .created lost, fun _ _ _ => ?_,
          .inr ⟨⟨lost, .inl rfl⟩, content, whole, ?_, copied, all⟩⟩
        · exact Files.read_rename_old moved apart.symm
        · rw [Files.read_rename_new moved, held]
  | failed status =>
    cases fails with
    | some failure =>
      refine .of_part apart (Keeps.refl _ files) (.abandoned _ _) (fun _ _ same => ?_) rfl
      cases same
    | none =>
      exact .of_part apart keeps_remove (.answered _ _) (fun _ _ _ => Files.read_remove_self) rfl

theorem Advanced.dropped (advanced : Advanced zstd u files next phase) :
    Advanced zstd u files next (.abandoned none phase.lost) where
  keeps := advanced.keeps
  holds := .abandoned none _
  cleared := by
    intro answer lost same
    cases same
  placed := by
    rcases advanced.placed with ⟨same, _⟩ | ⟨_, placed⟩
    · exact .inl ⟨same, rfl⟩
    · exact .inr ⟨⟨_, .inr rfl⟩, placed⟩

end Upload

namespace Server

section Server

variable {δ ε : Type} {zstd : Zstd δ ε}

inductive Entry (zstd : Zstd δ ε) (s : Server δ ε) (name : String) (content : List UInt8) : Prop where
  -- nobody is told of it if the connection is lost while it takes its place
  | recording (id : Nat) (u : Upload) (phase : Phase δ ε) (whole : List UInt8)
      (held : s.uploads.get id = some (u, phase)) (named : u.name = name)
      (settled : ∃ lost, phase = .answered .created lost ∨ phase = .abandoned none lost)
      (copied : Copied phase.lost content whole)
      (all : recorded zstd u.body u.encoding = .ok whole)
      (accepted : store zstd logDisk u.body u.encoding = .ok whole.length)
  | part (id : Nat) (u : Upload) (phase : Phase δ ε) (held : s.uploads.get id = some (u, phase))
      (named : partName u.name = name) (open' : ∀ answer lost, phase ≠ .answered answer lost)

structure Orderly (zstd : Zstd δ ε) (s : Server δ ε) : Prop where
  entries : ∀ name content, s.files.read name = some content → Entry zstd s name content
  kept : ∀ id u lost, s.uploads.get id = some (u, .answered .created lost) →
    ∃ content, s.files.read u.name = some content

structure Sound (zstd : Zstd δ ε) (s : Server δ ε) : Prop where
  orderly : Orderly zstd s
  named : ∀ id u phase, s.uploads.get id = some (u, phase) → ∃ found nonce, u.name = fileName found nonce
  apart : ∀ id other u v phase phase', s.uploads.get id = some (u, phase) →
    s.uploads.get other = some (v, phase') → phase.isRunning = true → phase'.isRunning = true →
    u.name = v.name → id = other
  holds : ∀ id u phase, s.uploads.get id = some (u, phase) → Holds zstd s.files u phase

theorem sound_started : Sound zstd (started : Server δ ε) where
  orderly := ⟨nofun, nofun⟩
  named := nofun
  apart := nofun
  holds := nofun

theorem Sound.ne_part {s : Server δ ε} (sound : Sound zstd s) {id other : Nat} {u v : Upload}
    {phase phase' : Phase δ ε} (held : s.uploads.get id = some (u, phase))
    (there : s.uploads.get other = some (v, phase')) : u.name ≠ partName v.name := by
  obtain ⟨a, m, first⟩ := sound.named id u phase held
  obtain ⟨b, n, second⟩ := sound.named other v phase' there
  rw [first, second]
  exact (partName_ne b a n m).symm

theorem Sound.part_ne {s : Server δ ε} (sound : Sound zstd s) {id other : Nat} {u v : Upload}
    {phase phase' : Phase δ ε} (held : s.uploads.get id = some (u, phase))
    (there : s.uploads.get other = some (v, phase')) (apart : u.name ≠ v.name) :
    partName u.name ≠ partName v.name := by
  obtain ⟨a, m, first⟩ := sound.named id u phase held
  obtain ⟨b, n, second⟩ := sound.named other v phase' there
  rw [first, second] at apart ⊢
  exact fun same => apart (partName_inj.mp same)

theorem found_moved {s : Server δ ε} {files : Files String} {id id' : Nat} {u v : Upload}
    {phase phase' : Phase δ ε} (found : (s.moved files id u phase).uploads.get id' = some (v, phase')) :
    id' = id ∧ v = u ∧ phase' = phase ∨ id' ≠ id ∧ s.uploads.get id' = some (v, phase') := by
  rw [moved, Table.get_put] at found
  split at found
  next same =>
    obtain ⟨rfl, rfl⟩ := Prod.mk.inj (Option.some.inj found)
    exact .inl ⟨same, rfl, rfl⟩
  next different => exact .inr ⟨different, found⟩

section Moved

variable {s : Server δ ε} {id : Nat} {u : Upload} {phase phase' : Phase δ ε} {next : Files String}

theorem get_moved : (s.moved next id u phase').uploads.get id = some (u, phase') :=
  Table.get_put_self _ _ _

theorem get_moved_of_ne {id' : Nat} (different : id' ≠ id) :
    (s.moved next id u phase').uploads.get id' = s.uploads.get id' :=
  Table.get_put_of_ne _ _ different

theorem Entry.others {name : String} {content : List UInt8} (entry : Entry zstd s name content)
    (held : s.uploads.get id = some (u, phase)) (running : phase.isRunning = true)
    (other : name ≠ partName u.name) : Entry zstd (s.moved next id u phase') name content := by
  cases entry with
  | recording id' v phase'' whole there named settled copied all accepted =>
    refine .recording id' v phase'' whole ((get_moved_of_ne ?_).trans there) named settled copied all
      accepted
    rintro rfl
    obtain ⟨rfl, rfl⟩ := Prod.mk.inj (Option.some.inj (held.symm.trans there))
    obtain ⟨lost, rfl | rfl⟩ := settled <;> cases running
  | part id' v phase'' there named open' =>
    refine .part id' v phase'' ((get_moved_of_ne ?_).trans there) named open'
    rintro rfl
    obtain ⟨rfl, rfl⟩ := Prod.mk.inj (Option.some.inj (held.symm.trans there))
    exact other named.symm

theorem orderly_advanced (sound : Sound zstd s) (held : s.uploads.get id = some (u, phase))
    (running : phase.isRunning = true) (advanced : Advanced zstd u s.files next phase') :
    Orderly zstd (s.moved next id u phase') := by
  constructor
  · intro name content found
    change next.read name = some content at found
    by_cases isPart : name = partName u.name
    · refine .part id u phase' get_moved isPart.symm fun answer lost ended => ?_
      rw [isPart, advanced.cleared answer lost ended] at found
      cases found
    · by_cases isFile : name = u.name
      · rcases advanced.placed with ⟨same, _⟩ | ⟨settled, content', whole, placed, copied, all⟩
        · rw [isFile, same] at found
          exact (sound.orderly.entries name content (isFile ▸ found)).others held running isPart
        · rw [isFile, placed] at found
          obtain rfl := Option.some.inj found
          refine .recording id u phase' whole get_moved isFile.symm settled copied all ?_
          rw [store_eq, all]
          rfl
      · rw [advanced.keeps.read (not_or.mpr ⟨isPart, isFile⟩)] at found
        exact (sound.orderly.entries name content found).others held running isPart
  · intro id' v lost there
    change ∃ content, next.read v.name = some content
    rcases found_moved there with ⟨_, rfl, rfl⟩ | ⟨_, there⟩
    · rcases advanced.placed with ⟨_, unfinished⟩ | ⟨_, content, _, placed, _⟩
      · cases unfinished
      · exact ⟨content, placed⟩
    · obtain ⟨content, present⟩ := sound.orderly.kept id' v lost there
      by_cases isFile : v.name = u.name
      · rcases advanced.placed with ⟨same, _⟩ | ⟨_, content', _, placed, _⟩
        · exact ⟨content, by rw [isFile, same, ← isFile, present]⟩
        · exact ⟨content', by rw [isFile, placed]⟩
      · have untouched := advanced.keeps.read (not_or.mpr ⟨sound.ne_part there held, isFile⟩)
        exact ⟨content, by rw [untouched, present]⟩

theorem holds_advanced (sound : Sound zstd s) (held : s.uploads.get id = some (u, phase))
    (running : phase.isRunning = true) (advanced : Advanced zstd u s.files next phase') {id' : Nat}
    {v : Upload} {phase'' : Phase δ ε}
    (there : (s.moved next id u phase').uploads.get id' = some (v, phase'')) :
    Holds zstd next v phase'' := by
  rcases found_moved there with ⟨_, rfl, rfl⟩ | ⟨different, there⟩
  · exact advanced.holds
  · have before := sound.holds id' v phase'' there
    cases on : phase''.isRunning with
    | false =>
      cases before with
      | answered answer lost => exact .answered answer lost
      | abandoned status lost => exact .abandoned status lost
      | admitted | writing | stored | failed => cases on
    | true =>
      have names : v.name ≠ u.name := fun same =>
        different (sound.apart id' id v u phase'' phase there held on running same)
      refine before.kept advanced.keeps (not_or.mpr ⟨sound.part_ne there held names, ?_⟩)
      exact (sound.ne_part held there).symm

theorem sound_advanced (sound : Sound zstd s) (held : s.uploads.get id = some (u, phase))
    (running : phase.isRunning = true) (advanced : Advanced zstd u s.files next phase') :
    Sound zstd (s.moved next id u phase') where
  orderly := orderly_advanced sound held running advanced
  named := by
    intro id' v phase'' there
    rcases found_moved there with ⟨_, rfl, _⟩ | ⟨_, there⟩
    · exact sound.named id v phase held
    · exact sound.named id' v phase'' there
  apart := by
    intro first second v w phase₁ phase₂ here there on on' same
    rcases found_moved here with ⟨rfl, rfl, _⟩ | ⟨_, one⟩
    · rcases found_moved there with ⟨rfl, rfl, _⟩ | ⟨_, there⟩
      · rfl
      · exact sound.apart first second v w phase phase₂ held there running on' same
    · rcases found_moved there with ⟨rfl, rfl, _⟩ | ⟨_, there⟩
      · exact sound.apart first second v w phase₁ phase one held on running same
      · exact sound.apart first second v w phase₁ phase₂ one there on on' same
  holds _ _ _ there := holds_advanced sound held running advanced there

theorem sound_arrived (sound : Sound zstd s) (absent : s.uploads.get id = none) {found : Metadata}
    {nonce : UInt32} (name : u.name = fileName found nonce)
    (fresh : ∀ id v phase, s.uploads.get id = some (v, phase) → phase.isRunning = true → v.name ≠ u.name) :
    Sound zstd (s.moved s.files id u .admitted) where
  orderly := by
    have ne {id' : Nat} {v : Upload} {phase' : Phase δ ε} (there : s.uploads.get id' = some (v, phase')) :
        id' ≠ id := by
      rintro rfl
      rw [absent] at there
      cases there
    constructor
    · intro name content present
      cases sound.orderly.entries name content present with
      | recording id' v phase' whole there named settled copied all accepted =>
        exact .recording id' v phase' whole ((get_moved_of_ne (ne there)).trans there) named settled copied
          all accepted
      | part id' v phase' there named open' =>
        exact .part id' v phase' ((get_moved_of_ne (ne there)).trans there) named open'
    · intro id' v lost there
      rcases found_moved there with ⟨_, _, other⟩ | ⟨_, there⟩
      · cases other
      · exact sound.orderly.kept id' v lost there
  named := by
    intro id' v phase' there
    rcases found_moved there with ⟨_, rfl, _⟩ | ⟨_, there⟩
    · exact ⟨found, nonce, name⟩
    · exact sound.named id' v phase' there
  apart := by
    intro first second v w phase₁ phase₂ here there on on' same
    rcases found_moved here with ⟨rfl, rfl, _⟩ | ⟨_, one⟩
    · rcases found_moved there with ⟨rfl, rfl, _⟩ | ⟨_, there⟩
      · rfl
      · exact absurd same.symm (fresh second w phase₂ there on')
    · rcases found_moved there with ⟨rfl, rfl, _⟩ | ⟨_, there⟩
      · exact absurd same (fresh first v phase₁ one on)
      · exact sound.apart first second v w phase₁ phase₂ one there on on' same
  holds := by
    intro id' v phase' there
    rcases found_moved there with ⟨_, rfl, rfl⟩ | ⟨_, there⟩
    · exact .admitted
    · exact sound.holds id' v phase' there

end Moved

theorem sound_step {s : Server δ ε} (sound : Sound zstd s) (event : Event) (fresh : FreshName s event) :
    Sound zstd (step zstd s event) := by
  cases event with
  | arrive id headers nonce body =>
    rw [step]
    split
    next found encoding absent admitted =>
      have name : (Upload.mk (fileName found nonce) encoding body).name = fileName found nonce := rfl
      exact sound_arrived sound absent name (fresh found encoding admitted)
    next => exact sound
  | advance id fails =>
    rw [step]
    split
    next => exact sound
    next u phase held =>
      split
      next running =>
        have advanced := advanced_next (sound.ne_part held held) running (sound.holds id u phase held) fails
        exact sound_advanced sound held running advanced
      next => exact sound
  | drop id begun =>
    rw [step]
    split
    next => exact sound
    next u phase held =>
      split
      next running =>
        cases begun with
        | some fails =>
          have advanced := advanced_next (sound.ne_part held held) running (sound.holds id u phase held) fails
          exact sound_advanced sound held running advanced.dropped
        | none =>
          have still : Advanced zstd u s.files s.files (.abandoned none phase.lost) :=
            .of_part (sound.ne_part held held) (Keeps.refl _ _) (.abandoned none _)
              (fun _ _ same => by cases same) rfl
          exact sound_advanced sound held running still
      next => exact sound

/--
In every run a recording is a whole upload, whatever fails and however uploads overlap, but for
the end of its last write where that one failed.
-/
theorem recordings_whole (zstd : Zstd δ ε) (events : List Event)
    (fresh : Runs.Meets (step zstd) FreshName started events) : Orderly zstd (after zstd events) := by
  have keeps : ∀ s event, Sound zstd s → FreshName s event → Sound zstd (step zstd s event) :=
    fun _ event sound fresh => sound_step sound event fresh
  exact (Runs.run_invariant keeps sound_started fresh).orderly

end Server

def compressed : HeaderMap := fun name =>
  if name = "content-encoding" then some (Utf8.encode "zstd") else tricked name

-- the last write of the second of two uploads fails in its middle, after which nothing is written
def overlapping : List Event :=
  [.arrive 1 compressed 7 [some frameHeader, some magic], .advance 1 none,
    .arrive 2 compressed 8 [some frameHeader, some magic], .advance 2 none, .advance 1 none,
    .advance 2 none, .advance 1 none, .advance 2 (some ⟨3, false⟩), .advance 1 none, .advance 2 none,
    .advance 1 none, .advance 2 none]

theorem recordings_whole_overlapping :
    Orderly rawZstd (after rawZstd overlapping)
      ∧ (after rawZstd overlapping).files.read "1--5-..mp_rust-war-00000007.iw4rec.zst" = some rawFrame
      ∧ (after rawZstd overlapping).files.read "1--5-..mp_rust-war-00000008.iw4rec.zst"
        = some (frameHeader ++ magic.take 3)
      ∧ ((after rawZstd overlapping).uploads.get 2).map (fun entry => (entry.2.created, entry.2.lost))
        = some (true, true) := by
  have admitted : readHeaders compressed = .ok (⟨1, -5, "..mp_rust", "war", ""⟩, .zstd) := by decide +kernel
  refine ⟨recordings_whole rawZstd overlapping ?_, by decide +kernel, by decide +kernel, by decide +kernel⟩
  refine ⟨?_, trivial, ?_, trivial, trivial, trivial, trivial, trivial, trivial, trivial, trivial, trivial,
    trivial⟩
  · intro found encoding _ id u phase held
    cases held
  · intro found encoding given id u phase held _
    obtain ⟨rfl, _⟩ := Prod.mk.inj (Except.ok.inj (admitted.symm.trans given))
    have arrived : step rawZstd started (.arrive 1 compressed 7 [some frameHeader, some magic])
        = started.moved .empty 1 ⟨fileName ⟨1, -5, "..mp_rust", "war", ""⟩ 7, .zstd,
          [some frameHeader, some magic]⟩ .admitted := by
      rw [step, admitted]
      rfl
    have name : u.name = fileName ⟨1, -5, "..mp_rust", "war", ""⟩ 7 := by
      rw [arrived, step, get_moved] at held
      rcases found_moved held with ⟨_, rfl, _⟩ | ⟨different, held⟩
      · rfl
      · rw [get_moved_of_ne different] at held
        cases held
    rw [name]
    decide +kernel

end Server

end Recording

end BitDemon
