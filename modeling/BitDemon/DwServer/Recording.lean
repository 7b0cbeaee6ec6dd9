import BitDemon.Library.StreamDecoder

set_option autoImplicit false

/-!
# Uploads of recordings

A recording begins with eight magic bytes. The head of an upload is checked
while it comes in, in whatever chunks, and before that is decoded if it has to be.
-/

namespace BitDemon

open StreamDecoder

namespace Recording

-- `IW4XREC` and a zero byte
def magic : List UInt8 := [0x49, 0x57, 0x34, 0x58, 0x52, 0x45, 0x43, 0x00]

def maxBytes : Nat := 512 <<< 20

def level : Int := 3

inductive Encoding where
  | identity | zstd
  deriving DecidableEq

inductive StatusCode where
  | badRequest | payloadTooLarge | unprocessableEntity | internalServerError
  deriving DecidableEq, Repr

/-- The compressor of `zstd`, and its decoder on buffers. -/
structure Zstd (δ ε : Type) where
  newDecoder : Option δ
  runOnBuffers : Decoder Unit δ UInt8 UInt8
  newEncoder : Int → Option ε
  writeAll : ε → List UInt8 → Option ε
  -- what is compressed gathers in the encoder until it is taken out
  take : ε → List UInt8 × ε
  finish : ε → Option (List UInt8)

structure Disk (φ : Type) where
  create : Option φ
  writeAll : φ → List UInt8 → Option φ
  syncAll : φ → Option φ

def internal {α : Type} : Option α → Except StatusCode α
  | some a => .ok a
  | none => .error .internalServerError

structure Head (δ : Type) where
  bytes : List UInt8
  decoder : Option δ
  fits : bytes.length ≤ magic.length

section Source

variable {δ ε φ : Type} (zstd : Zstd δ ε) (disk : Disk φ)

def Head.new : Encoding → Except StatusCode (Head δ)
  | .identity => .ok { bytes := [], decoder := none, fits := Nat.zero_le _ }
  | .zstd => do
    let decoder ← internal zstd.newDecoder
    .ok { bytes := [], decoder := some decoder, fits := Nat.zero_le _ }

def decode : Decoder StatusCode (Option δ) UInt8 UInt8
  | some decoder, chunk, want =>
    match zstd.runOnBuffers decoder chunk want with
    | .ok status => .ok (status.map some)
    | .error _ => .error .unprocessableEntity
  | none, chunk, want =>
    match copy () chunk want with
    | .ok status => .ok (status.map fun _ => none)
    | .error e => nomatch e

namespace Head

def complete (head : Head δ) : Bool := head.bytes.length == magic.length

def want (head : Head δ) : Nat := magic.length - head.bytes.length

def extend {given : Nat} (head : Head δ) (portion : Portion (Option δ) UInt8 given head.want) :
    Head δ where
  bytes := head.bytes ++ portion.written
  decoder := portion.next
  fits := by
    have room : portion.written.length ≤ magic.length - head.bytes.length := portion.written_le
    have fits := head.fits
    rw [List.length_append]
    omega

theorem length_extend {given : Nat} (head : Head δ)
    (portion : Portion (Option δ) UInt8 given head.want) :
    (head.extend portion).want + portion.written.length = head.want := by
  have fits := (head.extend portion).fits
  rw [extend, List.length_append] at fits
  simp only [extend, want, List.length_append]
  omega

def feed (head : Head δ) (chunk : List UInt8) : Except StatusCode (Head δ) :=
  if head.complete = true ∨ chunk = [] then
    .ok head
  else
    match decode zstd head.decoder chunk head.want with
    | .error status => .error status
    | .ok portion =>
      if portion.read = 0 ∧ portion.written.length = 0 then
        .ok (head.extend portion)
      else if (head.extend portion).bytes.isPrefixOf magic then
        feed (head.extend portion) (chunk.drop portion.read)
      else
        .error .unprocessableEntity
termination_by chunk.length + head.want
decreasing_by
  have taken := portion.read_le
  have filled := head.length_extend portion
  rw [List.length_drop]
  omega

end Head

structure Storing (δ ε φ : Type) where
  file : φ
  head : Head δ
  encoder : Option ε
  received : Nat
  stored : Nat

def Storing.start (encoding : Encoding) : Except StatusCode (Storing δ ε φ) := do
  let file ← internal disk.create
  let head ← Head.new zstd encoding
  let encoder ← match encoding with
    | .identity => some <$> internal (zstd.newEncoder level)
    | .zstd => .ok none
  .ok { file, head, encoder, received := 0, stored := 0 }

def compress (encoder : Option ε) (chunk : List UInt8) :
    Except StatusCode (List UInt8 × Option ε) :=
  match encoder with
  | some encoder => do
    let encoder ← internal (zstd.writeAll encoder chunk)
    let (out, encoder) := zstd.take encoder
    .ok (out, some encoder)
  | none => .ok (chunk, none)

/-- One turn of the loop of `store`; a chunk can be an error of the connection. -/
def Storing.chunk (s : Storing δ ε φ) (chunk : Option (List UInt8)) :
    Except StatusCode (Storing δ ε φ) := do
  let chunk ← match chunk with
    | some chunk => .ok chunk
    | none => .error .badRequest
  let received := s.received + chunk.length
  if maxBytes < received then
    .error .payloadTooLarge
  else do
    let head ← s.head.feed zstd chunk
    let (out, encoder) ← compress zstd s.encoder chunk
    let file ← internal (disk.writeAll s.file out)
    .ok { file, head, encoder, received, stored := s.stored + out.length }

def Storing.finish (s : Storing δ ε φ) : Except StatusCode Nat := do
  if !s.head.complete then
    .error .unprocessableEntity
  else do
    let (file, stored) ← match s.encoder with
      | some encoder => do
        let out ← internal (zstd.finish encoder)
        let file ← internal (disk.writeAll s.file out)
        .ok (file, s.stored + out.length)
      | none => .ok (s.file, s.stored)
    let _ ← internal (disk.syncAll file)
    .ok stored

def store (body : List (Option (List UInt8))) (encoding : Encoding) : Except StatusCode Nat := do
  let start ← Storing.start zstd disk encoding
  let last ← body.foldlM (Storing.chunk zstd disk) start
  last.finish zstd disk

end Source

/-- The zstd format: its valid texts, and what can be decoded of the beginning of one. -/
structure Format where
  valid : List UInt8 → Prop
  decodable : List UInt8 → List UInt8

section Fed

variable {δ ε φ : Type} {zstd : Zstd δ ε} {disk : Disk φ} {start : Option δ}
  {decodable : List UInt8 → List UInt8} {body : List UInt8}

/--
The head within a chunk: `fed` has been read, unless the head is full, and `chunk` is still to
be read. It goes with the magic, and at the end of the chunk it knows all it can.
-/
structure Fed (zstd : Zstd δ ε) (start : Option δ) (decodable : List UInt8 → List UInt8)
    (head : Head δ) (fed chunk : List UInt8) : Prop where
  goes : head.bytes <+: magic
  reached : ∃ used given, given <+: fed ++ chunk
    ∧ Reached (decode zstd) start head.decoder used given head.bytes
  waiting : head.complete = false → ∃ given, given <+: fed ++ chunk
    ∧ Reached (decode zstd) start head.decoder fed given head.bytes
    ∧ (chunk = [] → head.bytes = decodable fed)

theorem Fed.next {head : Head δ} {fed : List UInt8} (chunk : List UInt8)
    (state : Fed zstd start decodable head fed []) : Fed zstd start decodable head fed chunk := by
  have more : fed ++ [] <+: fed ++ chunk := by simp
  obtain ⟨used, given, front, reached⟩ := state.reached
  refine ⟨state.goes, ⟨used, given, front.trans more, reached⟩, fun incomplete => ?_⟩
  obtain ⟨given, front, reached, known⟩ := state.waiting incomplete
  exact ⟨given, front.trans more, reached, fun _ => known rfl⟩

theorem Fed.whole {head : Head δ} {fed chunk : List UInt8} (full : head.complete = true)
    (state : Fed zstd start decodable head fed chunk) :
    Fed zstd start decodable head (fed ++ chunk) [] := by
  obtain ⟨used, given, front, reached⟩ := state.reached
  refine ⟨state.goes, ⟨used, given, by rwa [List.append_nil], reached⟩, ?_⟩
  simp [full]

theorem Head.complete_iff (head : Head δ) : head.complete = true ↔ head.want = 0 := by
  have fits := head.fits
  rw [complete, want, beq_iff_eq]
  omega

theorem call_fed (decodes : Decodes (decode zstd) start decodable body) {head : Head δ}
    {chunk fed : List UInt8} (state : Fed zstd start decodable head fed chunk)
    (incomplete : head.complete = false) (whole : fed ++ chunk <+: body)
    {portion : Portion (Option δ) UInt8 chunk.length head.want}
    (ran : decode zstd head.decoder chunk head.want = .ok portion) :
    (head.extend portion).bytes <+: decodable body
      ∧ ((head.extend portion).bytes <+: magic →
        Fed zstd start decodable (head.extend portion) (fed ++ chunk.take portion.read)
          (chunk.drop portion.read)) := by
  obtain ⟨given, again, sofar, _⟩ := state.waiting incomplete
  have reached : Reached (decode zstd) start (head.extend portion).decoder
      (fed ++ chunk.take portion.read) (fed ++ chunk) (head.extend portion).bytes :=
    sofar.call again ran
  have rest : fed ++ chunk.take portion.read ++ chunk.drop portion.read = fed ++ chunk := by
    rw [List.append_assoc, List.take_append_drop]
  have front : fed ++ chunk <+: fed ++ chunk.take portion.read ++ chunk.drop portion.read := by
    rw [rest]
  refine ⟨decodes.output _ _ _ _ reached whole, fun goes => ⟨goes, ⟨_, _, front, reached⟩, ?_⟩⟩
  refine fun open' => ⟨_, front, reached, fun finished => ?_⟩
  have wanted : (head.extend portion).want ≠ 0 := by
    intro none
    rw [(Head.complete_iff _).mpr none] at open'
    cases open'
  have short : portion.written.length < head.want := by
    have filled := head.length_extend portion
    omega
  have all : portion.read = chunk.length :=
    Nat.le_antisymm portion.read_le (List.drop_eq_nil_iff.mp finished)
  have known := decodes.unfilled _ _ _ _ _ _ _ sofar again whole ran short all
  rw [all, List.take_length]
  exact known

theorem feed_fed (decodes : Decodes (decode zstd) start decodable body) (head : Head δ)
    (chunk fed : List UInt8) (state : Fed zstd start decodable head fed chunk)
    (whole : fed ++ chunk <+: body) :
    (∃ next, head.feed zstd chunk = .ok next ∧ Fed zstd start decodable next (fed ++ chunk) [])
      ∨ head.feed zstd chunk = .error .unprocessableEntity ∧ ¬magic <+: decodable body := by
  have wanted {head : Head δ} {chunk : List UInt8} (more : ¬(head.complete = true ∨ chunk = [])) :
      head.complete = false ∧ chunk ≠ [] ∧ 0 < head.want := by
    obtain ⟨open', some⟩ := not_or.mp more
    exact ⟨Bool.eq_false_iff.mpr open', some, Nat.pos_of_ne_zero (mt (Head.complete_iff _).mpr open')⟩
  fun_induction Head.feed zstd head chunk generalizing fed with
  | case1 head chunk done =>
    left
    rcases done with full | rfl
    · exact ⟨head, rfl, state.whole full⟩
    · exact ⟨head, rfl, by simpa using state⟩
  | case2 head chunk more status failed =>
    -- the decoder takes whatever belongs to the body
    obtain ⟨incomplete, some, room⟩ := wanted more
    obtain ⟨given, again, sofar, _⟩ := state.waiting incomplete
    obtain ⟨portion, ran⟩ := decodes.accepts _ _ _ _ chunk head.want sofar again whole some room
    rw [failed] at ran
    cases ran
  | case3 head chunk more portion ran stuck =>
    obtain ⟨incomplete, some, room⟩ := wanted more
    obtain ⟨given, again, sofar, _⟩ := state.waiting incomplete
    have moves := decodes.progress _ _ _ _ _ _ _ sofar again whole some room ran
    have none := List.length_eq_zero_iff.mp stuck.2
    exact absurd moves (by simp [stuck.1, none])
  | case4 head chunk more portion ran moves goes ih =>
    obtain ⟨incomplete, -, -⟩ := wanted more
    have next := (call_fed decodes state incomplete whole ran).2 (List.isPrefixOf_iff_prefix.mp goes)
    have rest : fed ++ chunk.take portion.read ++ chunk.drop portion.read = fed ++ chunk := by
      rw [List.append_assoc, List.take_append_drop]
    have later := ih _ next (by rw [rest]; exact whole)
    rwa [rest] at later
  | case5 head chunk more portion ran moves differs =>
    right
    refine ⟨rfl, fun begins => differs ?_⟩
    obtain ⟨incomplete, -, -⟩ := wanted more
    have belongs := (call_fed decodes state incomplete whole ran).1
    exact List.isPrefixOf_iff_prefix.mpr
      (List.prefix_of_prefix_length_le belongs begins (head.extend portion).fits)

theorem complete_fed (decodes : Decodes (decode zstd) start decodable body) {head : Head δ}
    (state : Fed zstd start decodable head body []) :
    head.complete = true ↔ magic <+: decodable body := by
  constructor
  · intro full
    obtain ⟨used, given, front, reached⟩ := state.reached
    have same : head.bytes = magic := state.goes.eq_of_length (beq_iff_eq.mp full)
    rw [List.append_nil] at front
    have belongs : head.bytes <+: decodable body := decodes.output _ _ _ _ reached front
    rwa [same] at belongs
  · intro begins
    by_contra open'
    obtain ⟨given, -, -, known⟩ := state.waiting (by simpa using open')
    rw [← known rfl] at begins
    exact open' (beq_iff_eq.mpr (Nat.le_antisymm head.fits begins.length_le))

structure Works (zstd : Zstd δ ε) (disk : Disk φ) : Prop where
  creates : disk.create ≠ none
  writes : ∀ file out, disk.writeAll file out ≠ none
  syncs : ∀ file, disk.syncAll file ≠ none
  decoder : zstd.newDecoder ≠ none
  encoder : zstd.newEncoder level ≠ none
  compresses : ∀ encoder chunk, zstd.writeAll encoder chunk ≠ none
  finishes : ∀ encoder, zstd.finish encoder ≠ none

inductive Judged (works passes : Prop) : Except StatusCode Nat → Prop where
  | stored (size : Nat) (passed : passes) : Judged works passes (.ok size)
  | refused (failed : ¬passes) : Judged works passes (.error .unprocessableEntity)
  | broken (breaks : ¬works) : Judged works passes (.error .internalServerError)

theorem internal_cases {α : Type} (result : Option α) :
    (∃ a, result = some a ∧ internal result = .ok a)
      ∨ result = none ∧ internal result = .error .internalServerError := by
  cases result with
  | some a => exact .inl ⟨a, rfl, rfl⟩
  | none => exact .inr ⟨rfl, rfl⟩

theorem compress_cases (zstd : Zstd δ ε) (disk : Disk φ) (encoder : Option ε) (chunk : List UInt8) :
    (∃ out next, compress zstd encoder chunk = .ok (out, next))
      ∨ compress zstd encoder chunk = .error .internalServerError ∧ ¬Works zstd disk := by
  cases encoder with
  | none => exact .inl ⟨chunk, none, rfl⟩
  | some encoder =>
    rcases internal_cases (zstd.writeAll encoder chunk) with ⟨next, -, ran⟩ | ⟨fails, ran⟩
    · exact .inl ⟨(zstd.take next).1, some (zstd.take next).2, by simp [compress, ran]; rfl⟩
    · exact .inr ⟨by simp [compress, ran]; rfl, fun works => works.compresses _ _ fails⟩

theorem chunk_cases (disk : Disk φ) (decodes : Decodes (decode zstd) start decodable body)
    (within : body.length ≤ maxBytes) {s : Storing δ ε φ} {fed chunk : List UInt8}
    (received : s.received = fed.length) (state : Fed zstd start decodable s.head fed [])
    (whole : fed ++ chunk <+: body) :
    (∃ next, s.chunk zstd disk (some chunk) = .ok next ∧ next.received = (fed ++ chunk).length
        ∧ Fed zstd start decodable next.head (fed ++ chunk) [])
      ∨ s.chunk zstd disk (some chunk) = .error .unprocessableEntity ∧ ¬magic <+: decodable body
      ∨ s.chunk zstd disk (some chunk) = .error .internalServerError ∧ ¬Works zstd disk := by
  have sum : s.received + chunk.length = (fed ++ chunk).length := by simp [received]
  have bound : ¬maxBytes < s.received + chunk.length := by
    have length := whole.length_le
    omega
  rcases feed_fed decodes s.head chunk fed (state.next chunk) whole with ⟨head, ran, later⟩ | ⟨ran, differs⟩
  · rcases compress_cases zstd disk s.encoder chunk with ⟨out, encoder, packed⟩ | ⟨packed, fails⟩
    · rcases internal_cases (disk.writeAll s.file out) with ⟨file, -, wrote⟩ | ⟨fails, wrote⟩
      · refine .inl ⟨_, by simp [Storing.chunk, bound, ran, packed, wrote, bind, Except.bind]; rfl,
          sum, later⟩
      · refine .inr (.inr ⟨?_, fun works => works.writes _ _ fails⟩)
        simp [Storing.chunk, bound, ran, packed, wrote, bind, Except.bind]
    · refine .inr (.inr ⟨?_, fails⟩)
      simp [Storing.chunk, bound, ran, packed, bind, Except.bind]
  · refine .inr (.inl ⟨?_, differs⟩)
    simp [Storing.chunk, bound, ran, bind, Except.bind]

theorem start_cases (zstd : Zstd δ ε) (disk : Disk φ) (encoding : Encoding) :
    (∃ s, Storing.start zstd disk encoding = .ok s ∧ s.received = 0 ∧ s.head.bytes = []
        ∧ (encoding = .identity ∧ s.head.decoder = none
          ∨ encoding = .zstd ∧ ∃ decoder, zstd.newDecoder = some decoder
            ∧ s.head.decoder = some decoder))
      ∨ Storing.start zstd disk encoding = .error .internalServerError ∧ ¬Works zstd disk := by
  rcases internal_cases disk.create with ⟨file, -, created⟩ | ⟨fails, created⟩
  · cases encoding with
    | identity =>
      rcases internal_cases (zstd.newEncoder level) with ⟨encoder, -, made⟩ | ⟨fails, made⟩
      · refine .inl ⟨_, by simp [Storing.start, Head.new, created, made, bind, Except.bind]; rfl, rfl,
          rfl, .inl ⟨rfl, rfl⟩⟩
      · refine .inr ⟨?_, fun works => works.encoder fails⟩
        simp [Storing.start, Head.new, created, made, bind, Except.bind]
    | zstd =>
      rcases internal_cases zstd.newDecoder with ⟨decoder, exists', made⟩ | ⟨fails, made⟩
      · refine .inl ⟨_, by simp [Storing.start, Head.new, created, made, bind, Except.bind]; rfl, rfl,
          rfl, .inr ⟨rfl, decoder, exists', rfl⟩⟩
      · refine .inr ⟨?_, fun works => works.decoder fails⟩
        simp [Storing.start, Head.new, created, made, bind, Except.bind]
  · refine .inr ⟨?_, fun works => works.creates fails⟩
    simp [Storing.start, created, bind, Except.bind]

theorem finish_judged (zstd : Zstd δ ε) (disk : Disk φ) (s : Storing δ ε φ) :
    Judged (Works zstd disk) (s.head.complete = true) (s.finish zstd disk) := by
  have synced (file : φ) (size : Nat) (full : s.head.complete = true) :
      Judged (Works zstd disk) (s.head.complete = true)
        (internal (disk.syncAll file) >>= fun _ => .ok size) := by
    rcases internal_cases (disk.syncAll file) with ⟨after, -, ran⟩ | ⟨fails, ran⟩
    · rw [ran]
      exact .stored size full
    · rw [ran]
      exact .broken fun works => works.syncs file fails
  cases full : s.head.complete with
  | false =>
    have refuses : s.finish zstd disk = .error .unprocessableEntity := by
      simp [Storing.finish, full]
    rw [refuses]
    exact .refused (by simp)
  | true =>
    rw [full] at synced
    cases packing : s.encoder with
    | none =>
      have finishes : s.finish zstd disk
          = internal (disk.syncAll s.file) >>= fun _ => .ok s.stored := by
        simp [Storing.finish, full, packing, bind, Except.bind]
      rw [finishes]
      exact synced _ _ rfl
    | some encoder =>
      rcases internal_cases (zstd.finish encoder) with ⟨out, -, ended⟩ | ⟨fails, ended⟩
      · rcases internal_cases (disk.writeAll s.file out) with ⟨file, -, wrote⟩ | ⟨fails, wrote⟩
        · have finishes : s.finish zstd disk
              = internal (disk.syncAll file) >>= fun _ => .ok (s.stored + out.length) := by
            simp [Storing.finish, full, packing, ended, wrote, bind, Except.bind]
          rw [finishes]
          exact synced _ _ rfl
        · have breaks : s.finish zstd disk = .error .internalServerError := by
            simp [Storing.finish, full, packing, ended, wrote, bind, Except.bind]
          rw [breaks]
          exact .broken fun works => works.writes _ _ fails
      · have breaks : s.finish zstd disk = .error .internalServerError := by
          simp [Storing.finish, full, packing, ended, bind, Except.bind]
        rw [breaks]
        exact .broken fun works => works.finishes _ fails

theorem rest_judged (disk : Disk φ) (decodes : Decodes (decode zstd) start decodable body)
    (within : body.length ≤ maxBytes) (chunks : List (List UInt8)) :
    ∀ (s : Storing δ ε φ) (fed : List UInt8), s.received = fed.length →
      Fed zstd start decodable s.head fed [] → fed ++ chunks.flatten = body →
      Judged (Works zstd disk) (magic <+: decodable body)
        ((chunks.map some).foldlM (Storing.chunk zstd disk) s >>= Storing.finish zstd disk) := by
  induction chunks with
  | nil =>
    intro s fed received state whole
    obtain rfl : fed = body := by simpa using whole
    rw [← complete_fed decodes state]
    exact finish_judged zstd disk s
  | cons chunk chunks ih =>
    intro s fed received state whole
    have rest : fed ++ chunk ++ chunks.flatten = body := by simpa using whole
    have front : fed ++ chunk <+: body := ⟨_, rest⟩
    rw [List.map_cons, List.foldlM_cons, bind_assoc]
    rcases chunk_cases disk decodes within received state front with
      ⟨next, ran, receivedNext, stateNext⟩ | ⟨ran, differs⟩ | ⟨ran, fails⟩
    · rw [ran]
      exact ih next (fed ++ chunk) receivedNext stateNext rest
    · rw [ran]
      exact .refused differs
    · rw [ran]
      exact .broken fails

theorem decodes_identity (zstd : Zstd δ ε) (body : List UInt8) :
    Decodes (decode zstd) none (fun input => input) body := by
  have follows : Follows copy (decode zstd) (fun _ => none) fun e => nomatch e := fun _ _ _ => rfl
  exact (decodes_copy body).embed follows

theorem decodes_zstd {decoder : δ}
    (decodes : Decodes zstd.runOnBuffers decoder decodable body) :
    Decodes (decode zstd) (some decoder) decodable body := by
  have follows : Follows zstd.runOnBuffers (decode zstd) some fun _ => .unprocessableEntity := by
    intro decoder chunk want
    rw [decode]
    cases zstd.runOnBuffers decoder chunk want <;> rfl
  exact decodes.embed follows

theorem fed_nothing {head : Head δ} (decodes : Decodes (decode zstd) start decodable body)
    (empty : head.bytes = []) (decoder : head.decoder = start) :
    Fed zstd start decodable head [] [] := by
  have reached : Reached (decode zstd) start head.decoder [] [] head.bytes := by
    rw [empty, decoder]
    exact .start
  have front : [] <+: ([] : List UInt8) ++ [] := List.nil_prefix
  refine ⟨by rw [empty]; exact List.nil_prefix, ⟨_, _, front, reached⟩, fun _ => ?_⟩
  exact ⟨_, front, reached, fun _ => by rw [empty, decodes.nothing]⟩

def Documented (zstd : Zstd δ ε) (format : Format) : Prop :=
  ∀ decoder, zstd.newDecoder = some decoder → ∀ body, format.valid body →
    Decodes zstd.runOnBuffers decoder format.decodable body

def Format.decoded (format : Format) : Encoding → List UInt8 → List UInt8
  | .identity, body => body
  | .zstd, body => format.decodable body

def Accepted (result : Except StatusCode Nat) : Prop := ∃ size, result = .ok size

theorem stored_iff_passes {works passes : Prop} {result : Except StatusCode Nat}
    (judged : Judged works passes result) (working : works) : Accepted result ↔ passes := by
  cases judged with
  | stored size passed => exact ⟨fun _ => passed, fun _ => ⟨size, rfl⟩⟩
  | refused failed => exact ⟨fun ⟨_, same⟩ => (by cases same), fun passed => absurd passed failed⟩
  | broken breaks => exact absurd working breaks

theorem store_judged (disk : Disk φ) {format : Format} (documented : Documented zstd format)
    (encoding : Encoding) {chunks : List (List UInt8)}
    (valid : encoding = .zstd → format.valid chunks.flatten)
    (within : chunks.flatten.length ≤ maxBytes) :
    Judged (Works zstd disk) (magic <+: format.decoded encoding chunks.flatten)
      (store zstd disk (chunks.map some) encoding) := by
  rw [store]
  rcases start_cases zstd disk encoding with ⟨s, began, received, empty, source⟩ | ⟨began, fails⟩
  · rw [began]
    change Judged _ _ ((chunks.map some).foldlM (Storing.chunk zstd disk) s >>= Storing.finish zstd disk)
    rcases source with ⟨rfl, decoder⟩ | ⟨rfl, start, made, decoder⟩
    · have decodes := decodes_identity zstd chunks.flatten
      exact rest_judged disk decodes within chunks s [] received
        (fed_nothing decodes empty decoder) rfl
    · have decodes := decodes_zstd (documented start made _ (valid rfl))
      exact rest_judged disk decodes within chunks s [] received
        (fed_nothing decodes empty decoder) rfl
  · rw [began]
    exact .broken fails

/-- Whether an upload is stored is up to what it decodes to, and not to how it was cut. -/
theorem chunking_unseen (disk : Disk φ) {format : Format} (documented : Documented zstd format)
    (encoding : Encoding) (chunks : List (List UInt8))
    (valid : encoding = .zstd → format.valid chunks.flatten)
    (within : chunks.flatten.length ≤ maxBytes) :
    Judged (Works zstd disk) (magic <+: format.decoded encoding chunks.flatten)
        (store zstd disk (chunks.map some) encoding)
      ∧ ∀ other : List (List UInt8), other.flatten = chunks.flatten → Works zstd disk →
        (Accepted (store zstd disk (other.map some) encoding)
          ↔ Accepted (store zstd disk (chunks.map some) encoding)) := by
  have judged := store_judged disk documented encoding valid within
  refine ⟨judged, fun other same works => ?_⟩
  rw [← same] at valid within
  have judgedToo := store_judged disk documented encoding valid within
  rw [same] at judgedToo
  rw [stored_iff_passes judgedToo works, stored_iff_passes judged works]

end Fed

-- the header of a frame in one piece, and that of its last block: eight bytes as they are
def frameHeader : List UInt8 := [0x28, 0xB5, 0x2F, 0xFD, 0x20, 0x08, 0x41, 0x00, 0x00]

def rawFrame : List UInt8 := frameHeader ++ magic

def rawFormat : Format where
  valid body := body = rawFrame
  decodable input := (input.drop frameHeader.length).take magic.length

def rawZstd : Zstd (List UInt8 × List UInt8) Unit where
  newDecoder := some ([], [])
  runOnBuffers := buffered (fun input => input.isPrefixOf rawFrame) rawFormat.decodable
  newEncoder _ := some ()
  writeAll encoder _ := some encoder
  take encoder := ([], encoder)
  finish _ := some []

def keepingDisk : Disk (List UInt8) where
  create := some []
  writeAll file out := some (file ++ out)
  syncAll := some

theorem documented_rawZstd : Documented rawZstd rawFormat := by
  rintro _ ⟨⟩ _ rfl
  have grows : ∀ first second : List UInt8, first <+: second →
      rawFormat.decodable first <+: rawFormat.decodable second :=
    fun first second shorter => (shorter.drop _).take _
  have begins : ∀ used, used <+: rawFrame → used.isPrefixOf rawFrame = true :=
    fun used front => List.isPrefixOf_iff_prefix.mpr front
  exact decodes_buffered rfl grows begins

theorem works_keepingDisk : Works rawZstd keepingDisk := by
  constructor <;> simp [rawZstd, keepingDisk]

theorem chunking_unseen_bytes :
    Accepted (store rawZstd keepingDisk ((rawFrame.map fun b => [b]).map some) .zstd)
      ∧ ∀ other : List (List UInt8), other.flatten = rawFrame →
        Accepted (store rawZstd keepingDisk (other.map some) .zstd) := by
  have both := chunking_unseen keepingDisk documented_rawZstd .zstd (rawFrame.map fun b => [b])
    (fun _ => rfl) (by decide)
  have stored := (stored_iff_passes both.1 works_keepingDisk).mpr (by decide)
  exact ⟨stored, fun other same => (both.2 other same works_keepingDisk).mpr stored⟩

end Recording

end BitDemon
