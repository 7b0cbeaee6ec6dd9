import BitDemon.Auth.Steam
import BitDemon.Messaging.Strings

set_option autoImplicit false

/-!
# Strings at the end of a message

The name of a Steam ticket is the last thing in it. Without a terminator it is
taken all the same, short of its last byte.
-/

namespace BitDemon

open Machine Bits BdReader

namespace CustomSteamAuthenticationRequest

-- everything before the name
def header : ReadM (UInt64 × List UInt8) := do
  BdReader.setMode .byteMode
  BdReader.setTypeChecked false
  let signature ← BdReader.readU32
  ensure (signature == customTicketSignature) (.signatureMismatch signature customTicketSignature)
  let steamId ← BdReader.readU64
  let secretDataSize ← BdReader.readU32
  ensure (secretDataSize.toNat == expectedSecretDataSize)
    (.unexpectedSecretLength secretDataSize.toNat expectedSecretDataSize)
  let sessionKey ← BdReader.readBytes 24
  pure (steamId, sessionKey)

theorem deserialize_eq : deserialize = (do
    let fields ← header
    let username ← BdReader.readStr
    ensure (decide (username.utf8ByteSize < 64)) (.usernameInvalidLength username.utf8ByteSize 64)
    pure { steamId := fields.1, sessionKey := arrayOf 24 fields.2, username }) := by
  simp only [deserialize, header, bind_assoc, pure_bind]

def Plain (r : BdReader) : Prop := r.mode = .byteMode ∧ r.typeChecked = false

abbrev StaysPlain {α : Type} (m : ReadM α) : Prop := Keeps Plain (fun _ => True) m

theorem plain_cursorReadExact (n : Nat) : StaysPlain (cursorReadExact n) :=
  keeps_get_bind fun _ plain => keeps_ite
    (fun _ => keeps_bind (keeps_set plain) fun _ => keeps_pure _)
    fun _ => keeps_bind (keeps_set plain) fun _ => keeps_throw trivial

theorem plain_ensure (condition : Bool) (e : BdError) : StaysPlain (ensure condition e) :=
  keeps_ite (fun _ => keeps_pure ()) fun _ => keeps_throw trivial

theorem plain_readScalar {α : Type} (dataType : BdDataType) (c : LeCodec α) :
    StaysPlain (readScalar dataType c) := by
  have tag : StaysPlain (readTypeTag dataType) := by
    refine keeps_get_bind fun r plain => ?_
    rw [if_neg (by simp [plain.2])]
    exact keeps_pure ()
  refine keeps_bind tag fun _ => keeps_get_bind fun r plain => ?_
  rw [if_pos plain.1]
  exact keeps_bind (plain_cursorReadExact _) fun _ => keeps_pure _

theorem plain_readBytes (n : Nat) : StaysPlain (BdReader.readBytes n) := by
  refine keeps_get_bind fun r plain => ?_
  rw [if_neg (by simp [plain.1])]
  exact keeps_bind (keeps_get_bind fun r plain => keeps_bind (keeps_set plain) fun _ => keeps_pure _)
    fun bytes => keeps_bind (plain_ensure _ _) fun _ => keeps_pure _

theorem plain_of_header {r t : BdReader} {fields : UInt64 × List UInt8}
    (read : exec header r = (.ok fields, t)) : Plain t := by
  have rest : StaysPlain (do
      let signature ← BdReader.readU32
      ensure (signature == customTicketSignature)
        (.signatureMismatch signature customTicketSignature)
      let steamId ← BdReader.readU64
      let secretDataSize ← BdReader.readU32
      ensure (secretDataSize.toNat == expectedSecretDataSize)
        (.unexpectedSecretLength secretDataSize.toNat expectedSecretDataSize)
      let sessionKey ← BdReader.readBytes 24
      pure (steamId, sessionKey)) := by
    refine keeps_bind (plain_readScalar _ _) fun signature => ?_
    refine keeps_bind (plain_ensure _ _) fun _ => ?_
    refine keeps_bind (plain_readScalar _ _) fun steamId => ?_
    refine keeps_bind (plain_readScalar _ _) fun secretDataSize => ?_
    refine keeps_bind (plain_ensure _ _) fun _ => ?_
    exact keeps_bind (plain_readBytes 24) fun sessionKey => keeps_pure _
  have after : Plain (exec header r).2 :=
    (rest { r with mode := .byteMode, typeChecked := false } ⟨rfl, rfl⟩).1
  rw [read] at after
  exact after

def Refused (ticket : List UInt8) : Prop :=
  ∃ fault, (exec deserialize (BdReader.new ticket)).1 = .error fault

def UnterminatedRefused (ticket : List UInt8) : Prop :=
  ∀ fields t, exec header (BdReader.new ticket) = (.ok fields, t) → 0 ∉ t.cursor → Refused ticket

def PassesUnterminated (name : List UInt8) : Prop :=
  ∃ username, Utf8.decode? name.dropLast = some username ∧ username.utf8ByteSize < 64

theorem refused_iff {ticket : List UInt8} {fields : UInt64 × List UInt8} {t : BdReader}
    (read : exec header (BdReader.new ticket) = (.ok fields, t)) (unterminated : 0 ∉ t.cursor) :
    Refused ticket ↔ ¬PassesUnterminated t.cursor := by
  obtain ⟨inMode, untyped⟩ := plain_of_header read
  rw [Refused, deserialize_eq, exec_bind_ok _ read, exec_bind,
    exec_readStr_byteMode untyped inMode, exec_strElement_open unterminated, exec_fromUtf8]
  rw [PassesUnterminated]
  cases Utf8.decode? t.cursor.dropLast with
  | none => simp
  | some username =>
    by_cases short : username.utf8ByteSize < 64 <;> simp [short, ensure, fail]

theorem unterminatedRefused_iff (ticket : List UInt8) :
    UnterminatedRefused ticket
      ↔ ∀ fields t, exec header (BdReader.new ticket) = (.ok fields, t) → 0 ∉ t.cursor →
        ¬PassesUnterminated t.cursor :=
  forall_congr' fun _ => forall_congr' fun _ => forall_congr' fun read =>
    forall_congr' fun unterminated => refused_iff read unterminated

/--
Where a string is only read if it is terminated. In bit mode it always is. In
byte mode the claim fails where no zero byte is left, but what is left is a text
without its last byte: for one string, for the two modes on one stream, for each
element of an array that is come to, and for the name of a ticket.
-/
theorem strings_terminated_iff (p : Untyped) (r : BdReader) (ticket : List UInt8) :
    (ReadsTerminated p.reader ↔ p.reader.mode = .bitMode ∨ EndsStrings p.reader.cursor)
      ∧ (p.reader.bitOffset = 8 → (ModesAgree p.reader ↔ EndsStrings p.reader.cursor))
      ∧ (ArrayTerminated r ↔ ∀ n t, exec strArrayHeader r = (.ok n, t) → EndsEach n t.cursor)
      ∧ (UnterminatedRefused ticket
        ↔ ∀ fields t, exec header (BdReader.new ticket) = (.ok fields, t) → 0 ∉ t.cursor →
          ¬PassesUnterminated t.cursor) :=
  ⟨readsTerminated_iff p, modesAgree_iff p, arrayTerminated_iff r, unterminatedRefused_iff ticket⟩

-- "ab", and no zero after it
def cutOff : Untyped :=
  { reader := BdReader.new [97, 98], untyped := rfl, uncached := rfl, sound := sound_new _ }

def cutTicket : List UInt8 :=
  LeCodec.u32.toLeBytes customTicketSignature ++ LeCodec.u64.toLeBytes 7
    ++ LeCodec.u32.toLeBytes 88 ++ List.replicate 24 9 ++ [97, 98]

theorem cut_off_read :
    (exec readStr cutOff.reader).1 = .ok "a"
      ∧ (exec readStr { cutOff.reader with mode := .bitMode }).1 = .error (.error .unexpectedEof)
      ∧ (exec deserialize (BdReader.new cutTicket)).1
        = .ok { steamId := 7, sessionKey := Vector.replicate 24 9, username := "a" }
      ∧ ¬(∀ p : Untyped, ReadsTerminated p.reader) ∧ ¬∀ ticket, UnterminatedRefused ticket := by
  have taken : (exec deserialize (BdReader.new cutTicket)).1
      = .ok { steamId := 7, sessionKey := Vector.replicate 24 9, username := "a" } := by
    decide +kernel
  have read : exec readStr cutOff.reader = (.ok "a", { cutOff.reader with cursor := [] }) := by
    decide +kernel
  refine ⟨by rw [read], by decide +kernel, taken, fun all => ?_, fun all => ?_⟩
  · obtain ⟨_, starts⟩ := (all cutOff "a" []).mp ⟨_, read, rfl⟩
    have whole : (ofBytes [97, 98] : List Bool) = ofBytes [97, 0] := by
      rw [← List.append_nil (ofBytes [97, 0])]
      exact starts
    exact absurd (ofBytes_inj whole) (by decide)
  · have unterminated := all cutTicket (7, List.replicate 24 9)
      { BdReader.new [97, 98] with mode := .byteMode } (by decide +kernel) (by decide)
    obtain ⟨fault, refused⟩ := unterminated
    rw [taken] at refused
    cases refused

end CustomSteamAuthenticationRequest

end BitDemon
