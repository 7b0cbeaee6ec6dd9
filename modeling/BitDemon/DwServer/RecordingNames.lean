import BitDemon.DwServer.Numerals
import BitDemon.DwServer.Recording
import BitDemon.Library.Utf8

set_option autoImplicit false

/-!
# Names of recordings

The file of an upload is named after what its headers tell. They come from
outside, and the name is a path.
-/

namespace BitDemon

open DwAuth

namespace Recording

abbrev HeaderValue := List UInt8

abbrev HeaderMap := String → Option HeaderValue

-- `to_str` refuses what is not visible
def toStr (value : HeaderValue) : Option String :=
  if value.all fun b => (32 ≤ b && b < 127) || b == 9 then
    some (String.ofList (value.map fun b => Char.ofNat b.toNat))
  else
    none

def isPlain (c : Char) : Bool := c.isAlphanum || c == '_' || c == '.'

def sanitize (s : String) : String := String.ofList ((s.toList.filter isPlain).take 64)

-- `parse::<i64>`
def parseI64 (text : List Char) : Option Int64 :=
  match text with
  | ['-'] => none
  | '-' :: digits => (parseDigits 10 (2 ^ 63 + 1) 0 digits).map fun n => Int64.ofInt (-n)
  | digits => (parseUnsigned 10 (2 ^ 63) digits).map Int64.ofNat

structure Metadata where
  xuid : UInt64
  started : Int64
  map : String
  gametype : String
  client : String
  deriving DecidableEq

def metadata (headers : HeaderMap) : Option Metadata := do
  let value := fun name => (headers name).bind toStr
  let map := sanitize (← value "x-iw4x-map")
  let gametype := sanitize (← value "x-iw4x-gametype")
  if map.isEmpty || gametype.isEmpty then
    none
  else
    let xuid ← (← value "x-iw4x-xuid") |>.toList |> parseUnsigned 10 (2 ^ 64)
    let started ← (← value "x-iw4x-started") |>.toList |> parseI64
    some
      { xuid := UInt64.ofNat xuid, started, map, gametype
        client := sanitize ((value "x-iw4x-client").getD "") }

inductive Answer where
  | created
  | unsupportedMediaType
  | refused (status : StatusCode)
  deriving DecidableEq

def encodingOf (headers : HeaderMap) : Option Encoding :=
  match (headers "content-encoding").map fun value => (toStr value).getD "" with
  | none | some "identity" => some .identity
  | some "zstd" => some .zstd
  | some _ => none

def readHeaders (headers : HeaderMap) : Except Answer (Metadata × Encoding) :=
  match metadata headers with
  | none => .error (.refused .badRequest)
  | some found =>
    match encodingOf headers with
    | none => .error .unsupportedMediaType
    | some encoding =>
      let length := ((headers "content-length").bind toStr).bind fun text =>
        parseUnsigned 10 (2 ^ 64) text.toList
      if length.any (maxBytes < ·) then .error (.refused .payloadTooLarge)
      else .ok (found, encoding)

-- `{nonce:08x}`
def hex8 (nonce : UInt32) : List Char :=
  let digits := Nat.toDigits 16 nonce.toNat
  List.replicate (8 - digits.length) '0' ++ digits

def intText : Int → List Char
  | .ofNat n => Nat.toDigits 10 n
  | .negSucc n => '-' :: Nat.toDigits 10 (n + 1)

def suffix : List Char := ".iw4rec.zst".toList

def nameChars (found : Metadata) (nonce : UInt32) : List Char :=
  Nat.toDigits 10 found.xuid.toNat ++ '-' :: (intText found.started.toInt ++ '-' :: (found.map.toList
    ++ '-' :: (found.gametype.toList ++ '-' :: (hex8 nonce ++ suffix))))

def fileName (found : Metadata) (nonce : UInt32) : String := String.ofList (nameChars found nonce)

-- what stands behind the last dot is replaced; no name here begins with its only dot
def withExtension (name extension : String) : String :=
  if '.' ∈ name.toList then
    String.ofList ((name.toList.reverse.dropWhile (· ≠ '.')).reverse ++ extension.toList)
  else
    name ++ "." ++ extension

def partName (name : String) : String := withExtension name "zst.part"

structure Plain (found : Metadata) : Prop where
  map : ∀ c ∈ found.map.toList, isPlain c = true
  gametype : ∀ c ∈ found.gametype.toList, isPlain c = true
  mapLength : found.map.toList.length ≤ 64
  gametypeLength : found.gametype.toList.length ≤ 64

theorem plain_sanitize (s : String) :
    (∀ c ∈ (sanitize s).toList, isPlain c = true) ∧ (sanitize s).toList.length ≤ 64 := by
  rw [sanitize, String.toList_ofList]
  refine ⟨fun c member => (List.mem_filter.mp (List.mem_of_mem_take member)).2, ?_⟩
  exact List.length_take_le 64 _

theorem plain_metadata {headers : HeaderMap} {found : Metadata}
    (given : metadata headers = some found) : Plain found := by
  simp only [metadata, Option.bind_eq_bind, Option.bind_eq_some_iff] at given
  obtain ⟨map, _, gametype, _, given⟩ := given
  split at given
  next => cases given
  next =>
    simp only [Option.bind_eq_some_iff, Option.some.injEq] at given
    obtain ⟨_, _, _, _, _, _, _, _, rfl⟩ := given
    exact ⟨(plain_sanitize map).1, (plain_sanitize gametype).1, (plain_sanitize map).2,
      (plain_sanitize gametype).2⟩

theorem plain_readHeaders {headers : HeaderMap} {found : Metadata} {encoding : Encoding}
    (admitted : readHeaders headers = .ok (found, encoding)) : Plain found := by
  rw [readHeaders] at admitted
  split at admitted
  next => cases admitted
  next given =>
    split at admitted
    next => cases admitted
    next =>
      dsimp only at admitted
      split at admitted
      next => cases admitted
      next =>
        obtain ⟨rfl, _⟩ := Prod.mk.inj (Except.ok.inj admitted)
        exact plain_metadata given

theorem digits_plain {radix n : Nat} (two : 1 < radix) (few : radix ≤ 16) :
    ∀ c ∈ Nat.toDigits radix n, isPlain c = true := by
  have each : ∀ d : Fin 16, isPlain (Nat.digitChar d.val) = true := by decide
  intro c member
  obtain ⟨digit, small, rfl⟩ := mem_toDigits two member
  exact each ⟨digit, by omega⟩

theorem hex8_plain (nonce : UInt32) : ∀ c ∈ hex8 nonce, isPlain c = true := by
  intro c member
  rcases List.mem_append.mp member with zero | digit
  next =>
    rw [List.eq_of_mem_replicate zero]
    rfl
  next => exact digits_plain (by decide) (by decide) c digit

theorem length_hex8 (nonce : UInt32) : (hex8 nonce).length = 8 := by
  have short : (Nat.toDigits 16 nonce.toNat).length ≤ 8 :=
    (Nat.length_toDigits_le_iff (by decide) (by decide)).mpr nonce.toNat_lt
  rw [hex8, List.length_append, List.length_replicate]
  omega

theorem not_mem_of_plain {text : List Char} (plain : ∀ c ∈ text, isPlain c = true) : '-' ∉ text := by
  intro member
  have dash := plain '-' member
  cases dash

theorem append_dash_inj {a b x y : List Char} (first : '-' ∉ a) (second : '-' ∉ b)
    (same : a ++ '-' :: x = b ++ '-' :: y) : a = b ∧ x = y := by
  have before {text : List Char} (rest : List Char) (none_inside : '-' ∉ text) :
      (text ++ '-' :: rest).takeWhile (· ≠ '-') = text := by
    rw [List.takeWhile_append_of_pos, List.takeWhile_cons_of_neg (by simp), List.append_nil]
    exact fun c member => decide_eq_true fun dash => none_inside (dash ▸ member)
  have front : a = b := by
    rw [← before x first, same, before y second]
  subst front
  exact ⟨rfl, (List.cons.inj (List.append_cancel_left same)).2⟩

theorem toDigits_inj {radix a b : Nat} (two : 1 < radix) (few : radix ≤ 16)
    (same : Nat.toDigits radix a = Nat.toDigits radix b) : a = b := by
  have first := @parseDigits_toDigits radix two few (a + b + 1) a (by omega)
  have second := @parseDigits_toDigits radix two few (a + b + 1) b (by omega)
  rw [same, second] at first
  exact (Option.some.inj first).symm

theorem hex8_inj {a b : UInt32} (same : hex8 a = hex8 b) : a = b := by
  have zeros (count : Nat) (digits : List Char) :
      parseDigits 16 (2 ^ 32) 0 (List.replicate count '0' ++ digits) = parseDigits 16 (2 ^ 32) 0 digits := by
    induction count with
    | zero => rfl
    | succ count ih => exact ih
  have read (nonce : UInt32) : parseDigits 16 (2 ^ 32) 0 (hex8 nonce) = some nonce.toNat := by
    rw [hex8, zeros, parseDigits_toDigits (by decide) (by decide) nonce.toNat_lt]
  have equal := read a
  rw [same, read b] at equal
  exact UInt32.toNat_inj.mp (Option.some.inj equal).symm

theorem intText_append_inj {a b : Int} {x y : List Char}
    (same : intText a ++ '-' :: x = intText b ++ '-' :: y) : a = b ∧ x = y := by
  have clean (n : Nat) : '-' ∉ Nat.toDigits 10 n :=
    not_mem_of_plain (digits_plain (by decide) (by decide))
  -- a digit begins the one, the sign the other
  have signed {n : Nat} {u v : List Char} (clash : Nat.toDigits 10 n ++ u = '-' :: v) : False := by
    cases digits : Nat.toDigits 10 n with
    | nil => exact Nat.toDigits_ne_nil digits
    | cons c rest =>
      rw [digits] at clash
      have sign := (List.cons.inj clash).1
      exact clean n (by rw [digits, sign]; exact List.mem_cons_self)
  cases a with
  | ofNat m =>
    cases b with
    | ofNat n =>
      obtain ⟨digits, rest⟩ := append_dash_inj (clean m) (clean n) same
      exact ⟨by rw [toDigits_inj (by decide) (by decide) digits], rest⟩
    | negSucc n => exact (signed same).elim
  | negSucc m =>
    cases b with
    | ofNat n => exact (signed same.symm).elim
    | negSucc n =>
      obtain ⟨digits, rest⟩ := append_dash_inj (clean (m + 1)) (clean (n + 1)) (List.cons.inj same).2
      have equal : m = n := Nat.succ.inj (toDigits_inj (by decide) (by decide) digits)
      exact ⟨by rw [equal], rest⟩

theorem nameChars_inj {a b : Metadata} {m n : UInt32} (plain : Plain a) (plain' : Plain b)
    (same : nameChars a m = nameChars b n) :
    a.xuid = b.xuid ∧ a.started = b.started ∧ a.map = b.map ∧ a.gametype = b.gametype ∧ m = n := by
  have clean (n : Nat) : '-' ∉ Nat.toDigits 10 n :=
    not_mem_of_plain (digits_plain (by decide) (by decide))
  obtain ⟨xuid, same⟩ := append_dash_inj (clean _) (clean _) same
  obtain ⟨started, same⟩ := intText_append_inj same
  obtain ⟨map, same⟩ := append_dash_inj (not_mem_of_plain plain.map) (not_mem_of_plain plain'.map) same
  obtain ⟨gametype, same⟩ :=
    append_dash_inj (not_mem_of_plain plain.gametype) (not_mem_of_plain plain'.gametype) same
  exact ⟨UInt64.toNat_inj.mp (toDigits_inj (by decide) (by decide) xuid), Int64.toInt_inj.mp started,
    String.toList_inj.mp map, String.toList_inj.mp gametype, hex8_inj (List.append_cancel_right same)⟩

theorem fileName_inj {a b : Metadata} {m n : UInt32} (plain : Plain a) (plain' : Plain b) :
    fileName a m = fileName b n
      ↔ a.xuid = b.xuid ∧ a.started = b.started ∧ a.map = b.map ∧ a.gametype = b.gametype ∧ m = n := by
  constructor
  · intro same
    have chars := congrArg String.toList same
    rw [fileName, fileName, String.toList_ofList, String.toList_ofList] at chars
    exact nameChars_inj plain plain' chars
  · rintro ⟨xuid, started, map, gametype, rfl⟩
    rw [fileName, fileName, nameChars, nameChars, xuid, started, map, gametype]

theorem fileName_suffix (found : Metadata) (nonce : UInt32) :
    ∃ stem, (fileName found nonce).toList = stem ++ ".iw4rec.".toList ++ "zst".toList := by
  have split : suffix = ".iw4rec.".toList ++ "zst".toList := by decide
  rw [fileName, String.toList_ofList, nameChars, split]
  exact ⟨Nat.toDigits 10 found.xuid.toNat ++ '-' :: (intText found.started.toInt ++ '-' :: (found.map.toList
    ++ '-' :: (found.gametype.toList ++ '-' :: hex8 nonce))), by simp⟩

theorem partName_fileName (found : Metadata) (nonce : UInt32) :
    (partName (fileName found nonce)).toList = (fileName found nonce).toList ++ ".part".toList := by
  obtain ⟨stem, whole⟩ := fileName_suffix found nonce
  have dotted : '.' ∈ (fileName found nonce).toList := by rw [whole]; simp
  have kept : ((fileName found nonce).toList.reverse.dropWhile (· ≠ '.')).reverse
      = stem ++ ".iw4rec.".toList := by
    rw [whole]
    simp
  rw [partName, withExtension, if_pos dotted, String.toList_ofList, kept, whole]
  simp

theorem partName_inj {a b : Metadata} {m n : UInt32} :
    partName (fileName a m) = partName (fileName b n) ↔ fileName a m = fileName b n := by
  refine ⟨fun same => ?_, fun same => by rw [same]⟩
  have chars := congrArg String.toList same
  rw [partName_fileName, partName_fileName] at chars
  exact String.toList_inj.mp (List.append_cancel_right chars)

theorem partName_ne (a b : Metadata) (m n : UInt32) : partName (fileName a m) ≠ fileName b n := by
  intro same
  have ending := congrArg (fun name => name.toList.reverse.take 2) same
  obtain ⟨stem, whole⟩ := fileName_suffix b n
  simp [partName_fileName, whole] at ending

theorem length_nameChars {found : Metadata} (plain : Plain found) (nonce : UInt32) :
    (nameChars found nonce).length ≤ 191 := by
  have xuid : (Nat.toDigits 10 found.xuid.toNat).length ≤ 20 :=
    (Nat.length_toDigits_le_iff (by decide) (by decide)).mpr
      (Nat.lt_trans found.xuid.toNat_lt (by decide))
  have started : (intText found.started.toInt).length ≤ 20 := by
    have low := found.started.le_toInt
    have high := found.started.toInt_lt
    generalize found.started.toInt = n at low high
    cases n with
    | ofNat n =>
      have small : n < 2 ^ 63 := Int.ofNat_lt.mp high
      exact (Nat.length_toDigits_le_iff (by decide) (by decide)).mpr (by omega)
    | negSucc n =>
      have short : (Nat.toDigits 10 (n + 1)).length ≤ 19 :=
        (Nat.length_toDigits_le_iff (by decide) (by decide)).mpr (by omega)
      rw [intText, List.length_cons]
      omega
  have map := plain.mapLength
  have gametype := plain.gametypeLength
  have tail : suffix.length = 11 := by decide
  simp only [nameChars, List.length_append, List.length_cons, length_hex8, tail]
  omega

theorem confined_nameChars {found : Metadata} (plain : Plain found) (nonce : UInt32) :
    ∀ c ∈ nameChars found nonce, isPlain c = true ∨ c = '-' := by
  have digits (n : Nat) : ∀ c ∈ Nat.toDigits 10 n, isPlain c = true :=
    digits_plain (by decide) (by decide)
  have number : ∀ c ∈ intText found.started.toInt, isPlain c = true ∨ c = '-' := by
    intro c member
    cases value : found.started.toInt with
    | ofNat n => exact .inl (digits n c (by rwa [value] at member))
    | negSucc n =>
      rw [value] at member
      exact (List.mem_cons.mp member).elim .inr fun digit => .inl (digits _ c digit)
  have tail : ∀ c ∈ suffix, isPlain c = true := List.all_eq_true.mp (by decide)
  intro c member
  simp only [nameChars, List.mem_append, List.mem_cons] at member
  rcases member with xuid | dash | started | dash | map | dash | gametype | dash | nonce' | ending
  next => exact .inl (digits _ c xuid)
  next => exact .inr dash
  next => exact number c started
  next => exact .inr dash
  next => exact .inl (plain.map c map)
  next => exact .inr dash
  next => exact .inl (plain.gametype c gametype)
  next => exact .inr dash
  next => exact .inl (hex8_plain _ c nonce')
  next => exact .inl (tail c ending)

structure NamedApart (a b : Metadata) (m n : UInt32) : Prop where
  -- no character leads out of the directory
  confined : ∀ c ∈ (fileName a m).toList, isPlain c = true ∨ c = '-'
  fits : (partName (fileName a m)).toList.length ≤ 255
  apart : fileName a m = fileName b n
    ↔ a.xuid = b.xuid ∧ a.started = b.started ∧ a.map = b.map ∧ a.gametype = b.gametype ∧ m = n
  partsApart : partName (fileName a m) = partName (fileName b n) ↔ fileName a m = fileName b n
  noPart : partName (fileName a m) ≠ fileName b n

/--
Whatever the headers are: the file of an upload lies in the directory of the
recordings, two uploads share it only if they tell the same and draw one nonce,
and no part of an upload is taken for a recording.
-/
theorem named_apart (headers headers' : HeaderMap) (a b : Metadata) (encoding encoding' : Encoding)
    (m n : UInt32) (admitted : readHeaders headers = .ok (a, encoding))
    (admitted' : readHeaders headers' = .ok (b, encoding')) : NamedApart a b m n where
  confined c member := by
    rw [fileName, String.toList_ofList] at member
    exact confined_nameChars (plain_readHeaders admitted) m c member
  fits := by
    have length := length_nameChars (plain_readHeaders admitted) m
    have five : ".part".toList.length = 5 := by decide
    rw [partName_fileName, List.length_append, five, fileName, String.toList_ofList]
    omega
  apart := fileName_inj (plain_readHeaders admitted) (plain_readHeaders admitted')
  partsApart := partName_inj
  noPart := partName_ne a b m n

-- a map whose name asks for another directory
def tricked : HeaderMap := fun name =>
  if name = "x-iw4x-map" then some (Utf8.encode "../mp_rust")
  else if name = "x-iw4x-gametype" then some (Utf8.encode "war")
  else if name = "x-iw4x-xuid" then some (Utf8.encode "1")
  else if name = "x-iw4x-started" then some (Utf8.encode "-5")
  else none

theorem named_apart_tricked :
    NamedApart ⟨1, -5, "..mp_rust", "war", ""⟩ ⟨1, -5, "..mp_rust", "war", ""⟩ 7 8 :=
  named_apart tricked tricked _ _ .identity .identity 7 8 (by decide +kernel) (by decide +kernel)

end Recording

end BitDemon
