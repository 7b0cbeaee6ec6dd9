import BitDemon.DwServer.Numerals
import BitDemon.DwServer.Social.Member
import BitDemon.DwServer.Social.Naming

set_option autoImplicit false

/-!
# What the routes read from a request

Users stand in paths, the invited ones in a body that no reader of JSON looks
at, and a session in the string of a connection.
-/

namespace BitDemon

open Search DwAuth

namespace Routes

def trimMatches (p : Char → Bool) (text : List Char) : List Char :=
  ((text.dropWhile p).reverse.dropWhile p).reverse

def stripSuffix (c : Char) (text : List Char) : Option (List Char) :=
  if text.getLast? = some c then some text.dropLast else none

def parseXuid (segment : String) : Option UInt64 :=
  ((stripPrefix "xuid(".toList segment.toList).bind (stripSuffix ')') |>.bind parseId)
    <|> parseId segment.toList

def xuidIn (path : String) : Option UInt64 :=
  match after "xuid(".toList path.toList with
  | some rest => if ')' ∈ rest then parseId (rest.takeWhile (· ≠ ')')) else none
  | none => parseId path.toList

def invitedUser (field : List Char) : Option UInt64 :=
  parseId (trimMatches (· == '"') (trimMatches Friends.isWhitespace field))

def xuidsIn (body : String) : List UInt64 :=
  match (after "\"invitedUsers\"".toList body.toList).bind (after ['[']) with
  | some rest =>
    if ']' ∈ rest then ((rest.takeWhile (· ≠ ']')).splitOn ',').filterMap invitedUser else []
  | none => []

-- the sender of an invitation, from the authorization header
def sender (authorization : Option String) : Option UInt64 := do
  let token ← authorization
  let fields ← stripPrefix "IW4x1.0 ".toList token.toList
  let digits ← (fields.splitOn ';').findSome? (stripPrefix "xuid=".toList)
  (parseUnsigned 16 (2 ^ 64) digits).map UInt64.ofNat

theorem digit_of_parseDigits {radix limit value n : Nat} {text : List Char}
    (read : parseDigits radix limit value text = some n) :
    ∀ c ∈ text, (digitValue radix c).isSome = true := by
  induction text generalizing value with
  | nil => nofun
  | cons c text ih =>
    rw [parseDigits] at read
    obtain ⟨digit, first, rest⟩ := Option.bind_eq_some_iff.mp read
    dsimp only at rest
    split at rest
    next => exact List.forall_mem_cons.mpr ⟨Option.isSome_iff_exists.mpr ⟨digit, first⟩, ih rest⟩
    next => cases rest

theorem not_mem_of_parseId {text : List Char} {userId : UInt64} {c : Char}
    (read : parseId text = some userId) (sign : c ≠ '+') (other : digitValue 10 c = none) :
    c ∉ text := by
  intro member
  obtain ⟨n, parsed, _⟩ := Option.map_eq_some_iff.mp read
  have digit {digits : List Char} (read : parseDigits 10 (2 ^ 64) 0 digits = some n) : c ∉ digits := by
    intro member
    have some := digit_of_parseDigits read c member
    rw [other] at some
    cases some
  unfold parseUnsigned at parsed
  split at parsed
  next => cases parsed
  next => cases parsed
  next =>
    rcases List.mem_cons.mp member with same | later
    next => exact sign same
    next => exact digit parsed later
  next => exact digit parsed member

theorem stripPrefix_eq_some {lead text rest : List Char} (found : stripPrefix lead text = some rest) :
    text = lead ++ rest := by
  rw [stripPrefix] at found
  split at found
  next leads =>
    obtain ⟨tail, rfl⟩ := List.isPrefixOf_iff_prefix.mp leads
    rw [List.drop_left] at found
    rw [Option.some.inj found]
  next => cases found

theorem stripSuffix_eq_some {c : Char} {text rest : List Char} (found : stripSuffix c text = some rest) :
    text = rest ++ [c] := by
  rw [stripSuffix] at found
  split at found
  next ends =>
    rw [← Option.some.inj found]
    exact (List.dropLast_append_getLast? c ends).symm
  next => cases found

-- a user as a path spells him
def spelledUser (userId : UInt64) : String := "xuid(" ++ toString userId ++ ")"

theorem parseId_toString (n : UInt64) : parseId (toString n).toList = some n := by
  have digits : (toString n).toList = Nat.toDigits 10 n.toNat := Nat.toList_repr
  rw [parseId, digits, parseUnsigned_toDigits (by decide) (by decide) n.toNat_lt, Option.map_some,
    UInt64.ofNat_toNat]

theorem parseXuid_spelled (userId : UInt64) : parseXuid (spelledUser userId) = some userId := by
  have whole : (spelledUser userId).toList
      = "xuid(".toList ++ ((toString userId).toList ++ [')']) := by
    simp [spelledUser]
  have led : stripPrefix "xuid(".toList (spelledUser userId).toList
      = some ((toString userId).toList ++ [')']) := by
    rw [whole, stripPrefix, if_pos (List.isPrefixOf_iff_prefix.mpr (List.prefix_append _ _)),
      List.drop_left]
  have ended : stripSuffix ')' ((toString userId).toList ++ [')']) = some (toString userId).toList := by
    simp [stripSuffix]
  rw [parseXuid, led, Option.bind_some, ended, Option.bind_some, parseId_toString]
  rfl

theorem parseXuid_plain (userId : UInt64) : parseXuid (toString userId) = some userId := by
  have letter : 'x' ∉ (toString userId).toList :=
    not_mem_of_parseId (parseId_toString userId) (by decide) (by decide)
  have plain : stripPrefix "xuid(".toList (toString userId).toList = none := by
    rw [stripPrefix, if_neg]
    intro leads
    exact letter ((List.isPrefixOf_iff_prefix.mp leads).subset (by decide))
  rw [parseXuid, plain, Option.bind_none, Option.bind_none, parseId_toString]
  rfl

theorem xuidIn_spelled {path : String} {digits : List Char} {userId : UInt64}
    (spelled : path.toList = "xuid(".toList ++ (digits ++ [')'])) (read : parseId digits = some userId) :
    xuidIn path = some userId := by
  have closed : ')' ∉ digits := not_mem_of_parseId read (by decide) (by decide)
  have inside : ∀ c ∈ digits, decide (c ≠ ')') = true :=
    fun c member => decide_eq_true fun same => closed (same ▸ member)
  have first : after "xuid(".toList path.toList = some (digits ++ [')']) :=
    after_eq_some_iff.mpr ⟨[], spelled, fun _ _ _ => Nat.zero_le _⟩
  rw [xuidIn, first]
  dsimp only
  rw [if_pos (by simp), List.takeWhile_append_of_pos inside, List.takeWhile_cons_of_neg (by simp),
    List.append_nil, read]

theorem xuidIn_of_parseXuid {path : String} {userId : UInt64} (read : parseXuid path = some userId) :
    xuidIn path = some userId := by
  rw [parseXuid] at read
  cases spelled : ((stripPrefix "xuid(".toList path.toList).bind (stripSuffix ')')).bind parseId with
  | some found =>
    rw [spelled] at read
    obtain rfl : found = userId := Option.some.inj read
    obtain ⟨digits, stripped, parsed⟩ := Option.bind_eq_some_iff.mp spelled
    obtain ⟨rest, led, ended⟩ := Option.bind_eq_some_iff.mp stripped
    refine xuidIn_spelled ?_ parsed
    rw [stripPrefix_eq_some led, stripSuffix_eq_some ended]
  | none =>
    rw [spelled] at read
    have plain : parseId path.toList = some userId := read
    have none_spelled : after "xuid(".toList path.toList = none := by
      by_contra found
      obtain ⟨rest, some⟩ := Option.ne_none_iff_exists'.mp found
      obtain ⟨front, whole, _⟩ := after_eq_some_iff.mp some
      have letter : 'x' ∉ path.toList := not_mem_of_parseId plain (by decide) (by decide)
      exact letter (by rw [whole]; simp)
    rw [xuidIn, none_spelled]
    exact plain

/--
The user whose friends a path asks for is the one whose session it publishes, and
each user can be spelled in either way.
-/
theorem users_of_paths :
    (∀ path userId, parseXuid path = some userId → xuidIn path = some userId)
      ∧ ∀ userId, ∀ path ∈ [spelledUser userId, toString userId],
        parseXuid path = some userId ∧ xuidIn path = some userId := by
  have both {path : String} {userId : UInt64} (read : parseXuid path = some userId) :
      parseXuid path = some userId ∧ xuidIn path = some userId := ⟨read, xuidIn_of_parseXuid read⟩
  refine ⟨fun path userId read => xuidIn_of_parseXuid read, fun userId => ?_⟩
  simp only [List.forall_mem_cons]
  exact ⟨both (parseXuid_spelled userId), both (parseXuid_plain userId), nofun⟩

-- `chunks(2)`
def pairs : List UInt8 → List (List UInt8)
  | [] => []
  | [last] => [[last]]
  | first :: second :: rest => [first, second] :: pairs rest

def repeatedByte (hex : String) : Bool :=
  let b := Utf8.encode hex
  !b.isEmpty && b.length % 2 == 0 && (pairs b).all (· == b.take 2)

def usableSession (connection : String) : Except String Unit :=
  if (member connection "dw_sec_kid").any repeatedByte then
    .error "carries a placeholder security ID"
  else if (member connection "dw_sec_key").any repeatedByte then
    .error "carries a placeholder security key"
  else
    .ok ()

def Usable (connection : String) : Prop := usableSession connection = .ok ()

instance (connection : String) : Decidable (Usable connection) :=
  inferInstanceAs (Decidable (usableSession connection = .ok ()))

end Routes

end BitDemon
