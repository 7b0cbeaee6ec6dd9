import Mathlib.Data.List.TakeWhile
import BitDemon.Messaging.Buffer

set_option autoImplicit false

/-!
# What the services rely on in SQLite

Rows stand in the order of their ids. An unsigned number that does not fit
SQLite's signed integers cannot be bound to a statement.
-/

namespace BitDemon

/-- How SQLite treats a statement on which its versions may differ. -/
structure Sqlite where
  -- `DELETE FROM table t`, with no `AS` before the alias
  acceptsBareAlias : Bool
  deriving DecidableEq

namespace Sqlite

-- binding a `u64` fails when it is no `i64`
def bindable (value : UInt64) : Bool := value.toNat < 2 ^ 63

/-- The id of a new row, in a table without `AUTOINCREMENT`. -/
def nextRowId (ids : List Nat) : Nat := ids.foldr max 0 + 1

theorem lt_nextRowId {ids : List Nat} {id : Nat} (present : id ∈ ids) : id < nextRowId ids := by
  induction ids with
  | nil => cases present
  | cons head rest ih =>
    have most : nextRowId (head :: rest) = max head (nextRowId rest - 1) + 1 := by
      simp [nextRowId]
    rcases List.mem_cons.mp present with rfl | later
    · omega
    · have := ih later
      omega

-- `n as i64` is negative for the upper half of `usize`: no limit, or no offset
def limit {α : Type} (n : Nat) (rows : List α) : List α := if n < 2 ^ 63 then rows.take n else rows

def offset {α : Type} (n : Nat) (rows : List α) : List α := if n < 2 ^ 63 then rows.drop n else rows

-- SQLite's functions read a text up to its first U+0000
def upToNul (text : List Char) : List Char := text.takeWhile fun c => c != '\x00'

-- the most bytes of a pattern: `LIKE` fails on a longer one, and so does the query
def maxPattern : Nat := 50000

-- `LIKE` folds the case of ASCII letters only
def sameLetter (a b : Char) : Bool := a.toLower == b.toLower

/-- The rest of a text after each way to match `%`. -/
def suffixes : List Char → List (List Char)
  | [] => [[]]
  | c :: text => (c :: text) :: suffixes text

-- of texts without U+0000, and of a pattern that is not too long
def like : List Char → List Char → Bool
  | [], text => text.isEmpty
  | '%' :: pattern, text => (suffixes text).any (like pattern)
  | '_' :: pattern, text =>
    match text with
    | [] => false
    | _ :: rest => like pattern rest
  | c :: pattern, text =>
    match text with
    | [] => false
    | d :: rest => sameLetter c d && like pattern rest

-- a text whose first character and whose rest are as wanted
def nextLetter (here : Char → Bool) (behind : List Char → Bool) : List Char → Bool
  | [] => false
  | d :: rest => here d && behind rest

/--
`LIKE .. ESCAPE escape` of texts without U+0000: the character behind an escape
stands for itself.
-/
def likeEscape (escape : Char) : List Char → List Char → Bool
  | [], text => text.isEmpty
  | c :: pattern, text =>
    if c = escape then
      match pattern with
      | [] => false
      | d :: pattern => nextLetter (sameLetter d) (likeEscape escape pattern) text
    else if c = '%' then
      (suffixes text).any (likeEscape escape pattern)
    else
      nextLetter (fun d => c == '_' || sameLetter c d) (likeEscape escape pattern) text

theorem upToNul_of_clean {text : List Char} (clean : '\x00' ∉ text) : upToNul text = text := by
  refine List.takeWhile_eq_self_iff.mpr fun c member => ?_
  rw [bne_iff_ne]
  exact fun nul => clean (nul ▸ member)

theorem nextLetter_iff {here : Char → Bool} {behind : List Char → Bool} {text : List Char} :
    nextLetter here behind text = true
      ↔ ∃ d rest, text = d :: rest ∧ here d = true ∧ behind rest = true := by
  cases text with
  | nil => simp [nextLetter]
  | cons d rest => simp [nextLetter]

theorem mem_suffixes {rest text : List Char} : rest ∈ suffixes text ↔ rest <:+ text := by
  induction text with
  | nil => simp [suffixes]
  | cons c text ih => rw [suffixes, List.mem_cons, ih, List.suffix_cons_iff]

theorem mem_suffixes_nil (text : List Char) : [] ∈ suffixes text :=
  mem_suffixes.mpr List.nil_suffix

theorem like_everything (text : List Char) : like ['%'] text = true := by
  rw [like]
  exact List.any_eq_true.mpr ⟨[], mem_suffixes_nil text, rfl⟩

end Sqlite

end BitDemon
