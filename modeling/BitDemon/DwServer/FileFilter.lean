import BitDemon.DwServer.CreatedFiles
import BitDemon.Library.Utf8
import Mathlib

set_option autoImplicit false

/-!
# The filter of a list of files

A filter is meant as the start of a name. It is handed to `LIKE` as it stands,
which has a meaning of its own for some of the characters in it.
-/

namespace BitDemon

open Machine

namespace Sqlite

/-- The texts that a character of a pattern may stand for. -/
def StandsFor (c : Char) (part : List Char) : Prop :=
  if c = '%' then True
  else if c = '_' then ∃ d, part = [d]
  else ∃ d, part = [d] ∧ sameLetter c d = true

def BeginsLike (pattern text : List Char) : Prop :=
  ∃ parts rest, List.Forall₂ StandsFor pattern parts ∧ text = parts.flatten ++ rest

theorem standsFor_self (c : Char) : StandsFor c [c] := by
  unfold StandsFor
  split
  next => trivial
  next =>
    split
    next => exact ⟨c, rfl⟩
    next => exact ⟨c, rfl, beq_self_eq_true _⟩

theorem like_cons {c : Char} {pattern text : List Char} :
    like (c :: pattern) text = true
      ↔ ∃ part rest, StandsFor c part ∧ text = part ++ rest ∧ like pattern rest = true := by
  by_cases percent : c = '%'
  next =>
    subst percent
    rw [like, List.any_eq_true]
    constructor
    · rintro ⟨rest, member, matched⟩
      obtain ⟨part, rfl⟩ := mem_suffixes.mp member
      exact ⟨part, rest, trivial, rfl, matched⟩
    · rintro ⟨part, rest, _, rfl, matched⟩
      exact ⟨rest, mem_suffixes.mpr (List.suffix_append part rest), matched⟩
  next =>
    by_cases underscore : c = '_'
    next =>
      subst underscore
      cases text with
      | nil => simp [like, StandsFor]
      | cons d text =>
        rw [like]
        constructor
        · exact fun matched => ⟨[d], text, ⟨d, rfl⟩, rfl, matched⟩
        · rintro ⟨_, rest, ⟨e, rfl⟩, whole, matched⟩
          obtain ⟨rfl, rfl⟩ := List.cons.inj whole
          exact matched
    next =>
      cases text with
      | nil => simp [like, StandsFor, percent, underscore]
      | cons d text =>
        have here : like (c :: pattern) (d :: text) = (sameLetter c d && like pattern text) := by
          rw [like]
          · exact percent
          · exact underscore
        rw [here, Bool.and_eq_true]
        constructor
        · rintro ⟨same, matched⟩
          refine ⟨[d], text, ?_, rfl, matched⟩
          rw [StandsFor, if_neg percent, if_neg underscore]
          exact ⟨d, rfl, same⟩
        · rintro ⟨part, rest, stands, whole, matched⟩
          rw [StandsFor, if_neg percent, if_neg underscore] at stands
          obtain ⟨e, rfl, same⟩ := stands
          obtain ⟨rfl, rfl⟩ := List.cons.inj whole
          exact ⟨same, matched⟩

theorem like_percent_iff (pattern text : List Char) :
    like (pattern ++ ['%']) text = true ↔ BeginsLike pattern text := by
  induction pattern generalizing text with
  | nil => exact ⟨fun _ => ⟨[], text, .nil, rfl⟩, fun _ => like_everything text⟩
  | cons c pattern ih =>
    rw [List.cons_append, like_cons]
    constructor
    · rintro ⟨part, later, stands, rfl, matched⟩
      obtain ⟨parts, rest, all, rfl⟩ := (ih later).mp matched
      exact ⟨part :: parts, rest, .cons stands all, by simp⟩
    · rintro ⟨_, rest, all, rfl⟩
      cases all with
      | cons stands all =>
        rename_i part parts
        exact ⟨part, parts.flatten ++ rest, stands, by simp, (ih _).mpr ⟨parts, rest, all, rfl⟩⟩

theorem standsFor_selves (text : List Char) :
    List.Forall₂ StandsFor text (text.map fun c => [c]) := by
  rw [List.forall₂_map_right_iff, List.forall₂_same]
  exact fun c _ => standsFor_self c

theorem beginsLike_of_starts {pattern text : List Char} (starts : pattern <+: text) :
    BeginsLike pattern text := by
  obtain ⟨rest, rfl⟩ := starts
  refine ⟨_, rest, standsFor_selves pattern, ?_⟩
  rw [← List.flatMap_def, List.flatMap_singleton']

-- neither a wildcard nor a letter that has another case
def plain (c : Char) : Bool := c != '%' && c != '_' && !c.isAlpha

theorem plain_iff {c : Char} : plain c = true ↔ c ≠ '%' ∧ c ≠ '_' ∧ ¬c.isAlpha = true := by
  simp [plain, and_assoc]

theorem eq_of_sameLetter {c d : Char} (letter : ¬c.isAlpha = true) (same : sameLetter c d = true) :
    d = c := by
  have folded : c.toLower = d.toLower := by simpa [sameLetter] using same
  have other : ¬d.isAlpha = true := by
    rw [← Char.isAlpha_toLower_eq_isAlpha, ← folded, Char.isAlpha_toLower_eq_isAlpha]
    exact letter
  have upper {e : Char} (none : ¬e.isAlpha = true) : ¬e.isUpper = true :=
    fun is => none (by rw [Char.isAlpha, is, Bool.true_or])
  rw [Char.toLower_eq_of_not_isUpper (upper letter),
    Char.toLower_eq_of_not_isUpper (upper other)] at folded
  exact folded.symm

theorem eq_of_standsFor {c : Char} {part : List Char} (simple : plain c = true)
    (stands : StandsFor c part) : part = [c] := by
  obtain ⟨percent, underscore, letter⟩ := plain_iff.mp simple
  rw [StandsFor, if_neg percent, if_neg underscore] at stands
  obtain ⟨d, rfl, same⟩ := stands
  rw [eq_of_sameLetter letter same]

theorem prefix_of_beginsLike {pattern text : List Char} (simple : ∀ c ∈ pattern, plain c = true)
    (begins : BeginsLike pattern text) : pattern <+: text := by
  obtain ⟨parts, rest, all, rfl⟩ := begins
  refine List.IsPrefix.trans ?_ (List.prefix_append _ rest)
  induction all with
  | nil => exact List.nil_prefix
  | cons stands _ ih =>
    rw [eq_of_standsFor (simple _ List.mem_cons_self) stands]
    exact (List.prefix_cons_inj _).mpr (ih fun c member => simple c (List.mem_cons_of_mem _ member))

theorem stands_for_another {c : Char} (special : ¬plain c = true) : ∃ d, d ≠ c ∧ StandsFor c [d] := by
  by_cases percent : c = '%'
  next => exact ⟨'x', by rw [percent]; decide, by rw [StandsFor, if_pos percent]; trivial⟩
  next =>
    by_cases underscore : c = '_'
    next =>
      exact ⟨'x', by rw [underscore]; decide,
        by rw [StandsFor, if_neg percent, if_pos underscore]; exact ⟨'x', rfl⟩⟩
    next =>
      have letter : c.isAlpha = true := by
        by_contra other
        exact special (plain_iff.mpr ⟨percent, underscore, other⟩)
      have folds {d : Char} (same : d.toLower = c.toLower) : StandsFor c [d] := by
        rw [StandsFor, if_neg percent, if_neg underscore]
        exact ⟨d, rfl, by rw [sameLetter, same, beq_self_eq_true]⟩
      by_cases upper : c.isUpper = true
      next =>
        refine ⟨c.toLower, fun same => ?_, folds (Char.toLower_toLower_eq_toLower c)⟩
        have lower := Char.isUpper_toLower_eq_false c
        rw [same, upper] at lower
        cases lower
      next =>
        refine ⟨c.toUpper, fun same => ?_, folds (Char.toLower_toUpper_eq_toLower c)⟩
        have raised := Char.isUpper_toUpper_eq_isAlpha c
        rw [same, letter] at raised
        exact upper raised

theorem exists_beginsLike {pattern : List Char} (special : ¬∀ c ∈ pattern, plain c = true) :
    ∃ text, BeginsLike pattern text ∧ ¬pattern <+: text := by
  push Not at special
  obtain ⟨c, member, odd⟩ := special
  obtain ⟨front, back, rfl⟩ := List.append_of_mem member
  obtain ⟨d, other, stands⟩ := stands_for_another odd
  have all := List.rel_append (standsFor_selves front) (.cons stands (standsFor_selves back))
  refine ⟨front ++ d :: back, ⟨_, [], all, ?_⟩, ?_⟩
  · rw [List.flatten_append, List.flatten_cons, ← List.flatMap_def, ← List.flatMap_def,
      List.flatMap_singleton', List.flatMap_singleton', List.append_nil]
    rfl
  · intro starts
    have whole := starts.eq_of_length (by simp)
    exact other (List.cons.inj (List.append_cancel_left whole)).1.symm

end Sqlite

namespace DwUserStorageService

open Sqlite

def visible (user : SessionAuthentication) (ownerId : UInt64) (db : StorageDb) : List UserFile :=
  db.userFile.filter fun u =>
    u.ownerId == ownerId && u.title == user.title.toU32
      && (user.userId == ownerId || u.visibility == fromFileVisibility .visiblePublic)

def FiltersByPrefix (db : StorageDb) (session : BdSession) (user : SessionAuthentication)
    (ownerId : UInt64) (filter : String) : Prop :=
  (exec (filterStorageFiles session ownerId wholePage filter) db).1
    = .ok (.ok (((visible user ownerId db).filter fun u => Utf8.startsWith u.filename filter).map
        (fileInfo user.title ownerId)))

theorem listPattern_iff {filter : String} {name : String} :
    like (listPattern (some filter)) name.toList = true ↔ BeginsLike filter.toList name.toList :=
  like_percent_iff filter.toList name.toList

variable {db : StorageDb} {session : BdSession} {user : SessionAuthentication} {ownerId : UInt64}
  {filter : String}

theorem exec_filter (filter : String) (db : StorageDb)
    (authenticated : session.authentication = some user) (bound : bindable ownerId = true) :
    exec (filterStorageFiles session ownerId wholePage filter) db
      = (.ok (.ok (((visible user ownerId db).filter fun u =>
          like (listPattern (some filter)) u.filename.toList).map (fileInfo user.title ownerId))), db) := by
  have shown : listed ownerId user.title.toU32 wholePage.minDateTime (listPattern (some filter))
        (if user.userId = ownerId then anyVisibility else fromFileVisibility .visiblePublic)
        db.userFile
      = (visible user ownerId db).filter fun u =>
          like (listPattern (some filter)) u.filename.toList := by
    rw [listed, visible, List.filter_filter]
    refine List.filter_congr fun u _ => ?_
    have since : decide (wholePage.minDateTime ≤ u.createdAt) = true :=
      decide_eq_true (Int64.minValue_le _)
    have seen : (u.visibility == (if user.userId = ownerId then anyVisibility
            else fromFileVisibility .visiblePublic)
          || (if user.userId = ownerId then anyVisibility
            else fromFileVisibility .visiblePublic) == anyVisibility)
        = (user.userId == ownerId || u.visibility == fromFileVisibility .visiblePublic) := by
      by_cases owns : user.userId = ownerId
      next => simp [owns]
      next =>
        have hidden : (fromFileVisibility .visiblePublic == anyVisibility) = false := by decide
        simp [owns, hidden]
    rw [since, seen]
    ac_rfl
  rw [filterStorageFiles, exec_list wholePage (some filter) db authenticated bound, shown]
  rfl

theorem filter_eq_iff {α β : Type} {more less : α → Bool} (weaker : ∀ a, less a = true → more a = true)
    (column : α → β) (rows : List α) :
    (rows.filter more).map column = (rows.filter less).map column
      ↔ ∀ a ∈ rows, more a = true → less a = true := by
  have part : (rows.filter more).filter less = rows.filter less := by
    rw [List.filter_filter]
    refine List.filter_congr fun a _ => ?_
    cases through : less a with
    | true => rw [weaker a through]; rfl
    | false => rfl
  constructor
  · intro same a member through
    have whole : (rows.filter more).filter less = rows.filter more := by
      refine List.filter_sublist.eq_of_length ?_
      rw [part]
      simpa using (congrArg List.length same).symm
    exact List.filter_eq_self.mp whole a (List.mem_filter.mpr ⟨member, through⟩)
  · intro stronger
    have whole : (rows.filter more).filter less = rows.filter more := by
      refine List.filter_eq_self.mpr fun a member => ?_
      obtain ⟨present, through⟩ := List.mem_filter.mp member
      exact stronger a present through
    rw [← whole, part]

theorem filtersByPrefix_iff (authenticated : session.authentication = some user) :
    FiltersByPrefix db session user ownerId filter
      ↔ bindable ownerId = true ∧ ∀ u ∈ visible user ownerId db,
          BeginsLike filter.toList u.filename.toList → filter.toList <+: u.filename.toList := by
  by_cases bound : bindable ownerId = true
  next =>
    rw [FiltersByPrefix, exec_filter filter db authenticated bound, and_iff_right bound]
    dsimp only
    rw [Except.ok.injEq, Except.ok.injEq, filter_eq_iff]
    · exact forall₂_congr fun u _ => imp_congr listPattern_iff Utf8.startsWith_iff
    · intro u starts
      exact listPattern_iff.mpr (beginsLike_of_starts (Utf8.startsWith_iff.mp starts))
  next =>
    rw [FiltersByPrefix, filterStorageFiles,
      exec_list_unbound wholePage (some filter) db authenticated bound]
    refine ⟨fun same => ?_, fun both => absurd both.1 bound⟩
    cases Except.ok.inj same

-- one file that everybody may see
def holding (title : Title) (ownerId : UInt64) (filename : String) : StorageDb :=
  { userFile := [⟨1, filename, title.toU32, 0, 0, fromFileVisibility .visiblePublic, ownerId, []⟩]
    now := 0 }

theorem mem_visible_holding (user : SessionAuthentication) (ownerId : UInt64) (filename : String) :
    ⟨1, filename, user.title.toU32, 0, 0, fromFileVisibility .visiblePublic, ownerId, []⟩
      ∈ visible user ownerId (holding user.title ownerId filename) := by
  simp [visible, holding]

/--
A filter finds the names that start with it exactly if no other name that may be
seen begins with what it stands for as a pattern. With any files, that is so of
the filters without `%`, `_` and letters.
-/
theorem filters_by_prefix_iff (filter : String) :
    (∀ (db : StorageDb) (session : BdSession) (user : SessionAuthentication) (ownerId : UInt64),
        session.authentication = some user →
        (FiltersByPrefix db session user ownerId filter
          ↔ bindable ownerId = true ∧ ∀ u ∈ visible user ownerId db,
              BeginsLike filter.toList u.filename.toList → filter.toList <+: u.filename.toList))
      ∧ ((∀ (db : StorageDb) (session : BdSession) (user : SessionAuthentication) (ownerId : UInt64),
            session.authentication = some user → bindable ownerId = true →
            FiltersByPrefix db session user ownerId filter)
          ↔ ∀ c ∈ filter.toList, plain c = true) := by
  refine ⟨fun db session user ownerId authenticated => filtersByPrefix_iff authenticated, ?_⟩
  constructor
  · intro always
    by_contra special
    obtain ⟨name, begins, astray⟩ := exists_beginsLike special
    have found := always (holding .t6Pc 7 (String.ofList name)) owner ⟨7, "owner", [], .t6Pc⟩ 7 rfl rfl
    have starts := ((filtersByPrefix_iff rfl).mp found).2 _
      (mem_visible_holding ⟨7, "owner", [], .t6Pc⟩ 7 (String.ofList name))
    rw [String.toList_ofList] at starts
    exact astray (starts begins)
  · intro simple db session user ownerId authenticated bound
    refine (filtersByPrefix_iff authenticated).mpr ⟨bound, fun u _ begins => ?_⟩
    exact prefix_of_beginsLike simple begins

theorem other_names_found :
    ¬FiltersByPrefix (holding .t6Pc 7 "abc") owner ⟨7, "owner", [], .t6Pc⟩ 7 "a_"
      ∧ ¬FiltersByPrefix (holding .t6Pc 7 "Stats") owner ⟨7, "owner", [], .t6Pc⟩ 7 "stats" := by
  constructor
  · unfold FiltersByPrefix
    decide
  · unfold FiltersByPrefix
    decide

theorem digits_found :
    FiltersByPrefix (holding .t6Pc 7 "2024") owner ⟨7, "owner", [], .t6Pc⟩ 7 "20" :=
  ((filters_by_prefix_iff "20").1 _ _ _ _ rfl).mpr (by
    refine ⟨rfl, fun u member _ => ?_⟩
    have only := List.mem_singleton.mp (List.mem_of_mem_filter member)
    rw [only]
    decide)

end DwUserStorageService

end BitDemon
