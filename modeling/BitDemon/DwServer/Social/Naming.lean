import BitDemon.DwServer.Auth
import BitDemon.DwServer.Social.NameSearch
import BitDemon.DwServer.Social.Statements
import BitDemon.Library.Ranking

set_option autoImplicit false

/-!
# Whom a request names

A request names a user by his id or by the name he signed in with last. Several
users may have signed in with one name.
-/

namespace BitDemon

open Social SocialDb

namespace Friends

-- `COLLATE NOCASE` folds the case of ASCII letters only
def sameName (a b : String) : Bool := a.toList.map Char.toLower == b.toList.map Char.toLower

-- the order of the primary key, in which a scan comes to the rows
def scan (db : SocialDb) : List KnownUserRow :=
  Rows.inOrder KnownUserRow.userId db.knownUser

def lookupIds (db : SocialDb) (username : String) : List UInt64 :=
  (((scan db).filter fun row => sameName row.username username).insertionSort
    fun a b => b.seenAt ≤ a.seenAt).map KnownUserRow.userId

structure Match where
  userId : UInt64
  username : String
  deriving DecidableEq

def searchLimit : Nat := 64

-- `ORDER BY (username = ?2 COLLATE NOCASE) DESC, seen_at DESC`
def RanksBefore (query : String) (a b : KnownUserRow) : Prop :=
  if sameName a.username query = sameName b.username query then b.seenAt ≤ a.seenAt
  else sameName a.username query = true

instance (query : String) (a b : KnownUserRow) : Decidable (RanksBefore query a b) :=
  inferInstanceAs (Decidable (if sameName a.username query = sameName b.username query then
    b.seenAt ≤ a.seenAt else sameName a.username query = true))

-- `char::is_whitespace`
def isWhitespace (c : Char) : Bool :=
  let n := c.toNat
  (9 ≤ n && n ≤ 13) || n == 0x20 || n == 0x85 || n == 0xA0 || n == 0x1680
    || (0x2000 ≤ n && n ≤ 0x200A) || n == 0x2028 || n == 0x2029 || n == 0x202F || n == 0x205F
    || n == 0x3000

def search (db : SocialDb) (query : String) : List Match :=
  if query.toList.all isWhitespace then
    []
  -- the query fails, and a row that is an error is left out
  else if Sqlite.maxPattern < (likePattern query).utf8ByteSize then
    []
  else
    (Ranking.best (RanksBefore query) searchLimit
      ((scan db).filter fun row => matched query row.username)).map fun row => ⟨row.userId, row.username⟩

end Friends

namespace Routes

open Friends

-- `parse::<u64>`
def parseId (text : List Char) : Option UInt64 :=
  (parseUnsigned 10 (2 ^ 64) text).map UInt64.ofNat

structure FriendAction where
  user : String
  id : Option String
  other : Option String
  deriving DecidableEq

inductive Found where
  | one (id : UInt64)
  | many (ids : List UInt64)
  | nobody
  deriving DecidableEq

inductive NoOne where
  | missing
  | notAnId (what : String)
  | ambiguous (who : String) (howMany : Nat)
  | unknown
  deriving DecidableEq

inductive Other where
  | name | id
  deriving DecidableEq

def byName (db : SocialDb) (who : String) : Found :=
  match lookupIds db who with
  | [] => .nobody
  | [id] => .one id
  | ids => .many ids

def byId (what : String) : Except NoOne UInt64 :=
  match parseId what.toList with
  | some id => .ok id
  | none => .error (.notAnId what)

def caller (db : SocialDb) (who : String) : Found :=
  match parseId who.toList with
  | some id => .one id
  | none => byName db who

def resolve (db : SocialDb) (who : String) : Option UInt64 :=
  match caller db who with
  | .one id => some id
  | .many ids => ids.head?
  | .nobody => none

def target (db : SocialDb) (body : FriendAction) (otherIs : Other) : Except NoOne UInt64 :=
  match body.id, body.other with
  | some id, _ => byId id
  | none, none => .error .missing
  | none, some other =>
    match otherIs with
    | .id => byId other
    | .name =>
      match byName db other with
      | .one id => .ok id
      | .many ids => .error (.ambiguous other ids.length)
      | .nobody => .error .unknown

end Routes

namespace Social

variable {statements : List Statement} {row : KnownUserRow}

/--
The user signed in so, and with no other name or at no other time since. A user
whose id is no `i64` is never noted, and no name is his.
-/
def LastSignIn (statements : List Statement) (row : KnownUserRow) : Prop :=
  ∃ first rest, statements = first ++ .recordUser row.seenAt row.userId row.username :: rest
    ∧ Sqlite.bindable row.userId = true
    ∧ ∀ now username, Statement.recordUser now row.userId username ∉ rest

def AnswersTo (statements : List Statement) (who : String) (userId : UInt64) : Prop :=
  ∃ row, LastSignIn statements row ∧ row.userId = userId
    ∧ Friends.sameName row.username who = true

theorem nameEffect_writes_iff {statement : Statement} {userId : UInt64} :
    nameEffect userId statement = .writes row
      ↔ statement = .recordUser row.seenAt row.userId row.username
        ∧ Sqlite.bindable row.userId = true ∧ row.userId = userId := by
  obtain ⟨user, name, seen⟩ := row
  cases statement with
  | recordUser now user' username =>
    rw [nameEffect]
    split
    next both =>
      obtain ⟨binding, rfl⟩ := both
      simp only [History.Effect.writes.injEq, KnownUserRow.mk.injEq, Statement.recordUser.injEq]
      constructor
      · rintro ⟨rfl, rfl, rfl⟩
        exact ⟨⟨rfl, rfl, rfl⟩, binding, rfl⟩
      · rintro ⟨⟨rfl, rfl, rfl⟩, _, _⟩
        exact ⟨rfl, rfl, rfl⟩
    next neither =>
      simp only [reduceCtorEq, false_iff]
      rintro ⟨same, binding, own⟩
      obtain ⟨rfl, rfl, rfl⟩ := Statement.recordUser.inj same
      exact neither ⟨binding, own⟩
  | _ => simp [nameEffect]

theorem nameEffect_spares_iff {statement : Statement} :
    (nameEffect row.userId statement).spares row = true
      ↔ Sqlite.bindable row.userId = true → ∀ now username,
        statement ≠ .recordUser now row.userId username := by
  cases statement with
  | recordUser now user username =>
    rw [nameEffect]
    split
    next both =>
      obtain ⟨binding, rfl⟩ := both
      simp only [History.Effect.spares, Bool.false_eq_true, false_iff]
      exact fun all => all binding now username rfl
    next neither =>
      refine iff_of_true rfl fun binding _ _ same => ?_
      obtain ⟨_, rfl, _⟩ := Statement.recordUser.inj same
      exact neither ⟨binding, rfl⟩
  | _ => exact iff_of_true rfl fun _ _ _ same => by cases same

theorem mem_known_iff : row ∈ (executed statements).knownUser ↔ LastSignIn statements row := by
  have found : row ∈ (executed statements).knownUser
      ↔ (History.latest (nameEffect row.userId) statements).map Prod.snd = some row := by
    rw [← knownRow_executed, knownRow, (distinct_known statements).find_iff]
    simp
  rw [found, History.latest_eq_split]
  constructor
  · rintro ⟨first, statement, rest, rfl, writes, spared⟩
    obtain ⟨rfl, binding, _⟩ := nameEffect_writes_iff.mp writes
    refine ⟨first, rest, rfl, binding, fun now username member => ?_⟩
    exact nameEffect_spares_iff.mp (spared _ member) binding now username rfl
  · rintro ⟨first, rest, rfl, binding, none⟩
    refine ⟨first, _, rest, rfl, nameEffect_writes_iff.mpr ⟨rfl, binding, rfl⟩, fun later member => ?_⟩
    refine nameEffect_spares_iff.mpr fun _ now username same => ?_
    exact none now username (same ▸ member)

theorem mem_scan_iff : row ∈ Friends.scan (executed statements) ↔ LastSignIn statements row := by
  rw [Friends.scan, Rows.mem_inOrder, mem_known_iff]

theorem scan_distinct (statements : List Statement) :
    Rows.Distinct KnownUserRow.userId (Friends.scan (executed statements)) :=
  ((Rows.perm_inOrder _ _).map KnownUserRow.userId).nodup_iff.mpr (distinct_known statements)

end Social

namespace Friends

variable {query : String} {a b c : KnownUserRow}

theorem ranksBefore_total (query : String) : Std.Total (RanksBefore query) where
  total a b := by
    unfold RanksBefore
    by_cases same : sameName a.username query = sameName b.username query
    next =>
      rw [if_pos same, if_pos same.symm]
      exact Int64.le_total _ _
    next =>
      rw [if_neg same, if_neg (Ne.symm same)]
      cases exact : sameName a.username query with
      | true => exact .inl rfl
      | false => exact .inr (by simpa [exact] using same)

theorem ranksBefore_trans (query : String) : IsTrans KnownUserRow (RanksBefore query) where
  trans a b c first second := by
    unfold RanksBefore at first second ⊢
    by_cases same : sameName a.username query = sameName b.username query
    next =>
      rw [if_pos same] at first
      by_cases same' : sameName b.username query = sameName c.username query
      next =>
        rw [if_pos same'] at second
        rw [if_pos (same.trans same')]
        exact Int64.le_trans second first
      next =>
        rw [if_neg same'] at second
        rw [if_neg fun all => same' (same.symm.trans all), same]
        exact second
    next =>
      rw [if_neg same] at first
      by_cases same' : sameName b.username query = sameName c.username query
      next =>
        rw [if_neg fun all => same (all.trans same'.symm)]
        exact first
      next =>
        rw [if_neg same'] at second
        exact absurd (first.trans second.symm) same

end Friends

namespace Friends

variable {statements : List Social.Statement} {who : String} {userId : UInt64}

theorem perm_lookupIds (db : SocialDb) (who : String) :
    (lookupIds db who).Perm
      (((scan db).filter fun row => sameName row.username who).map KnownUserRow.userId) :=
  (List.perm_insertionSort _ _).map _

theorem mem_lookupIds : userId ∈ lookupIds (executed statements) who ↔ AnswersTo statements who userId := by
  rw [(perm_lookupIds _ _).mem_iff, List.mem_map]
  constructor
  · rintro ⟨row, member, own⟩
    obtain ⟨known, same⟩ := List.mem_filter.mp member
    exact ⟨row, mem_scan_iff.mp known, own, same⟩
  · rintro ⟨row, signedIn, own, same⟩
    exact ⟨row, List.mem_filter.mpr ⟨mem_scan_iff.mpr signedIn, same⟩, own⟩

theorem nodup_lookupIds (statements : List Social.Statement) (who : String) :
    (lookupIds (executed statements) who).Nodup := by
  rw [(perm_lookupIds _ _).nodup_iff]
  exact (scan_distinct statements).nodup_part _ _ fun _ _ _ _ same => same

theorem pairwise_seen (rows : List KnownUserRow) :
    (rows.insertionSort fun a b => b.seenAt ≤ a.seenAt).Pairwise fun a b => b.seenAt ≤ a.seenAt := by
  have total : Std.Total fun a b : KnownUserRow => b.seenAt ≤ a.seenAt :=
    ⟨fun a b => Int64.le_total b.seenAt a.seenAt⟩
  have trans : IsTrans KnownUserRow fun a b => b.seenAt ≤ a.seenAt :=
    ⟨fun _ _ _ first second => Int64.le_trans second first⟩
  exact List.pairwise_insertionSort _ rows

theorem head_lookupIds (first : (lookupIds (executed statements) who).head? = some userId) :
    ∃ row, LastSignIn statements row ∧ row.userId = userId ∧ sameName row.username who = true
      ∧ ∀ other, LastSignIn statements other → sameName other.username who = true →
        other.seenAt ≤ row.seenAt := by
  have ordered := pairwise_seen ((scan (executed statements)).filter fun row => sameName row.username who)
  have listed (row : KnownUserRow) :
      row ∈ (((scan (executed statements)).filter fun row => sameName row.username who).insertionSort
        fun a b => b.seenAt ≤ a.seenAt) ↔ LastSignIn statements row ∧ sameName row.username who = true := by
    rw [List.mem_insertionSort, List.mem_filter, mem_scan_iff]
  rw [lookupIds] at first
  generalize (((scan (executed statements)).filter fun row => sameName row.username who).insertionSort
    fun a b => b.seenAt ≤ a.seenAt) = rows at ordered listed first
  cases rows with
  | nil => cases first
  | cons row rows =>
    obtain rfl := Option.some.inj first
    obtain ⟨signedIn, same⟩ := (listed row).mp List.mem_cons_self
    refine ⟨row, signedIn, rfl, same, fun other known answers => ?_⟩
    rcases List.mem_cons.mp ((listed other).mpr ⟨known, answers⟩) with rfl | later
    next => exact Int64.le_refl _
    next => exact List.rel_of_pairwise_cons ordered later

end Friends

namespace Routes

open Friends

variable {statements : List Social.Statement} {db : SocialDb} {user who : String} {userId : UInt64}

structure NamesUnderstood (statements : List Social.Statement) (db : SocialDb) : Prop where
  -- whom a friendship is asked of
  one : ∀ user who userId, target db ⟨user, none, some who⟩ .name = .ok userId
    ↔ ∀ player, AnswersTo statements who player ↔ player = userId
  ambiguous : ∀ user who n, target db ⟨user, none, some who⟩ .name = .error (.ambiguous who n)
    ↔ 2 ≤ n ∧ ∃ players : List UInt64, players.Nodup ∧ players.length = n
      ∧ ∀ player, player ∈ players ↔ AnswersTo statements who player
  unknown : ∀ user who, target db ⟨user, none, some who⟩ .name = .error .unknown
    ↔ ∀ player, ¬AnswersTo statements who player
  -- whose view is asked for
  resolved : ∀ who userId, parseId who.toList = none → resolve db who = some userId →
    ∃ row, LastSignIn statements row ∧ row.userId = userId ∧ sameName row.username who = true
      ∧ ∀ other, LastSignIn statements other → sameName other.username who = true →
        other.seenAt ≤ row.seenAt
  unresolved : ∀ who, parseId who.toList = none →
    (resolve db who = none ↔ ∀ player, ¬AnswersTo statements who player)

theorem target_name (db : SocialDb) (user who : String) :
    target db ⟨user, none, some who⟩ .name
      = match lookupIds db who with
        | [] => .error .unknown
        | [id] => .ok id
        | ids => .error (.ambiguous who ids.length) := by
  dsimp only [target, byName]
  rcases lookupIds db who with _ | ⟨_, _ | ⟨_, _⟩⟩ <;> rfl

theorem resolve_name (named : parseId who.toList = none) (db : SocialDb) :
    resolve db who = (lookupIds db who).head? := by
  rw [resolve, caller, named, byName]
  rcases lookupIds db who with _ | ⟨_, _ | ⟨_, _⟩⟩ <;> rfl

theorem names_of_executed (statements : List Social.Statement) :
    NamesUnderstood statements (executed statements) := by
  have answers (who : String) (player : UInt64) :
      AnswersTo statements who player ↔ player ∈ lookupIds (executed statements) who :=
    mem_lookupIds.symm
  have once := nodup_lookupIds statements
  have nobody (who : String) :
      lookupIds (executed statements) who = [] ↔ ∀ player, ¬AnswersTo statements who player := by
    simp only [answers, List.eq_nil_iff_forall_not_mem]
  constructor
  · intro user who userId
    simp only [answers]
    rw [target_name]
    have single := once who
    generalize lookupIds (executed statements) who = ids at single
    rcases ids with _ | ⟨first, _ | ⟨second, rest⟩⟩
    next => simp
    next =>
      simp only [Except.ok.injEq, List.mem_singleton]
      exact ⟨fun same player => by rw [same], fun all => (all first).mp rfl⟩
    next =>
      simp only [reduceCtorEq, false_iff]
      intro all
      obtain rfl : first = userId := (all first).mp List.mem_cons_self
      obtain rfl : second = first := (all second).mp (List.mem_cons_of_mem _ List.mem_cons_self)
      exact (List.nodup_cons.mp single).1 List.mem_cons_self
  · intro user who n
    simp only [answers]
    rw [target_name]
    have single := once who
    have length (players : List UInt64) (nodup : players.Nodup)
        (all : ∀ player, player ∈ players ↔ player ∈ lookupIds (executed statements) who) :
        players.length = (lookupIds (executed statements) who).length :=
      ((List.perm_ext_iff_of_nodup nodup single).mpr all).length_eq
    generalize lookupIds (executed statements) who = ids at single length
    have counted : (2 ≤ n ∧ ∃ players : List UInt64, players.Nodup ∧ players.length = n
        ∧ ∀ player, player ∈ players ↔ player ∈ ids) ↔ 2 ≤ ids.length ∧ ids.length = n := by
      constructor
      · rintro ⟨more, players, nodup, rfl, all⟩
        rw [length players nodup all] at more
        exact ⟨more, (length players nodup all).symm⟩
      · rintro ⟨more, rfl⟩
        exact ⟨more, ids, single, rfl, fun _ => Iff.rfl⟩
    rw [counted]
    rcases ids with _ | ⟨first, _ | ⟨second, rest⟩⟩ <;> simp
  · intro user who
    rw [← nobody, target_name]
    rcases lookupIds (executed statements) who with _ | ⟨first, _ | ⟨second, rest⟩⟩ <;> simp
  · intro who userId named found
    rw [resolve_name named] at found
    exact head_lookupIds found
  · intro who named
    rw [resolve_name named, ← nobody, List.head?_eq_none_iff]

/--
A name reaches a player exactly if he alone signed in with it last, up to ASCII
case, and is refused when several did. The view of a name is the one of the
player who signed in with it last.
-/
theorem names_understood (epoch : UInt64) (actions : List Social.Action) :
    NamesUnderstood (Server.statements epoch .initialized actions)
      (Server.after epoch actions).world.db := by
  rw [Server.db_after]
  exact names_of_executed _

end Routes

namespace Friends

-- the query stands in the name, up to ASCII case
def StandsIn (query username : String) : Prop :=
  query.toList.map Char.toLower <:+: (Sqlite.upToNul username.toList).map Char.toLower

structure Searched (statements : List Social.Statement) (query : String) (rows : List KnownUserRow) :
    Prop where
  found : ∀ row ∈ rows, LastSignIn statements row ∧ StandsIn query row.username
  once : (rows.map KnownUserRow.userId).Nodup
  -- those of that very name first, and then who signed in last
  ordered : rows.Pairwise (RanksBefore query)
  atMost : rows.length ≤ searchLimit
  leftOut : ∀ other, LastSignIn statements other → StandsIn query other.username → other ∉ rows →
    rows.length = searchLimit ∧ ∀ row ∈ rows, RanksBefore query row other

-- two players answer to the name of the second one
def twoSoaps : List Social.Action :=
  [.start 0 (.noteUser 5 1 "Soap"), .advance 0, .advance 0,
    .start 1 (.noteUser 7 2 "SoapMacTavish"), .advance 1, .advance 1]

end Friends

end BitDemon
