import BitDemon.DwServer.Social.Friends
import BitDemon.DwServer.Social.Watch
import Mathlib.Data.List.Dedup
import Mathlib.Data.List.Sort

set_option autoImplicit false

/-!
# Revisions of the social view

A client waits for its revision to move. Each operation that changes what
others see of a user bumps the users who list him, and the operations overlap:
every statement and every lock is a step of its own.
-/

namespace BitDemon

open Watch

structure Friendship where
  userId : UInt64
  username : String
  isMutual : Bool
  deriving DecidableEq

namespace SocialDb

def lookupName (db : SocialDb) (userId : UInt64) : Option String :=
  (Rows.find KnownUserRow.userId userId db.knownUser).map KnownUserRow.username

-- `COALESCE(k.username, '')`
def nameOf (db : SocialDb) (userId : UInt64) : String := (db.lookupName userId).getD ""

def activityOf (db : SocialDb) (userId : UInt64) : Option String :=
  (Rows.find ActivityRow.userId userId db.activity).map ActivityRow.connection

def recordUser (db : SocialDb) (now : Int64) (userId : UInt64) (username : String) : SocialDb :=
  if Sqlite.bindable userId then
    { db with knownUser := Rows.upsert KnownUserRow.userId ⟨userId, username, now⟩ db.knownUser }
  else
    db

def recordActivity (db : SocialDb) (now : Int64) (userId : UInt64) (connection : String) :
    SocialDb :=
  if Sqlite.bindable userId then
    { db with activity := Rows.upsert ActivityRow.userId ⟨userId, connection, now⟩ db.activity }
  else
    db

def deleteActivity (db : SocialDb) (userId : UInt64) : SocialDb :=
  { db with activity := Rows.delete ActivityRow.userId (fun key => decide (key = userId)) db.activity }

def friendsOf (db : SocialDb) (userId : UInt64) : List FriendRow :=
  db.friend.filter fun row => decide (row.userId = userId)

def requestsTo (db : SocialDb) (userId : UInt64) : List FriendRequestRow :=
  db.friendRequest.filter fun row => decide (row.toId = userId)

def requestsFrom (db : SocialDb) (userId : UInt64) : List FriendRequestRow :=
  db.friendRequest.filter fun row => decide (row.fromId = userId)

end SocialDb

namespace Friends

open SocialDb

-- the primary key leads to the rows of a user, in the order of the other users
def list (db : SocialDb) (userId : UInt64) : List Friendship :=
  (Rows.inOrder FriendRow.createdAt (Rows.inOrder FriendRow.friendId (db.friendsOf userId))).map
    fun row =>
    { userId := row.friendId, username := db.nameOf row.friendId
      isMutual := db.hasFriend row.friendId row.userId }

-- no index leads to them
def incomingRequests (db : SocialDb) (userId : UInt64) : List Friendship :=
  (Rows.inOrder FriendRequestRow.createdAt (db.requestsTo userId)).map fun row =>
    { userId := row.fromId, username := db.nameOf row.fromId, isMutual := false }

def outgoingRequests (db : SocialDb) (userId : UInt64) : List Friendship :=
  (Rows.inOrder FriendRequestRow.createdAt
    (Rows.inOrder FriendRequestRow.toId (db.requestsFrom userId))).map fun row =>
    { userId := row.toId, username := db.nameOf row.toId, isMutual := false }

end Friends

namespace Social

open SocialDb

inductive Op where
  -- `act`, the route behind `request`, `accept` and `remove`
  | act (call : Friends.Call)
  | noteUser (now : Int64) (userId : UInt64) (username : String)
  | setActivity (now : Int64) (userId : UInt64) (connection : String)
  | clearActivity (userId : UInt64)
  | touch (userId : UInt64)
  | sweep
  deriving DecidableEq

inductive Task where
  | begin (op : Op)
  | recordUser (now : Int64) (userId : UInt64) (username : String) (was : Option String)
  | recordActivity (now : Int64) (userId : UInt64) (connection : String) (was : Option String)
  -- `bump_watchers_of` each of the users, the three lists read one after the other
  | bumpWatchers (users : List UInt64)
  | incoming (user : UInt64) (out rest : List UInt64)
  | outgoing (user : UInt64) (out rest : List UInt64)
  | bump (users rest : List UInt64)
  deriving DecidableEq

structure World where
  db : SocialDb
  revisions : Revisions
  -- `SEEN`, and the clock its instants are read from
  seen : Table UInt64 Nat
  clock : Nat

def World.initialized : World := { db := .initialized, revisions := ∅, seen := ∅, clock := 0 }

def expired (clock instant : Nat) : Bool := decide (onlineFor ≤ clock - instant)

def World.isOnline (w : World) (user : UInt64) : Bool :=
  (w.seen.get user).any fun instant => !expired w.clock instant

def World.gone (w : World) : List UInt64 :=
  (w.seen.entries.filter fun entry => expired w.clock entry.2).map Sigma.fst

def ids (friendships : List Friendship) : List UInt64 := friendships.map Friendship.userId

-- `sort_unstable` and `dedup`
def sorted (users : List UInt64) : List UInt64 := (users.insertionSort (· ≤ ·)).dedup

def parties : Friends.Call → List UInt64
  | .request _ fromId toId => [fromId, toId]
  | .accept _ user fromId => [user, fromId]
  | .remove user other => [user, other]

variable (epoch : UInt64)

/-- One step of a task, and what is left of it; `none` when it panics. -/
def next (w : World) : Task → Option (World × Option Task)
  | .begin (.act call) =>
    match Friends.perform w.db call with
    | (.ok _, db) => some ({ w with db := db }, some (.bump (parties call) []))
    | (.error _, db) => some ({ w with db := db }, none)
  | .begin (.noteUser now userId username) =>
    some (w, some (.recordUser now userId username (w.db.lookupName userId)))
  | .recordUser now userId username was =>
    some ({ w with db := w.db.recordUser now userId username },
      if was.any (· ≠ username) then some (.bumpWatchers [userId]) else none)
  | .begin (.setActivity now userId connection) =>
    some (w, some (.recordActivity now userId connection (w.db.activityOf userId)))
  | .recordActivity now userId connection was =>
    some ({ w with db := w.db.recordActivity now userId connection },
      if was.all (· ≠ connection) then some (.bumpWatchers [userId]) else none)
  | .begin (.clearActivity userId) =>
    some ({ w with db := w.db.deleteActivity userId },
      if Rows.has ActivityRow.userId userId w.db.activity then some (.bumpWatchers [userId])
      else none)
  | .begin (.touch userId) =>
    some ({ w with seen := w.seen.put userId w.clock },
      if (w.seen.get userId).all (expired w.clock) then some (.bumpWatchers [userId]) else none)
  | .begin .sweep =>
    some ({ w with seen := w.gone.foldl Table.remove w.seen }, some (.bumpWatchers w.gone))
  | .bumpWatchers [] => some (w, none)
  | .bumpWatchers (user :: rest) => some (w, some (.incoming user (ids (Friends.list w.db user)) rest))
  | .incoming user out rest =>
    some (w, some (.outgoing user (out ++ ids (Friends.incomingRequests w.db user)) rest))
  | .outgoing user out rest =>
    let watchers := sorted (out ++ ids (Friends.outgoingRequests w.db user))
    some (w, some (if watchers.isEmpty then .bumpWatchers rest else .bump watchers rest))
  | .bump users rest =>
    (countUp epoch w.revisions users).map fun revisions =>
      ({ w with revisions := revisions }, some (.bumpWatchers rest))

structure Server where
  world : World
  tasks : Table Nat Task

inductive Action where
  | start (id : Nat) (op : Op)
  | advance (id : Nat)
  | elapse (time : Nat)
  deriving DecidableEq

namespace Server

def initialized : Server := { world := .initialized, tasks := ∅ }

def withTask (tasks : Table Nat Task) (id : Nat) : Option Task → Table Nat Task
  | none => tasks.remove id
  | some task => tasks.put id task

def step (s : Server) : Action → Server
  | .start id op =>
    match s.tasks.get id with
    | none => { s with tasks := s.tasks.put id (.begin op) }
    | some _ => s
  | .advance id =>
    match s.tasks.get id with
    | none => s
    | some task =>
      match next epoch s.world task with
      | none => s
      | some (world, left) => { world := world, tasks := withTask s.tasks id left }
  | .elapse time => { s with world := { s.world with clock := s.world.clock + time } }

abbrev after (actions : List Action) : Server := Runs.run (step epoch) initialized actions

def revision (s : Server) (user : UInt64) : UInt64 := Watch.revision epoch s.world.revisions user

def Quiescent (s : Server) : Prop := ∀ id, s.tasks.get id = none

def Swept (s : Server) : Prop :=
  ∀ user, (s.world.seen.get user).isSome = true → s.world.isOnline user = true

end Server

structure PresenceView where
  id : UInt64
  name : String
  isMutual : Bool
  online : Bool
  joinable : Bool
  deriving DecidableEq

structure View where
  friends : List PresenceView
  incoming : List PresenceView
  deriving DecidableEq

def presence (w : World) (f : Friendship) : PresenceView :=
  let online := f.isMutual && w.isOnline f.userId
  { id := f.userId, name := f.username, isMutual := f.isMutual, online
    joinable := online && (w.db.activityOf f.userId).isSome }

def view (w : World) (user : UInt64) : View :=
  { friends := (Friends.list w.db user).map (presence w)
      ++ (Friends.outgoingRequests w.db user).map (presence w)
    incoming := (Friends.incomingRequests w.db user).map (presence w) }

section Statements

variable {db : SocialDb} {now : Int64} {user other : UInt64}

theorem nameOf_recordUser_of_ne {username : String} (apart : other ≠ user) :
    (db.recordUser now user username).nameOf other = db.nameOf other := by
  rw [recordUser]
  split
  next =>
    rw [nameOf, nameOf, lookupName, lookupName]
    rw [Rows.find_upsert_of_ne (by exact apart)]
  next => rfl

theorem nameOf_recordUser_self (username : String) :
    (db.recordUser now user username).nameOf user = username
      ∨ (db.recordUser now user username).nameOf user = db.nameOf user := by
  rw [recordUser]
  split
  next =>
    have found := @Rows.find_upsert_self _ _ _ KnownUserRow.userId ⟨user, username, now⟩ db.knownUser
    refine .inl ?_
    rw [nameOf, lookupName, found]
    rfl
  next => exact .inr rfl

theorem activityOf_recordActivity_of_ne {connection : String} (apart : other ≠ user) :
    (db.recordActivity now user connection).activityOf other = db.activityOf other := by
  rw [recordActivity]
  split
  next =>
    rw [activityOf, activityOf, Rows.find_upsert_of_ne (by exact apart)]
  next => rfl

theorem isSome_activityOf_recordActivity {connection : String}
    (before : (db.activityOf user).isSome = true) :
    ((db.recordActivity now user connection).activityOf user).isSome = true := by
  rw [recordActivity]
  split
  next =>
    have found := @Rows.find_upsert_self _ _ _ ActivityRow.userId ⟨user, connection, now⟩ db.activity
    rw [activityOf, found]
    rfl
  next => exact before

theorem activityOf_deleteActivity_of_ne (apart : other ≠ user) :
    (db.deleteActivity user).activityOf other = db.activityOf other := by
  rw [activityOf, activityOf, deleteActivity]
  rw [Rows.find_delete_of_stays (by simpa using apart)]

theorem deleteActivity_of_absent (absent : Rows.has ActivityRow.userId user db.activity = false) :
    db.deleteActivity user = db := by
  have nothing : Rows.delete ActivityRow.userId (fun key => decide (key = user)) db.activity
      = db.activity := by
    apply List.filter_eq_self.mpr
    intro row member
    simp only [Bool.not_eq_true', decide_eq_false_iff_not]
    intro same
    have present : Rows.has ActivityRow.userId user db.activity = true :=
      Rows.has_iff.mpr ⟨row, member, same⟩
    simp [absent] at present
  rw [deleteActivity, nothing]

end Statements

def Listed (db : SocialDb) (user other : UInt64) : Prop :=
  db.hasFriend user other = true ∨ db.hasRequest user other = true ∨ db.hasRequest other user = true

structure SameRows (db after : SocialDb) (user : UInt64) : Prop where
  friends : after.friendsOf user = db.friendsOf user
  requestsTo : after.requestsTo user = db.requestsTo user
  requestsFrom : after.requestsFrom user = db.requestsFrom user
  isMutual : ∀ other, after.hasFriend other user = db.hasFriend other user

section Rows

variable {db mid after : SocialDb} {now : Int64} {user a b other : UInt64}

theorem SameRows.refl (db : SocialDb) (user : UInt64) : SameRows db db user :=
  ⟨rfl, rfl, rfl, fun _ => rfl⟩

theorem SameRows.trans (first : SameRows db mid user) (rest : SameRows mid after user) :
    SameRows db after user where
  friends := rest.friends.trans first.friends
  requestsTo := rest.requestsTo.trans first.requestsTo
  requestsFrom := rest.requestsFrom.trans first.requestsFrom
  isMutual other := (rest.isMutual other).trans (first.isMutual other)

theorem hasFriend_eq : db.hasFriend user other
    = (db.friendsOf user).any fun row => decide (row.friendId = other) := by
  rw [Bool.eq_iff_iff, hasFriend, Rows.has_iff, friendsOf]
  simp [FriendRow.key]

theorem hasRequest_eq_from : db.hasRequest user other
    = (db.requestsFrom user).any fun row => decide (row.toId = other) := by
  rw [Bool.eq_iff_iff, hasRequest, Rows.has_iff, requestsFrom]
  simp [FriendRequestRow.key]

theorem hasRequest_eq_to : db.hasRequest other user
    = (db.requestsTo user).any fun row => decide (row.fromId = other) := by
  rw [Bool.eq_iff_iff, hasRequest, Rows.has_iff, requestsTo]
  simp [FriendRequestRow.key, and_assoc, and_comm]

theorem SameRows.listed_iff (same : SameRows db after user) :
    Listed after user other ↔ Listed db user other := by
  rw [Listed, Listed, hasFriend_eq, hasRequest_eq_from, hasRequest_eq_to, same.friends,
    same.requestsFrom, same.requestsTo, ← hasFriend_eq, ← hasRequest_eq_from, ← hasRequest_eq_to]

theorem mem_ids_list : a ∈ ids (Friends.list db b) ↔ db.hasFriend b a = true := by
  rw [hasFriend_eq]
  simp [ids, Friends.list]

theorem mem_ids_incoming : a ∈ ids (Friends.incomingRequests db b) ↔ db.hasRequest a b = true := by
  rw [hasRequest_eq_to]
  simp [ids, Friends.incomingRequests]

theorem mem_ids_outgoing : a ∈ ids (Friends.outgoingRequests db b) ↔ db.hasRequest b a = true := by
  rw [hasRequest_eq_from]
  simp [ids, Friends.outgoingRequests]

theorem sameRows_insertFriend (apart : user ≠ a) (apart' : user ≠ b) :
    SameRows db (db.insertFriend a b now) user where
  friends := Rows.filter_insertOrIgnore (by simpa using apart.symm) _
  requestsTo := rfl
  requestsFrom := rfl
  isMutual other := by
    rw [hasFriend, insertFriend, Rows.has_insertOrIgnore]
    simp [FriendRow.key, apart'.symm, hasFriend]

theorem sameRows_insertRequest (apart : user ≠ a) (apart' : user ≠ b) :
    SameRows db (db.insertRequest a b now) user where
  friends := rfl
  requestsTo := Rows.filter_insertOrIgnore (by simpa using apart'.symm) _
  requestsFrom := Rows.filter_insertOrIgnore (by simpa using apart.symm) _
  isMutual other := rfl

theorem sameRows_deleteRequests (apart : user ≠ a) (apart' : user ≠ b) :
    SameRows db (db.deleteRequests a b) user where
  friends := rfl
  requestsTo := by
    refine Rows.filter_delete (fun row mine => ?_) _
    obtain rfl : row.toId = user := by simpa using mine
    simp [eitherWay, FriendRequestRow.key, apart, apart']
  requestsFrom := by
    refine Rows.filter_delete (fun row mine => ?_) _
    obtain rfl : row.fromId = user := by simpa using mine
    simp [eitherWay, FriendRequestRow.key, apart, apart']
  isMutual other := rfl

theorem sameRows_deleteFriends (apart : user ≠ a) (apart' : user ≠ b) :
    SameRows db (db.deleteFriends a b) user where
  friends := by
    refine Rows.filter_delete (fun row mine => ?_) _
    obtain rfl : row.userId = user := by simpa using mine
    simp [eitherWay, FriendRow.key, apart, apart']
  requestsTo := rfl
  requestsFrom := rfl
  isMutual other := by
    rw [hasFriend, deleteFriends, Rows.has_delete]
    simp [eitherWay, apart, apart', hasFriend]

theorem sameRows_perform {call : Friends.Call} (apart : user ∉ parties call) :
    SameRows db (Friends.perform db call).2 user := by
  rcases Friends.step_cases db call with ⟨same, _⟩ | ⟨now, fromId, toId, rfl, _, _, _, did⟩
    | ⟨now, a, b, named, binding, _, did⟩ | ⟨a, b, rfl, binding, did⟩
  next =>
    have unchanged : (Friends.perform db call).2 = db := same
    rw [unchanged]
    exact .refl db user
  next =>
    obtain ⟨first, second⟩ : user ≠ fromId ∧ user ≠ toId := by simpa [parties] using apart
    have inserted : (Friends.perform db (.request now fromId toId)).2 = _ := did
    rw [inserted]
    exact sameRows_insertRequest first second
  next =>
    obtain ⟨first, second⟩ : user ≠ a ∧ user ≠ b := by
      rcases named with rfl | rfl <;> simpa [parties] using apart
    have accepted : (Friends.perform db call).2 = _ := did
    rw [accepted, Friends.acceptLocked, if_pos binding]
    have cleared : SameRows db (db.deleteRequests a b) user := sameRows_deleteRequests first second
    exact (cleared.trans (sameRows_insertFriend first second)).trans
      (sameRows_insertFriend second first)
  next =>
    obtain ⟨first, second⟩ : user ≠ a ∧ user ≠ b := by simpa [parties] using apart
    have removed : (Friends.perform db (.remove a b)).2 = _ := did
    rw [removed, Friends.remove, if_pos binding]
    have parted : SameRows db (db.deleteFriends a b) user := sameRows_deleteFriends first second
    exact parted.trans (sameRows_deleteRequests first second)

theorem acceptLocked_of_error {e : String}
    (refused : (Friends.acceptLocked now a b db).1 = .error e) :
    (Friends.acceptLocked now a b db).2 = db := by
  unfold Friends.acceptLocked at refused ⊢
  split at refused
  next => cases refused
  next unbound => rw [if_neg unbound]

theorem perform_of_error {call : Friends.Call} {e : String}
    (refused : (Friends.perform db call).1 = .error e) : (Friends.perform db call).2 = db := by
  cases call with
  | request now fromId toId =>
    rw [Friends.perform, Friends.request] at refused ⊢
    split
    next => rfl
    next apart =>
      rw [if_neg apart] at refused
      split
      next waiting =>
        rw [if_pos waiting] at refused
        exact acceptLocked_of_error refused
      next silent =>
        rw [if_neg silent] at refused
        split at refused
        next => cases refused
        next unbound => rw [if_neg unbound]
  | accept now user fromId =>
    rw [Friends.perform, Friends.accept] at refused ⊢
    split
    next waiting =>
      rw [if_pos waiting] at refused
      exact acceptLocked_of_error refused
    next => rfl
  | remove user other =>
    rw [Friends.perform, Friends.remove] at refused
    split at refused <;> cases refused

theorem perform_people (db : SocialDb) (call : Friends.Call) :
    (Friends.perform db call).2.knownUser = db.knownUser
      ∧ (Friends.perform db call).2.activity = db.activity := by
  rcases Friends.step_cases db call with ⟨same, _⟩ | ⟨now, fromId, toId, rfl, _, _, _, did⟩
    | ⟨now, a, b, _, binding, _, did⟩ | ⟨a, b, rfl, binding, did⟩
  next =>
    have unchanged : (Friends.perform db call).2 = db := same
    rw [unchanged]
    exact ⟨rfl, rfl⟩
  next =>
    have inserted : (Friends.perform db (.request now fromId toId)).2 = _ := did
    rw [inserted]
    exact ⟨rfl, rfl⟩
  next =>
    have accepted : (Friends.perform db call).2 = _ := did
    rw [accepted, Friends.acceptLocked, if_pos binding]
    exact ⟨rfl, rfl⟩
  next =>
    have removed : (Friends.perform db (.remove a b)).2 = _ := did
    rw [removed, Friends.remove, if_pos binding]
    exact ⟨rfl, rfl⟩

end Rows

/-- The task will bump the user for the sake of the other one, whom he lists in these tables. -/
def OnWay (db : SocialDb) (user other : UInt64) : Task → Prop
  | .bumpWatchers users => other ∈ users
  | .incoming current out rest =>
    current = other ∧ (user ∈ out ∨ db.hasRequest user other = true
      ∨ db.hasRequest other user = true) ∨ other ∈ rest
  | .outgoing current out rest =>
    current = other ∧ (user ∈ out ∨ db.hasRequest other user = true) ∨ other ∈ rest
  | .bump _ rest => other ∈ rest
  | _ => False

def Fits (db : SocialDb) (other : UInt64) : Task → Prop
  | .recordUser _ userId _ (some was) => userId = other → was = db.nameOf other
  | .recordActivity _ userId _ (some _) => userId = other → (db.activityOf other).isSome = true
  | _ => True

structure SameFace (w after : World) (other : UInt64) : Prop where
  name : after.db.nameOf other = w.db.nameOf other
  seen : (after.seen.get other).isSome = (w.seen.get other).isSome
  active : (after.db.activityOf other).isSome = (w.db.activityOf other).isSome

variable {epoch : UInt64} {s t : Server} {user : UInt64}

theorem SameFace.of_people {v w after : World} {other : UInt64} (face : SameFace v w other)
    (knownUser : after.db.knownUser = w.db.knownUser) (activity : after.db.activity = w.db.activity)
    (seen : after.seen = w.seen) : SameFace v after other where
  name := by rw [← face.name, nameOf, nameOf, lookupName, lookupName, knownUser]
  seen := by rw [seen, face.seen]
  active := by rw [← face.active, activityOf, activityOf, activity]

namespace Server

def Due (s : Server) (user : UInt64) : Prop :=
  ∃ id users rest, s.tasks.get id = some (.bump users rest) ∧ user ∈ users

/--
Nothing the user lists has changed since the first state, save what a task is
about to tell him.
-/
structure Calm (s t : Server) (user : UInt64) : Prop where
  rows : SameRows s.world.db t.world.db user
  faces : ∀ other, Listed s.world.db user other →
    (∃ id task, t.tasks.get id = some task ∧ OnWay s.world.db user other task)
      ∨ SameFace s.world t.world other
        ∧ ∀ id task, t.tasks.get id = some task → Fits s.world.db other task

/-- The user's revision has moved, or is about to, or what he sees is as it was. -/
def Informed (epoch : UInt64) (s t : Server) (user : UInt64) : Prop :=
  s.revision epoch user < t.revision epoch user ∨ t.Due user ∨ Calm s t user

structure Tells (s t : Server) (user : UInt64) (task : Task) (world : World) (left : Option Task) :
    Prop where
  rows : SameRows t.world.db world.db user
  passes : ∀ other, Listed s.world.db user other → OnWay s.world.db user other task →
    ∃ rest, left = some rest ∧ OnWay s.world.db user other rest
  faces : ∀ other, Listed s.world.db user other → SameFace s.world t.world other →
    Fits s.world.db other task →
    (∃ rest, left = some rest ∧ OnWay s.world.db user other rest)
      ∨ SameFace s.world world other ∧ ∀ rest, left = some rest → Fits s.world.db other rest

theorem get_withTask (tasks : Table Nat Task) (id other : Nat) (left : Option Task) :
    (withTask tasks id left).get other = if other = id then left else tasks.get other := by
  cases left with
  | none => exact Table.get_remove _ _ _
  | some task => exact Table.get_put _ _ _ _

theorem Calm.advance {id : Nat} {task : Task} {world : World} {left : Option Task}
    (calm : Calm s t user) (running : t.tasks.get id = some task)
    (tells : Tells s t user task world left) :
    Calm s { world := world, tasks := withTask t.tasks id left } user where
  rows := calm.rows.trans tells.rows
  faces other listed := by
    have placed {rest : Task} (remains : left = some rest) :
        (withTask t.tasks id left).get id = some rest := by
      rw [get_withTask, if_pos rfl, remains]
    rcases calm.faces other listed with ⟨carrier, news, found, way⟩ | ⟨face, fits⟩
    next =>
      by_cases own : carrier = id
      · subst own
        obtain rfl : task = news := Option.some.inj (running.symm.trans found)
        obtain ⟨rest, remains, onward⟩ := tells.passes other listed way
        exact .inl ⟨carrier, rest, placed remains, onward⟩
      · refine .inl ⟨carrier, news, ?_, way⟩
        rw [get_withTask, if_neg own, found]
    next =>
      rcases tells.faces other listed face (fits id task running) with ⟨rest, remains, way⟩ | ⟨kept, fitting⟩
      next => exact .inl ⟨id, rest, placed remains, way⟩
      next =>
        refine .inr ⟨kept, fun carrier news found => ?_⟩
        rw [get_withTask] at found
        split at found
        next => exact fitting news found
        next => exact fits carrier news found

section Tasks

variable {id : Nat} {now : Int64} {other current : UInt64} {out rest : List UInt64} {was : Option String}

theorem tells_silent {task : Task} {world : World} {left : Option Task}
    (silent : ∀ other, ¬OnWay s.world.db user other task)
    (rows : SameRows t.world.db world.db user)
    (faces : ∀ other, Listed s.world.db user other → SameFace s.world t.world other →
      Fits s.world.db other task →
      (∃ rest, left = some rest ∧ OnWay s.world.db user other rest)
        ∨ SameFace s.world world other ∧ ∀ rest, left = some rest → Fits s.world.db other rest) :
    Tells s t user task world left :=
  ⟨rows, fun other _ way => absurd way (silent other), faces⟩

theorem tells_act {call : Friends.Call} {left : Option Task}
    (rows : SameRows t.world.db (Friends.perform t.world.db call).2 user)
    (plain : ∀ rest, left = some rest → ∃ users, rest = .bump users []) :
    Tells s t user (.begin (.act call)) { t.world with db := (Friends.perform t.world.db call).2 }
      left := by
  refine tells_silent (fun _ way => way) rows fun other _ face _ => .inr ⟨?_, ?_⟩
  · obtain ⟨knownUser, activity⟩ := perform_people t.world.db call
    exact face.of_people knownUser activity rfl
  · intro rest remains
    obtain ⟨users, rfl⟩ := plain rest remains
    trivial

theorem tells_noteUser {username : String} :
    Tells s t user (.begin (.noteUser now current username)) t.world
      (some (.recordUser now current username (t.world.db.lookupName current))) := by
  refine tells_silent (fun _ way => way) (.refl _ _) fun other _ face _ => .inr ⟨face, ?_⟩
  rintro _ ⟨⟩
  cases read : t.world.db.lookupName current with
  | none => trivial
  | some was =>
    rintro rfl
    rw [← face.name, nameOf, read]
    rfl

theorem sameRows_recordUser {db : SocialDb} {username : String} :
    SameRows db (db.recordUser now current username) user := by
  rw [recordUser]
  split <;> exact ⟨rfl, rfl, rfl, fun _ => rfl⟩

theorem sameRows_recordActivity {db : SocialDb} {connection : String} :
    SameRows db (db.recordActivity now current connection) user := by
  rw [recordActivity]
  split <;> exact ⟨rfl, rfl, rfl, fun _ => rfl⟩

theorem tells_recordUser {username : String} (calm : Calm s t user)
    (known : was = none → username = t.world.db.nameOf current
      ∨ ∀ viewer, ¬Listed t.world.db viewer current) :
    Tells s t user (.recordUser now current username was)
      { t.world with db := t.world.db.recordUser now current username }
      (if was.any (· ≠ username) then some (.bumpWatchers [current]) else none) := by
  refine tells_silent (fun _ way => way) sameRows_recordUser fun other listed face fits => ?_
  have active : (t.world.db.recordUser now current username).activity = t.world.db.activity := by
    rw [recordUser]
    split <;> rfl
  have faced (name : (t.world.db.recordUser now current username).nameOf other
      = t.world.db.nameOf other) :
      SameFace s.world { t.world with db := t.world.db.recordUser now current username } other :=
    ⟨name.trans face.name, face.seen, by rw [← face.active, activityOf, activityOf, active]⟩
  by_cases same : current = other
  · subst same
    split
    next renamed => exact .inl ⟨_, rfl, List.mem_singleton_self _⟩
    next unnamed =>
      refine .inr ⟨faced ?_, by simp⟩
      have written : username = t.world.db.nameOf current := by
        cases was with
        | none =>
          refine (known rfl).resolve_right fun unlisted => ?_
          exact unlisted user (calm.rows.listed_iff.mpr listed)
        | some was =>
          have kept : was = username := by simpa using unnamed
          rw [← kept, face.name]
          exact fits rfl
      rcases nameOf_recordUser_self username with recorded | unchanged
      next => rw [recorded, written]
      next => exact unchanged
  · refine .inr ⟨faced (nameOf_recordUser_of_ne (Ne.symm same)), ?_⟩
    intro rest remains
    split at remains
    next =>
      obtain rfl := Option.some.inj remains
      trivial
    next => cases remains

theorem tells_setActivity {connection : String} :
    Tells s t user (.begin (.setActivity now current connection)) t.world
      (some (.recordActivity now current connection (t.world.db.activityOf current))) := by
  refine tells_silent (fun _ way => way) (.refl _ _) fun other _ face _ => .inr ⟨face, ?_⟩
  rintro _ ⟨⟩
  cases read : t.world.db.activityOf current with
  | none => trivial
  | some was =>
    rintro rfl
    rw [← face.active, read]
    rfl

theorem tells_recordActivity {connection : String} :
    Tells s t user (.recordActivity now current connection was)
      { t.world with db := t.world.db.recordActivity now current connection }
      (if was.all (· ≠ connection) then some (.bumpWatchers [current]) else none) := by
  refine tells_silent (fun _ way => way) sameRows_recordActivity fun other listed face fits => ?_
  have named : (t.world.db.recordActivity now current connection).knownUser
      = t.world.db.knownUser := by
    rw [recordActivity]
    split <;> rfl
  have faced (active : ((t.world.db.recordActivity now current connection).activityOf other).isSome
      = (t.world.db.activityOf other).isSome) :
      SameFace s.world { t.world with db := t.world.db.recordActivity now current connection }
        other :=
    ⟨by rw [← face.name, nameOf, nameOf, lookupName, lookupName, named], face.seen,
      active.trans face.active⟩
  by_cases same : current = other
  · subst same
    split
    next changed => exact .inl ⟨_, rfl, List.mem_singleton_self _⟩
    next unchanged =>
      refine .inr ⟨faced ?_, by simp⟩
      cases was with
      | none => simp at unchanged
      | some was =>
        have before : (t.world.db.activityOf current).isSome = true := by
          rw [face.active]
          exact fits rfl
        rw [before]
        exact isSome_activityOf_recordActivity before
  · refine .inr ⟨faced (by rw [activityOf_recordActivity_of_ne (Ne.symm same)]), ?_⟩
    intro rest remains
    split at remains
    next =>
      obtain rfl := Option.some.inj remains
      trivial
    next => cases remains

theorem tells_clearActivity :
    Tells s t user (.begin (.clearActivity current))
      { t.world with db := t.world.db.deleteActivity current }
      (if Rows.has ActivityRow.userId current t.world.db.activity then
        some (.bumpWatchers [current]) else none) := by
  refine tells_silent (fun _ way => way) ⟨rfl, rfl, rfl, fun _ => rfl⟩ fun other _ face _ => ?_
  split
  next cleared =>
    by_cases same : current = other
    · exact .inl ⟨_, rfl, List.mem_singleton.mpr same.symm⟩
    · refine .inr ⟨⟨face.name, face.seen, ?_⟩, ?_⟩
      · rw [← face.active, activityOf_deleteActivity_of_ne (Ne.symm same)]
      · rintro _ ⟨⟩
        trivial
  next absent =>
    rw [deleteActivity_of_absent (by simpa using absent)]
    exact .inr ⟨face, by simp⟩

theorem tells_touch :
    Tells s t user (.begin (.touch current))
      { t.world with seen := t.world.seen.put current t.world.clock }
      (if (t.world.seen.get current).all (expired t.world.clock) then
        some (.bumpWatchers [current]) else none) := by
  refine tells_silent (fun _ way => way) (.refl _ _) fun other _ face _ => ?_
  split
  next arrived =>
    by_cases same : current = other
    · exact .inl ⟨_, rfl, List.mem_singleton.mpr same.symm⟩
    · refine .inr ⟨⟨face.name, ?_, face.active⟩, ?_⟩
      · rw [← face.seen]
        exact congrArg Option.isSome (Table.get_put_of_ne _ _ (Ne.symm same))
      · rintro _ ⟨⟩
        trivial
  next stayed =>
    refine .inr ⟨⟨face.name, ?_, face.active⟩, by simp⟩
    rw [← face.seen]
    by_cases same : current = other
    · subst same
      cases instant : t.world.seen.get current with
      | none => simp [instant] at stayed
      | some instant => simp
    · exact congrArg Option.isSome (Table.get_put_of_ne _ _ (Ne.symm same))

theorem get_foldl_remove {κ ν : Type} [DecidableEq κ] {keys : List κ} {key : κ}
    (outside : key ∉ keys) (table : Table κ ν) :
    (keys.foldl Table.remove table).get key = table.get key := by
  induction keys generalizing table with
  | nil => rfl
  | cons first keys ih =>
    obtain ⟨apart, later⟩ : key ≠ first ∧ key ∉ keys := by simpa using outside
    rw [List.foldl_cons, ih later, Table.get_remove_of_ne _ apart]

theorem tells_sweep :
    Tells s t user (.begin .sweep)
      { t.world with seen := t.world.gone.foldl Table.remove t.world.seen }
      (some (.bumpWatchers t.world.gone)) := by
  refine tells_silent (fun _ way => way) (.refl _ _) fun other _ face _ => ?_
  by_cases left : other ∈ t.world.gone
  · exact .inl ⟨_, rfl, left⟩
  · refine .inr ⟨⟨face.name, ?_, face.active⟩, ?_⟩
    · rw [← face.seen]
      exact congrArg Option.isSome (get_foldl_remove left _)
    · rintro _ ⟨⟩
      trivial

theorem tells_bumpWatchers_nil : Tells s t user (.bumpWatchers []) t.world none where
  rows := .refl _ _
  passes _ _ way := absurd way List.not_mem_nil
  faces _ _ face _ := .inr ⟨face, by simp⟩

theorem tells_bumpWatchers_cons (calm : Calm s t user)
    (symmetric : ∀ a b, t.world.db.hasFriend a b = true → t.world.db.hasFriend b a = true) :
    Tells s t user (.bumpWatchers (current :: rest)) t.world
      (some (.incoming current (ids (Friends.list t.world.db current)) rest)) where
  rows := .refl _ _
  passes other listed way := by
    refine ⟨_, rfl, ?_⟩
    rcases List.mem_cons.mp way with rfl | later
    next =>
      refine .inl ⟨rfl, listed.imp_left fun friend => ?_⟩
      rw [hasFriend_eq, ← calm.rows.friends, ← hasFriend_eq] at friend
      exact mem_ids_list.mpr (symmetric _ _ friend)
    next => exact .inr later
  faces _ _ face _ := .inr ⟨face, by rintro _ ⟨⟩; trivial⟩

theorem tells_incoming (calm : Calm s t user) :
    Tells s t user (.incoming current out rest) t.world
      (some (.outgoing current (out ++ ids (Friends.incomingRequests t.world.db current)) rest)) where
  rows := .refl _ _
  passes other listed way := by
    refine ⟨_, rfl, way.imp_left fun ⟨here, found⟩ => ⟨here, ?_⟩⟩
    rcases found with read | asks | asked
    next => exact .inl (List.mem_append_left _ read)
    next =>
      rw [hasRequest_eq_from, ← calm.rows.requestsFrom, ← hasRequest_eq_from] at asks
      exact .inl (List.mem_append_right _ (mem_ids_incoming.mpr (here ▸ asks)))
    next => exact .inr asked
  faces _ _ face _ := .inr ⟨face, by rintro _ ⟨⟩; trivial⟩

theorem tells_outgoing (calm : Calm s t user)
    (unnamed : user ∉ sorted (out ++ ids (Friends.outgoingRequests t.world.db current)))
    {left : Task} (remains : left = .bumpWatchers rest ∨ ∃ users, left = .bump users rest) :
    Tells s t user (.outgoing current out rest) t.world (some left) where
  rows := .refl _ _
  passes other listed way := by
    refine ⟨left, rfl, ?_⟩
    rcases way with ⟨here, found⟩ | later
    next =>
      refine absurd ?_ unnamed
      rw [sorted, List.mem_dedup, List.mem_insertionSort, List.mem_append]
      refine found.imp_right fun asked => ?_
      rw [hasRequest_eq_to, ← calm.rows.requestsTo, ← hasRequest_eq_to] at asked
      exact mem_ids_outgoing.mpr (here ▸ asked)
    next => rcases remains with rfl | ⟨users, rfl⟩ <;> exact later
  faces _ _ face _ := by
    refine .inr ⟨face, ?_⟩
    rintro _ ⟨⟩
    rcases remains with rfl | ⟨users, rfl⟩ <;> trivial

theorem tells_bump {users : List UInt64} {revisions : Revisions} :
    Tells s t user (.bump users rest) { t.world with revisions := revisions }
      (some (.bumpWatchers rest)) where
  rows := .refl _ _
  passes _ _ way := ⟨_, rfl, way⟩
  faces _ _ face _ := .inr ⟨face.of_people rfl rfl rfl, by rintro _ ⟨⟩; trivial⟩

end Tasks

theorem informed_of_due {id : Nat} {left : Task} {world : World} {users rest : List UInt64}
    (remains : left = .bump users rest) (named : user ∈ users) :
    Informed epoch s { world := world, tasks := withTask t.tasks id (some left) } user := by
  refine .inr (.inl ⟨id, users, rest, ?_, named⟩)
  rw [get_withTask, if_pos rfl, remains]

/-- A name is written over none only if it is the one that others see, or if nobody looks. -/
def Named (s : Server) : Action → Prop
  | .advance id =>
    match s.tasks.get id with
    | some (.recordUser _ userId username none) =>
      username = s.world.db.nameOf userId ∨ ∀ viewer, ¬Listed s.world.db viewer userId
    | _ => True
  | _ => True

theorem informed_advance {id : Nat} {task : Task} {world : World} {left : Option Task}
    (calm : Calm s t user)
    (symmetric : ∀ a b, t.world.db.hasFriend a b = true → t.world.db.hasFriend b a = true)
    (named : Named t (.advance id)) (running : t.tasks.get id = some task)
    (went : next epoch t.world task = some (world, left)) :
    Informed epoch s { world := world, tasks := withTask t.tasks id left } user := by
  have told (tells : Tells s t user task world left) :
      Informed epoch s { world := world, tasks := withTask t.tasks id left } user :=
    .inr (.inr (calm.advance running tells))
  cases task with
  | begin op =>
    cases op with
    | act call =>
      rw [next] at went
      rcases did : Friends.perform t.world.db call with ⟨_ | _, db⟩
      all_goals rw [did] at went
      all_goals obtain ⟨rfl, rfl⟩ := Prod.mk.inj (Option.some.inj went)
      next e =>
        have same : (Friends.perform t.world.db call).2 = t.world.db :=
          perform_of_error (congrArg Prod.fst did)
        refine told ?_
        have quiet := @tells_act s t user call none (by rw [same]; exact .refl _ _) (by simp)
        rwa [did] at quiet
      next result =>
        by_cases involved : user ∈ parties call
        · exact informed_of_due rfl involved
        · have quiet := @tells_act s t user call (some (.bump (parties call) []))
            (sameRows_perform involved) (by rintro _ ⟨⟩; exact ⟨_, rfl⟩)
          rw [did] at quiet
          exact told quiet
    | noteUser now userId username =>
      obtain ⟨rfl, rfl⟩ := Prod.mk.inj (Option.some.inj went)
      exact told tells_noteUser
    | setActivity now userId connection =>
      obtain ⟨rfl, rfl⟩ := Prod.mk.inj (Option.some.inj went)
      exact told tells_setActivity
    | clearActivity userId =>
      obtain ⟨rfl, rfl⟩ := Prod.mk.inj (Option.some.inj went)
      exact told tells_clearActivity
    | touch userId =>
      obtain ⟨rfl, rfl⟩ := Prod.mk.inj (Option.some.inj went)
      exact told tells_touch
    | sweep =>
      obtain ⟨rfl, rfl⟩ := Prod.mk.inj (Option.some.inj went)
      exact told tells_sweep
  | recordUser now userId username was =>
    obtain ⟨rfl, rfl⟩ := Prod.mk.inj (Option.some.inj went)
    refine told (tells_recordUser calm ?_)
    rintro rfl
    rwa [Named, running] at named
  | recordActivity now userId connection was =>
    obtain ⟨rfl, rfl⟩ := Prod.mk.inj (Option.some.inj went)
    exact told tells_recordActivity
  | bumpWatchers users =>
    cases users with
    | nil =>
      obtain ⟨rfl, rfl⟩ := Prod.mk.inj (Option.some.inj went)
      exact told tells_bumpWatchers_nil
    | cons current rest =>
      obtain ⟨rfl, rfl⟩ := Prod.mk.inj (Option.some.inj went)
      exact told (tells_bumpWatchers_cons calm symmetric)
  | incoming current out rest =>
    obtain ⟨rfl, rfl⟩ := Prod.mk.inj (Option.some.inj went)
    exact told (tells_incoming calm)
  | outgoing current out rest =>
    obtain ⟨rfl, rfl⟩ := Prod.mk.inj (Option.some.inj went)
    by_cases watching : user ∈ sorted (out ++ ids (Friends.outgoingRequests t.world.db current))
    · have some : (sorted (out ++ ids (Friends.outgoingRequests t.world.db current))).isEmpty
          = false := List.isEmpty_eq_false_iff_exists_mem.mpr ⟨user, watching⟩
      exact informed_of_due (by rw [some]; rfl) watching
    · refine told (tells_outgoing calm watching ?_)
      split
      next => exact .inl rfl
      next => exact .inr ⟨_, rfl⟩
  | bump users rest =>
    obtain ⟨revisions, counted, made⟩ := Option.map_eq_some_iff.mp went
    obtain ⟨rfl, rfl⟩ := Prod.mk.inj made
    exact told tells_bump

theorem revision_le_next {w after : World} {task : Task} {left : Option Task}
    (went : next epoch w task = some (after, left)) (user : UInt64) :
    Watch.revision epoch w.revisions user ≤ Watch.revision epoch after.revisions user := by
  cases task with
  | begin op =>
    cases op with
    | act call =>
      rw [next] at went
      split at went <;>
        (obtain ⟨rfl, rfl⟩ := Prod.mk.inj (Option.some.inj went); exact UInt64.le_refl _)
    | _ =>
      obtain ⟨rfl, rfl⟩ := Prod.mk.inj (Option.some.inj went)
      exact UInt64.le_refl _
  | bumpWatchers users =>
    cases users with
    | _ =>
      obtain ⟨rfl, rfl⟩ := Prod.mk.inj (Option.some.inj went)
      exact UInt64.le_refl _
  | bump users rest =>
    obtain ⟨revisions, counted, made⟩ := Option.map_eq_some_iff.mp went
    obtain ⟨rfl, rfl⟩ := Prod.mk.inj made
    have grown := revision_countUp counted user
    exact UInt64.le_iff_toNat_le.mpr (by dsimp only; omega)
  | _ =>
    obtain ⟨rfl, rfl⟩ := Prod.mk.inj (Option.some.inj went)
    exact UInt64.le_refl _

theorem revision_lt_bump {w after : World} {users rest : List UInt64} {left : Option Task}
    (went : next epoch w (.bump users rest) = some (after, left)) (named : user ∈ users) :
    Watch.revision epoch w.revisions user < Watch.revision epoch after.revisions user := by
  obtain ⟨revisions, counted, made⟩ := Option.map_eq_some_iff.mp went
  obtain ⟨rfl, rfl⟩ := Prod.mk.inj made
  have grown := revision_countUp counted user
  have positive : 0 < users.count user := List.count_pos_iff.mpr named
  exact UInt64.lt_iff_toNat_lt.mpr (by dsimp only; omega)

/-- All a step can do: nothing, begin a task, let time pass, or one step of a task. -/
theorem step_cases (epoch : UInt64) (t : Server) (action : Action) :
    step epoch t action = t
      ∨ (∃ id op, t.tasks.get id = none
          ∧ step epoch t action = { t with tasks := t.tasks.put id (.begin op) })
      ∨ (∃ time, step epoch t action
          = { t with world := { t.world with clock := t.world.clock + time } })
      ∨ ∃ id task world left, action = .advance id ∧ t.tasks.get id = some task
          ∧ next epoch t.world task = some (world, left)
          ∧ step epoch t action = { world := world, tasks := withTask t.tasks id left } := by
  cases action with
  | start id op =>
    rw [step]
    split
    next unused => exact .inr (.inl ⟨id, op, unused, rfl⟩)
    next => exact .inl rfl
  | advance id =>
    rw [step]
    split
    next => exact .inl rfl
    next task running =>
      split
      next => exact .inl rfl
      next world left went =>
        exact .inr (.inr (.inr ⟨id, task, world, left, rfl, running, went, rfl⟩))
  | elapse time => exact .inr (.inr (.inl ⟨time, rfl⟩))

theorem revision_le_step (t : Server) (action : Action) (user : UInt64) :
    t.revision epoch user ≤ (step epoch t action).revision epoch user := by
  rcases step_cases epoch t action with same | ⟨id, op, _, did⟩ | ⟨time, did⟩
    | ⟨id, task, world, left, _, _, went, did⟩
  next => rw [same]; exact UInt64.le_refl _
  next => rw [did]; exact UInt64.le_refl _
  next => rw [did]; exact UInt64.le_refl _
  next => rw [did]; exact revision_le_next went user

theorem informed_step (informed : Informed epoch s t user)
    (older : s.revision epoch user ≤ t.revision epoch user)
    (symmetric : ∀ a b, t.world.db.hasFriend a b = true → t.world.db.hasFriend b a = true)
    (action : Action) (named : Named t action) : Informed epoch s (step epoch t action) user := by
  rcases step_cases epoch t action with same | ⟨id, op, unused, did⟩ | ⟨time, did⟩
    | ⟨id, task, world, left, rfl, running, went, did⟩
  next =>
    rw [same]
    exact informed
  next =>
    rw [did]
    have stays {other : Nat} {task : Task} (found : t.tasks.get other = some task) :
        (t.tasks.put id (.begin op)).get other = some task := by
      have apart : other ≠ id := by
        rintro rfl
        simp [unused] at found
      exact (Table.get_put_of_ne _ _ apart).trans found
    rcases informed with moved | ⟨carrier, users, rest, due, mine⟩ | calm
    next => exact .inl moved
    next => exact .inr (.inl ⟨carrier, users, rest, stays due, mine⟩)
    next =>
      refine .inr (.inr ⟨calm.rows, fun other listed => ?_⟩)
      rcases calm.faces other listed with ⟨carrier, news, found, way⟩ | ⟨face, fits⟩
      next => exact .inl ⟨carrier, news, stays found, way⟩
      next =>
        refine .inr ⟨face, fun carrier news found => ?_⟩
        rw [Table.get_put] at found
        split at found
        next =>
          obtain rfl := Option.some.inj found
          trivial
        next => exact fits carrier news found
  next =>
    rw [did]
    rcases informed with moved | due | calm
    next => exact .inl moved
    next => exact .inr (.inl due)
    next =>
      refine .inr (.inr ⟨calm.rows, fun other listed => ?_⟩)
      rcases calm.faces other listed with news | ⟨face, fits⟩
      next => exact .inl news
      next => exact .inr ⟨face.of_people rfl rfl rfl, fits⟩
  next =>
    rw [did]
    rcases informed with moved | ⟨carrier, users, rest, due, mine⟩ | calm
    next => exact .inl (UInt64.lt_of_lt_of_le moved (revision_le_next went user))
    next =>
      by_cases own : carrier = id
      · subst own
        obtain rfl : task = .bump users rest := Option.some.inj (running.symm.trans due)
        exact .inl (UInt64.lt_of_le_of_lt older (revision_lt_bump went mine))
      · refine .inr (.inl ⟨carrier, users, rest, ?_, mine⟩)
        rw [get_withTask, if_neg own, due]
    next => exact informed_advance calm symmetric named running went

theorem sound_of_tables {calls : List Friends.Call} {db after : SocialDb}
    (sound : Friends.Sound calls db) (friend : after.friend = db.friend)
    (friendRequest : after.friendRequest = db.friendRequest) : Friends.Sound calls after := by
  have friends (a b : UInt64) : after.hasFriend a b = db.hasFriend a b := by
    rw [hasFriend, hasFriend, friend]
  have requests (a b : UInt64) : after.hasRequest a b = db.hasRequest a b := by
    rw [hasRequest, hasRequest, friendRequest]
  constructor <;> simp only [friends, requests]
  · exact sound.symmetric
  · exact sound.irreflexive
  · exact sound.oneWay
  · exact sound.friendsBind
  · exact sound.requestsBind
  · exact sound.asked
  · exact sound.consented

theorem sound_next {w after : World} {task : Task} {left : Option Task}
    (went : next epoch w task = some (after, left)) (sound : ∃ calls, Friends.Sound calls w.db) :
    ∃ calls, Friends.Sound calls after.db := by
  obtain ⟨calls, sound⟩ := sound
  cases task with
  | begin op =>
    cases op with
    | act call =>
      have stepped := Friends.sound_step sound call
      rw [next] at went
      split at went <;>
        (next did =>
          obtain ⟨rfl, rfl⟩ := Prod.mk.inj (Option.some.inj went)
          rw [Friends.step, did] at stepped
          exact ⟨_, stepped⟩)
    | _ =>
      obtain ⟨rfl, rfl⟩ := Prod.mk.inj (Option.some.inj went)
      exact ⟨calls, sound_of_tables sound rfl rfl⟩
  | recordUser now userId username was =>
    obtain ⟨rfl, rfl⟩ := Prod.mk.inj (Option.some.inj went)
    refine ⟨calls, sound_of_tables sound ?_ ?_⟩ <;> (rw [recordUser]; split <;> rfl)
  | recordActivity now userId connection was =>
    obtain ⟨rfl, rfl⟩ := Prod.mk.inj (Option.some.inj went)
    refine ⟨calls, sound_of_tables sound ?_ ?_⟩ <;> (rw [recordActivity]; split <;> rfl)
  | bumpWatchers users =>
    cases users with
    | _ =>
      obtain ⟨rfl, rfl⟩ := Prod.mk.inj (Option.some.inj went)
      exact ⟨calls, sound⟩
  | bump users rest =>
    obtain ⟨revisions, counted, made⟩ := Option.map_eq_some_iff.mp went
    obtain ⟨rfl, rfl⟩ := Prod.mk.inj made
    exact ⟨calls, sound⟩
  | _ =>
    obtain ⟨rfl, rfl⟩ := Prod.mk.inj (Option.some.inj went)
    exact ⟨calls, sound⟩

theorem sound_step (sound : ∃ calls, Friends.Sound calls t.world.db) (action : Action) :
    ∃ calls, Friends.Sound calls (step epoch t action).world.db := by
  rcases step_cases epoch t action with same | ⟨id, op, _, did⟩ | ⟨time, did⟩
    | ⟨id, task, world, left, _, _, went, did⟩
  next => rwa [same]
  next => rwa [did]
  next => rwa [did]
  next => rw [did]; exact sound_next went sound

theorem sound_after (actions : List Action) :
    ∃ calls, Friends.Sound calls (after epoch actions).world.db :=
  @Runs.run_keeps _ _ _ (fun t : Server => ∃ calls, Friends.Sound calls t.world.db)
    (fun _ action sound => sound_step sound action) _ _ ⟨[], Friends.sound_initialized⟩

structure Followed (epoch : UInt64) (s t : Server) (user : UInt64) : Prop where
  sound : ∃ calls, Friends.Sound calls t.world.db
  older : s.revision epoch user ≤ t.revision epoch user
  informed : Informed epoch s t user

theorem followed_step (followed : Followed epoch s t user) (action : Action)
    (named : Named t action) : Followed epoch s (step epoch t action) user where
  sound := sound_step followed.sound action
  older := UInt64.le_trans followed.older (revision_le_step t action user)
  informed := by
    obtain ⟨calls, sound⟩ := followed.sound
    exact informed_step followed.informed followed.older sound.symmetric action named

theorem followed_start (quiet : s.Quiescent) (sound : ∃ calls, Friends.Sound calls s.world.db) :
    Followed epoch s s user where
  sound := sound
  older := UInt64.le_refl _
  informed := by
    refine .inr (.inr ⟨.refl _ _, fun other _ => .inr ⟨⟨rfl, rfl, rfl⟩, fun id task found => ?_⟩⟩)
    simp [quiet id] at found

end Server

section Views

variable {w after : World} {db db' : SocialDb} {user : UInt64}

theorem list_eq (rows : SameRows db db' user)
    (names : ∀ other, Listed db user other → db'.nameOf other = db.nameOf other) :
    Friends.list db' user = Friends.list db user := by
  rw [Friends.list, Friends.list, rows.friends]
  refine List.map_congr_left fun row member => ?_
  obtain ⟨present, rfl⟩ : row ∈ db.friend ∧ row.userId = user := by simpa [friendsOf] using member
  have listed : Listed db row.userId row.friendId := .inl (Rows.has_iff.mpr ⟨row, present, rfl⟩)
  rw [names _ listed, rows.isMutual]

theorem incomingRequests_eq (rows : SameRows db db' user)
    (names : ∀ other, Listed db user other → db'.nameOf other = db.nameOf other) :
    Friends.incomingRequests db' user = Friends.incomingRequests db user := by
  rw [Friends.incomingRequests, Friends.incomingRequests, rows.requestsTo]
  refine List.map_congr_left fun row member => ?_
  obtain ⟨present, rfl⟩ : row ∈ db.friendRequest ∧ row.toId = user := by
    simpa [requestsTo] using member
  have listed : Listed db row.toId row.fromId :=
    .inr (.inr (Rows.has_iff.mpr ⟨row, present, rfl⟩))
  rw [names _ listed]

theorem outgoingRequests_eq (rows : SameRows db db' user)
    (names : ∀ other, Listed db user other → db'.nameOf other = db.nameOf other) :
    Friends.outgoingRequests db' user = Friends.outgoingRequests db user := by
  rw [Friends.outgoingRequests, Friends.outgoingRequests, rows.requestsFrom]
  refine List.map_congr_left fun row member => ?_
  obtain ⟨present, rfl⟩ : row ∈ db.friendRequest ∧ row.fromId = user := by
    simpa [requestsFrom] using member
  have listed : Listed db row.fromId row.toId :=
    .inr (.inl (Rows.has_iff.mpr ⟨row, present, rfl⟩))
  rw [names _ listed]

theorem view_eq (rows : SameRows w.db after.db user)
    (faces : ∀ other, Listed w.db user other → SameFace w after other)
    (online : ∀ other, w.isOnline other = (w.seen.get other).isSome)
    (online' : ∀ other, after.isOnline other = (after.seen.get other).isSome) :
    view after user = view w user := by
  have names (other : UInt64) (listed : Listed w.db user other) :
      after.db.nameOf other = w.db.nameOf other := (faces other listed).name
  have shown (f : Friendship) (listed : Listed w.db user f.userId) :
      presence after f = presence w f := by
    have face := faces f.userId listed
    rw [presence, presence, online, online', face.seen, face.active]
  rw [view, view, list_eq rows names, incomingRequests_eq rows names, outgoingRequests_eq rows names]
  congr 1
  next =>
    congr 1
    next =>
      refine List.map_congr_left fun f member => shown f (.inl ?_)
      exact mem_ids_list.mp (List.mem_map_of_mem member)
    next =>
      refine List.map_congr_left fun f member => shown f (.inr (.inl ?_))
      exact mem_ids_outgoing.mp (List.mem_map_of_mem member)
  next =>
    refine List.map_congr_left fun f member => shown f (.inr (.inr ?_))
    exact mem_ids_incoming.mp (List.mem_map_of_mem member)

end Views

namespace Server

theorem Swept.isOnline (swept : s.Swept) (other : UInt64) :
    s.world.isOnline other = (s.world.seen.get other).isSome := by
  cases instant : s.world.seen.get other with
  | none => simp [World.isOnline, instant]
  | some at_ => simpa using swept other (by simp [instant])

/--
If names are written over none only where nobody sees a difference, then a user
whose view differs between two quiet moments has a different revision.
-/
theorem revision_ne_of_view_ne (epoch : UInt64) (first between : List Action) (user : UInt64)
    (named : Runs.Meets (step epoch) Named initialized (first ++ between))
    (quiet : (after epoch first).Quiescent) (swept : (after epoch first).Swept)
    (quiet' : (after epoch (first ++ between)).Quiescent)
    (swept' : (after epoch (first ++ between)).Swept)
    (differs : view (after epoch (first ++ between)).world user
      ≠ view (after epoch first).world user) :
    (after epoch (first ++ between)).revision epoch user ≠ (after epoch first).revision epoch user := by
  intro same
  rw [after, Runs.run_append] at same quiet' swept' differs
  have followed : Followed epoch (after epoch first)
      (Runs.run (step epoch) (after epoch first) between) user :=
    @Runs.run_invariant _ _ _ (fun t => Followed epoch (after epoch first) t user) _
      (fun _ action followed named => followed_step followed action named) _ _
      (followed_start quiet (sound_after first)) named.append.2
  rcases followed.informed with moved | ⟨id, users, rest, due, _⟩ | calm
  next =>
    rw [same] at moved
    exact UInt64.lt_irrefl _ moved
  next => simp [quiet' id] at due
  next =>
    refine differs (view_eq calm.rows (fun other listed => ?_) swept.isOnline swept'.isOnline)
    rcases calm.faces other listed with ⟨id, task, found, _⟩ | ⟨face, _⟩
    next => simp [quiet' id] at found
    next => exact face

theorem quiescent_of_empty (empty : s.tasks = ∅) : s.Quiescent := by
  intro id
  rw [empty, Table.get_empty]

theorem swept_of_empty (empty : s.world.seen = ∅) : s.Swept := by
  intro other seen
  simp [empty] at seen

-- the first player asks the second one, who has never signed in
def asked : List Action :=
  [.start 0 (.act (.request 0 1 2)), .advance 0, .advance 0, .advance 0]

def firstSignIn : List Action := [.start 1 (.noteUser 0 2 "Soap"), .advance 1, .advance 1]

theorem revision_ne_of_asked :
    (after 0 ([] ++ asked)).revision 0 1 ≠ (after 0 []).revision 0 1 :=
  revision_ne_of_view_ne 0 [] asked 1 ⟨trivial, trivial, trivial, trivial, trivial⟩
    (quiescent_of_empty rfl) (swept_of_empty rfl) (quiescent_of_empty rfl) (swept_of_empty rfl)
    (by decide)

theorem firstSignIn_unnoticed :
    ¬∀ (epoch : UInt64) (first between : List Action) (user : UInt64),
      (after epoch first).Quiescent → (after epoch first).Swept →
      (after epoch (first ++ between)).Quiescent → (after epoch (first ++ between)).Swept →
      view (after epoch (first ++ between)).world user ≠ view (after epoch first).world user →
      (after epoch (first ++ between)).revision epoch user
        ≠ (after epoch first).revision epoch user := by
  intro all
  exact all 0 asked firstSignIn 1 (quiescent_of_empty rfl) (swept_of_empty rfl)
    (quiescent_of_empty rfl) (swept_of_empty rfl) (by decide) (by decide)

end Server

end Social

end BitDemon
