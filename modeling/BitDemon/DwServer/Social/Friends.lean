import BitDemon.DwServer.Sqlite
import BitDemon.Library.Rows
import BitDemon.Library.Runs
import Mathlib.Data.List.Induction

set_option autoImplicit false

/-!
# Friends

A friendship is two rows, one for each direction. A request is one row, which
the answer to it removes.
-/

namespace BitDemon

structure FriendRow where
  userId : UInt64
  friendId : UInt64
  createdAt : Int64
  deriving DecidableEq

structure FriendRequestRow where
  fromId : UInt64
  toId : UInt64
  createdAt : Int64
  deriving DecidableEq

structure KnownUserRow where
  userId : UInt64
  username : String
  seenAt : Int64
  deriving DecidableEq

structure ActivityRow where
  userId : UInt64
  connection : String
  updatedAt : Int64
  deriving DecidableEq

-- the primary keys
def FriendRow.key (row : FriendRow) : UInt64 × UInt64 := (row.userId, row.friendId)

def FriendRequestRow.key (row : FriendRequestRow) : UInt64 × UInt64 := (row.fromId, row.toId)

structure SocialDb where
  friend : List FriendRow
  friendRequest : List FriendRequestRow
  knownUser : List KnownUserRow
  activity : List ActivityRow
  deriving DecidableEq

namespace SocialDb

def initialized : SocialDb := { friend := [], friendRequest := [], knownUser := [], activity := [] }

def hasFriend (db : SocialDb) (userId friendId : UInt64) : Bool :=
  Rows.has FriendRow.key (userId, friendId) db.friend

def hasRequest (db : SocialDb) (fromId toId : UInt64) : Bool :=
  Rows.has FriendRequestRow.key (fromId, toId) db.friendRequest

-- `(a = ?1 AND b = ?2) OR (a = ?2 AND b = ?1)`
def eitherWay (user other : UInt64) (pair : UInt64 × UInt64) : Bool :=
  decide (pair = (user, other)) || decide (pair = (other, user))

def deleteRequests (db : SocialDb) (user other : UInt64) : SocialDb :=
  { db with friendRequest := Rows.delete FriendRequestRow.key (eitherWay user other) db.friendRequest }

def deleteFriends (db : SocialDb) (user other : UInt64) : SocialDb :=
  { db with friend := Rows.delete FriendRow.key (eitherWay user other) db.friend }

def insertFriend (db : SocialDb) (userId friendId : UInt64) (now : Int64) : SocialDb :=
  { db with friend := Rows.insertOrIgnore FriendRow.key ⟨userId, friendId, now⟩ db.friend }

def insertRequest (db : SocialDb) (fromId toId : UInt64) (now : Int64) : SocialDb :=
  { db with
    friendRequest := Rows.insertOrIgnore FriendRequestRow.key ⟨fromId, toId, now⟩ db.friendRequest }

end SocialDb

namespace Friends

open SocialDb

-- a statement that names these two users can be executed
def binds (user other : UInt64) : Bool := Sqlite.bindable user && Sqlite.bindable other

-- `SELECT EXISTS (..)`, with `unwrap_or(false)`
def pending (db : SocialDb) (fromId toId : UInt64) : Bool :=
  binds fromId toId && db.hasRequest fromId toId

def acceptLocked (now : Int64) (user other : UInt64) (db : SocialDb) :
    Except String String × SocialDb :=
  if binds user other then
    let db := db.deleteRequests user other
    let db := db.insertFriend user other now
    let db := db.insertFriend other user now
    (.ok "friends", db)
  else
    (.error "could not record the friendship", db)

def request (now : Int64) (fromId toId : UInt64) (db : SocialDb) :
    Except String String × SocialDb :=
  if fromId = toId then
    (.error "cannot befriend yourself", db)
  else if pending db toId fromId then
    acceptLocked now fromId toId db
  else if binds fromId toId then
    (.ok "requested", db.insertRequest fromId toId now)
  else
    (.error "could not record the request", db)

def accept (now : Int64) (user fromId : UInt64) (db : SocialDb) :
    Except String String × SocialDb :=
  if pending db fromId user then
    acceptLocked now user fromId db
  else
    (.error "no such request", db)

-- the errors of both statements are dropped
def remove (user other : UInt64) (db : SocialDb) : Except String String × SocialDb :=
  if binds user other then
    (.ok "removed", (db.deleteFriends user other).deleteRequests user other)
  else
    (.ok "removed", db)

inductive Call where
  | request (now : Int64) (fromId toId : UInt64)
  | accept (now : Int64) (user fromId : UInt64)
  | remove (user other : UInt64)
  deriving DecidableEq

def perform (db : SocialDb) : Call → Except String String × SocialDb
  | .request now fromId toId => request now fromId toId db
  | .accept now user fromId => accept now user fromId db
  | .remove user other => remove user other db

def step (db : SocialDb) (call : Call) : SocialDb := (perform db call).2

abbrev after (calls : List Call) : SocialDb := Runs.run step initialized calls

variable {db : SocialDb} {now : Int64} {user other a b : UInt64}

theorem eitherWay_comm : eitherWay user other (a, b) = eitherWay user other (b, a) := by
  rw [Bool.eq_iff_iff]
  simp only [eitherWay, Bool.or_eq_true, decide_eq_true_eq, Prod.mk.injEq]
  tauto

theorem hasFriend_accepted (binding : binds user other = true) :
    (acceptLocked now user other db).2.hasFriend a b
      = (db.hasFriend a b || eitherWay user other (a, b)) := by
  rw [acceptLocked, if_pos binding]
  simp only [hasFriend, insertFriend, deleteRequests, Rows.has_insertOrIgnore, FriendRow.key,
    eitherWay, Bool.or_assoc, @eq_comm _ (a, b)]
  rfl

theorem hasRequest_accepted (binding : binds user other = true) :
    (acceptLocked now user other db).2.hasRequest a b
      = (db.hasRequest a b && !eitherWay user other (a, b)) := by
  rw [acceptLocked, if_pos binding]
  simp only [hasRequest, insertFriend, deleteRequests, Rows.has_delete]

theorem hasFriend_removed (binding : binds user other = true) :
    (remove user other db).2.hasFriend a b
      = (db.hasFriend a b && !eitherWay user other (a, b)) := by
  rw [remove, if_pos binding]
  simp only [hasFriend, deleteFriends, deleteRequests, Rows.has_delete]

theorem hasRequest_removed (binding : binds user other = true) :
    (remove user other db).2.hasRequest a b
      = (db.hasRequest a b && !eitherWay user other (a, b)) := by
  rw [remove, if_pos binding]
  simp only [hasRequest, deleteFriends, deleteRequests, Rows.has_delete]

theorem hasRequest_insertRequest :
    (db.insertRequest user other now).hasRequest a b
      = (db.hasRequest a b || decide ((user, other) = (a, b))) := by
  simp only [hasRequest, insertRequest, Rows.has_insertOrIgnore, FriendRequestRow.key]
  rfl

theorem binds_comm : binds user other = binds other user := Bool.and_comm _ _

/-- All a call can do: nothing, ask, answer a request that is pending, or remove. -/
theorem step_cases (db : SocialDb) (call : Call) :
    (step db call = db ∧ ∀ user other, call = .remove user other → binds user other = false)
      ∨ (∃ now fromId toId, call = .request now fromId toId ∧ fromId ≠ toId
          ∧ binds fromId toId = true ∧ db.hasRequest toId fromId = false
          ∧ step db call = db.insertRequest fromId toId now)
      ∨ (∃ now user other, (call = .request now user other ∨ call = .accept now user other)
          ∧ binds user other = true ∧ db.hasRequest other user = true
          ∧ step db call = (acceptLocked now user other db).2)
      ∨ (∃ user other, call = .remove user other ∧ binds user other = true
          ∧ step db call = (remove user other db).2) := by
  cases call with
  | request now fromId toId =>
    rw [step, perform, request]
    split
    next self => exact .inl ⟨rfl, by simp⟩
    next apart =>
      split
      next waiting =>
        obtain ⟨binding, present⟩ : binds toId fromId = true ∧ db.hasRequest toId fromId = true := by
          simpa [pending] using waiting
        exact .inr (.inr (.inl ⟨now, fromId, toId, .inl rfl, binds_comm ▸ binding, present, rfl⟩))
      next silent =>
        split
        next binding =>
          have absent : db.hasRequest toId fromId = false := by
            simpa [pending, binds_comm ▸ binding] using silent
          exact .inr (.inl ⟨now, fromId, toId, rfl, apart, binding, absent, rfl⟩)
        next unbound => exact .inl ⟨rfl, by simp⟩
  | accept now user fromId =>
    rw [step, perform, accept]
    split
    next waiting =>
      obtain ⟨binding, present⟩ : binds fromId user = true ∧ db.hasRequest fromId user = true := by
        simpa [pending] using waiting
      exact .inr (.inr (.inl ⟨now, user, fromId, .inr rfl, binds_comm ▸ binding, present, rfl⟩))
    next silent => exact .inl ⟨rfl, by simp⟩
  | remove user other =>
    cases binding : binds user other with
    | true => exact .inr (.inr (.inr ⟨user, other, rfl, binding, rfl⟩))
    | false =>
      refine .inl ⟨?_, ?_⟩
      · rw [step, perform, remove, binding]
        rfl
      · rintro _ _ ⟨⟩
        exact binding

def Call.asks (call : Call) (fromId toId : UInt64) : Prop := ∃ now, call = .request now fromId toId

def Call.answers (call : Call) (user fromId : UInt64) : Prop :=
  ∃ now, call = .request now user fromId ∨ call = .accept now user fromId

def Call.removes (call : Call) (a b : UInt64) : Prop := call = .remove a b ∨ call = .remove b a

def Asked (calls : List Call) (fromId toId : UInt64) : Prop :=
  ∃ first asked rest, calls = first ++ asked :: rest ∧ asked.asks fromId toId
    ∧ ∀ call ∈ rest, ¬call.removes fromId toId

def Agreed (calls : List Call) (fromId toId : UInt64) : Prop :=
  ∃ first asked between answered last, calls = first ++ asked :: (between ++ answered :: last)
    ∧ asked.asks fromId toId ∧ answered.answers toId fromId
    ∧ ∀ call ∈ between ++ last, ¬call.removes fromId toId

def Consented (calls : List Call) (a b : UInt64) : Prop := Agreed calls a b ∨ Agreed calls b a

theorem Call.removes_comm {call : Call} : call.removes a b ↔ call.removes b a := Or.comm

theorem Asked.snoc {calls : List Call} {call : Call} (asked : Asked calls a b)
    (keeps : ¬call.removes a b) : Asked (calls ++ [call]) a b := by
  obtain ⟨first, asking, rest, rfl, asks, quiet⟩ := asked
  refine ⟨first, asking, rest ++ [call], by simp, asks, ?_⟩
  intro later member
  rcases List.mem_append.mp member with before | last
  next => exact quiet later before
  next => exact List.mem_singleton.mp last ▸ keeps

theorem Asked.last {calls : List Call} {call : Call} (asks : call.asks a b) :
    Asked (calls ++ [call]) a b :=
  ⟨calls, call, [], rfl, asks, by simp⟩

theorem Agreed.snoc {calls : List Call} {call : Call} (agreed : Agreed calls a b)
    (keeps : ¬call.removes a b) : Agreed (calls ++ [call]) a b := by
  obtain ⟨first, asking, between, answering, last, rfl, asks, answers, quiet⟩ := agreed
  refine ⟨first, asking, between, answering, last ++ [call], by simp, asks, answers, ?_⟩
  intro later member
  rw [← List.append_assoc] at member
  rcases List.mem_append.mp member with before | last
  next => exact quiet later before
  next => exact List.mem_singleton.mp last ▸ keeps

theorem Asked.agreed {calls : List Call} {call : Call} (asked : Asked calls a b)
    (answers : call.answers b a) : Agreed (calls ++ [call]) a b := by
  obtain ⟨first, asking, rest, rfl, asks, quiet⟩ := asked
  exact ⟨first, asking, rest, call, [], by simp, asks, answers, by simpa using quiet⟩

theorem Consented.snoc {calls : List Call} {call : Call} (consented : Consented calls a b)
    (keeps : ¬call.removes a b) : Consented (calls ++ [call]) a b := by
  rcases consented with agreed | agreed
  next => exact .inl (agreed.snoc keeps)
  next => exact .inr (agreed.snoc (Call.removes_comm.not.mp keeps))

structure Sound (calls : List Call) (db : SocialDb) : Prop where
  symmetric : ∀ a b, db.hasFriend a b = true → db.hasFriend b a = true
  irreflexive : ∀ a, db.hasFriend a a = false
  -- so nobody has asked himself
  oneWay : ∀ a b, db.hasRequest a b = true → db.hasRequest b a = false
  friendsBind : ∀ a b, db.hasFriend a b = true → binds a b = true
  requestsBind : ∀ a b, db.hasRequest a b = true → binds a b = true
  asked : ∀ a b, db.hasRequest a b = true → Asked calls a b
  consented : ∀ a b, db.hasFriend a b = true → Consented calls a b

theorem sound_initialized : Sound [] initialized := by
  constructor <;> intros <;> simp_all [initialized, hasFriend, hasRequest, Rows.has]

theorem Sound.apart_of_request {calls : List Call} (sound : Sound calls db)
    (present : db.hasRequest a b = true) : a ≠ b := by
  rintro rfl
  simpa [present] using sound.oneWay a a present

theorem eitherWay_iff :
    eitherWay user other (a, b) = true ↔ a = user ∧ b = other ∨ a = other ∧ b = user := by
  simp [eitherWay]

theorem Sound.idle {calls : List Call} {call : Call} (sound : Sound calls db)
    (unbound : ∀ user other, call = .remove user other → binds user other = false) :
    Sound (calls ++ [call]) db := by
  have keeps (a b : UInt64) (binding : binds a b = true) : ¬call.removes a b := by
    rintro (rfl | rfl)
    next => simp [unbound a b rfl] at binding
    next => simp [binds_comm.trans (unbound b a rfl)] at binding
  exact
    { sound with
      asked := fun a b present =>
        (sound.asked a b present).snoc (keeps a b (sound.requestsBind a b present))
      consented := fun a b present =>
        (sound.consented a b present).snoc (keeps a b (sound.friendsBind a b present)) }

theorem Sound.ask {calls : List Call} {fromId toId : UInt64} (sound : Sound calls db)
    (apart : fromId ≠ toId) (binding : binds fromId toId = true)
    (silent : db.hasRequest toId fromId = false) :
    Sound (calls ++ [.request now fromId toId]) (db.insertRequest fromId toId now) := by
  have keeps (a b : UInt64) : ¬(Call.request now fromId toId).removes a b := by
    rintro (clash | clash) <;> cases clash
  have grown (a b : UInt64) (present : (db.insertRequest fromId toId now).hasRequest a b = true) :
      db.hasRequest a b = true ∨ fromId = a ∧ toId = b := by
    simpa [hasRequest_insertRequest] using present
  refine
    { symmetric := sound.symmetric
      irreflexive := sound.irreflexive
      oneWay := ?_
      friendsBind := sound.friendsBind
      requestsBind := ?_
      asked := ?_
      consented := fun a b present => (sound.consented a b present).snoc (keeps a b) }
  · intro a b present
    rw [hasRequest_insertRequest, Bool.or_eq_false_iff]
    rcases grown a b present with old | ⟨rfl, rfl⟩
    next =>
      refine ⟨sound.oneWay a b old, ?_⟩
      simp only [decide_eq_false_iff_not, Prod.mk.injEq]
      rintro ⟨rfl, rfl⟩
      simp [silent] at old
    next => exact ⟨silent, by simp [apart]⟩
  · intro a b present
    rcases grown a b present with old | ⟨rfl, rfl⟩
    next => exact sound.requestsBind a b old
    next => exact binding
  · intro a b present
    rcases grown a b present with old | ⟨rfl, rfl⟩
    next => exact (sound.asked a b old).snoc (keeps a b)
    next => exact Asked.last ⟨now, rfl⟩

theorem Sound.answer {calls : List Call} {call : Call} (sound : Sound calls db)
    (answers : call.answers user other) (binding : binds user other = true)
    (present : db.hasRequest other user = true) :
    Sound (calls ++ [call]) (acceptLocked now user other db).2 := by
  have keeps (a b : UInt64) : ¬call.removes a b := by
    obtain ⟨now, rfl | rfl⟩ := answers <;> rintro (clash | clash) <;> cases clash
  have agreed : Agreed (calls ++ [call]) other user := (sound.asked _ _ present).agreed answers
  have apart : other ≠ user := sound.apart_of_request present
  have befriended (a b : UInt64)
      (friends : (acceptLocked now user other db).2.hasFriend a b = true) :
      db.hasFriend a b = true ∨ a = user ∧ b = other ∨ a = other ∧ b = user := by
    rwa [hasFriend_accepted binding, Bool.or_eq_true, eitherWay_iff] at friends
  have left (a b : UInt64) (waits : (acceptLocked now user other db).2.hasRequest a b = true) :
      db.hasRequest a b = true := by
    rw [hasRequest_accepted binding, Bool.and_eq_true] at waits
    exact waits.1
  refine
    { symmetric := ?_
      irreflexive := ?_
      oneWay := ?_
      friendsBind := ?_
      requestsBind := fun a b waits => sound.requestsBind a b (left a b waits)
      asked := fun a b waits => (sound.asked a b (left a b waits)).snoc (keeps a b)
      consented := ?_ }
  · intro a b friends
    rw [hasFriend_accepted binding, Bool.or_eq_true] at friends ⊢
    rw [eitherWay_comm]
    exact friends.imp_left (sound.symmetric a b)
  · intro a
    rw [hasFriend_accepted binding, sound.irreflexive a, Bool.false_or, ← Bool.not_eq_true,
      eitherWay_iff]
    rintro (⟨rfl, same⟩ | ⟨rfl, same⟩)
    next => exact apart same.symm
    next => exact apart same
  · intro a b waits
    rw [hasRequest_accepted binding, sound.oneWay a b (left a b waits), Bool.false_and]
  · intro a b friends
    rcases befriended a b friends with old | ⟨rfl, rfl⟩ | ⟨rfl, rfl⟩
    next => exact sound.friendsBind a b old
    next => exact binding
    next => exact binds_comm ▸ binding
  · intro a b friends
    rcases befriended a b friends with old | ⟨rfl, rfl⟩ | ⟨rfl, rfl⟩
    next => exact (sound.consented a b old).snoc (keeps a b)
    next => exact .inr agreed
    next => exact .inl agreed

theorem Sound.part {calls : List Call} (sound : Sound calls db) (binding : binds user other = true) :
    Sound (calls ++ [.remove user other]) (remove user other db).2 := by
  have keeps (a b : UInt64) (stays : eitherWay user other (a, b) = false) :
      ¬(Call.remove user other).removes a b := by
    rw [← Bool.not_eq_true, eitherWay_iff] at stays
    rintro (same | same)
    next =>
      obtain ⟨rfl, rfl⟩ := Call.remove.inj same
      exact stays (.inl ⟨rfl, rfl⟩)
    next =>
      obtain ⟨rfl, rfl⟩ := Call.remove.inj same
      exact stays (.inr ⟨rfl, rfl⟩)
  have friendsLeft (a b : UInt64) (friends : (remove user other db).2.hasFriend a b = true) :
      db.hasFriend a b = true ∧ eitherWay user other (a, b) = false := by
    simpa [hasFriend_removed binding] using friends
  have requestsLeft (a b : UInt64) (waits : (remove user other db).2.hasRequest a b = true) :
      db.hasRequest a b = true ∧ eitherWay user other (a, b) = false := by
    simpa [hasRequest_removed binding] using waits
  refine
    { symmetric := ?_
      irreflexive := fun a => by rw [hasFriend_removed binding, sound.irreflexive a, Bool.false_and]
      oneWay := ?_
      friendsBind := fun a b friends => sound.friendsBind a b (friendsLeft a b friends).1
      requestsBind := fun a b waits => sound.requestsBind a b (requestsLeft a b waits).1
      asked := ?_
      consented := ?_ }
  · intro a b friends
    obtain ⟨old, stays⟩ := friendsLeft a b friends
    rw [hasFriend_removed binding, sound.symmetric a b old, eitherWay_comm, stays]
    rfl
  · intro a b waits
    rw [hasRequest_removed binding, sound.oneWay a b (requestsLeft a b waits).1, Bool.false_and]
  · intro a b waits
    obtain ⟨old, stays⟩ := requestsLeft a b waits
    exact (sound.asked a b old).snoc (keeps a b stays)
  · intro a b friends
    obtain ⟨old, stays⟩ := friendsLeft a b friends
    exact (sound.consented a b old).snoc (keeps a b stays)

theorem sound_step {calls : List Call} (sound : Sound calls db) (call : Call) :
    Sound (calls ++ [call]) (step db call) := by
  rcases step_cases db call with ⟨same, unbound⟩ | ⟨now, fromId, toId, rfl, apart, binding, silent, did⟩
    | ⟨now, user, other, answers, binding, present, did⟩ | ⟨user, other, rfl, binding, did⟩
  next =>
    rw [same]
    exact sound.idle unbound
  next =>
    rw [did]
    exact sound.ask apart binding silent
  next =>
    rw [did]
    exact sound.answer ⟨now, answers⟩ binding present
  next =>
    rw [did]
    exact sound.part binding

theorem sound_after (calls : List Call) : Sound calls (after calls) := by
  induction calls using List.reverseRecOn with
  | nil => exact sound_initialized
  | append_singleton calls call ih =>
    have next := sound_step ih call
    simpa [after] using next

/--
After any calls, friends are friends of each other and of nobody alone, requests
are pending in one direction at most, and every friendship was asked for and
answered since the pair was last removed.
-/
theorem friendship_consented (calls : List Call) :
    (∀ a b, (after calls).hasFriend a b = true → (after calls).hasFriend b a = true)
      ∧ (∀ a, (after calls).hasFriend a a = false)
      ∧ (∀ a b, ¬((after calls).hasRequest a b = true ∧ (after calls).hasRequest b a = true))
      ∧ (∀ a, (after calls).hasRequest a a = false)
      ∧ ∀ a b, (after calls).hasFriend a b = true → Consented calls a b := by
  have sound := sound_after calls
  refine ⟨sound.symmetric, sound.irreflexive, ?_, ?_, sound.consented⟩
  · rintro a b ⟨present, crossing⟩
    simp [sound.oneWay a b present] at crossing
  · intro a
    rw [← Bool.not_eq_true]
    intro present
    exact sound.apart_of_request present rfl

-- a request that crosses another one is an answer
example : (after [.request 0 1 2, .request 0 2 1]).hasFriend 1 2 = true := by decide

end Friends

end BitDemon
