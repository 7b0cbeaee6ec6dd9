import BitDemon.DwServer.Social.Friends

set_option autoImplicit false

/-!
# Calls whose statements fail

Each statement of a call may fail without effect. The calls run them outside of
a transaction and do not look at every result.
-/

namespace BitDemon

namespace Friends

open SocialDb

inductive Statement where
  | selectPending
  | insertRequest
  | deleteRequests
  -- for `(user, other)`, then for `(other, user)`
  | insertFriend
  | insertFriendBack
  | deleteFriends
  deriving DecidableEq

abbrev Failures := Statement → Bool

namespace Failures

def refuses (failures : Failures) (user other : UInt64) (statement : Statement) : Bool :=
  failures statement || !binds user other

def pending (failures : Failures) (db : SocialDb) (fromId toId : UInt64) : Bool :=
  !failures.refuses fromId toId .selectPending && db.hasRequest fromId toId

def acceptLocked (failures : Failures) (now : Int64) (user other : UInt64) (db : SocialDb) :
    Except String String × SocialDb :=
  let db := if failures.refuses user other .deleteRequests then db else db.deleteRequests user other
  if failures.refuses user other .insertFriend then
    (.error "could not record the friendship", db)
  else
    let db := db.insertFriend user other now
    if failures.refuses user other .insertFriendBack then
      (.error "could not record the friendship", db)
    else
      (.ok "friends", db.insertFriend other user now)

def request (failures : Failures) (now : Int64) (fromId toId : UInt64) (db : SocialDb) :
    Except String String × SocialDb :=
  if fromId = toId then
    (.error "cannot befriend yourself", db)
  else if failures.pending db toId fromId then
    failures.acceptLocked now fromId toId db
  else if failures.refuses fromId toId .insertRequest then
    (.error "could not record the request", db)
  else
    (.ok "requested", db.insertRequest fromId toId now)

def accept (failures : Failures) (now : Int64) (user fromId : UInt64) (db : SocialDb) :
    Except String String × SocialDb :=
  if failures.pending db fromId user then
    failures.acceptLocked now user fromId db
  else
    (.error "no such request", db)

def remove (failures : Failures) (user other : UInt64) (db : SocialDb) :
    Except String String × SocialDb :=
  let db := if failures.refuses user other .deleteFriends then db else db.deleteFriends user other
  let db := if failures.refuses user other .deleteRequests then db else db.deleteRequests user other
  (.ok "removed", db)

def perform (failures : Failures) (db : SocialDb) : Call → Except String String × SocialDb
  | .request now fromId toId => failures.request now fromId toId db
  | .accept now user fromId => failures.accept now user fromId db
  | .remove user other => failures.remove user other db

end Failures

def Call.pair : Call → UInt64 × UInt64
  | .request _ fromId toId => (fromId, toId)
  | .accept _ user fromId => (user, fromId)
  | .remove user other => (user, other)

structure AllOrNothing (call : Call) (before : SocialDb)
    (did : Except String String × SocialDb) : Prop where
  unchanged : ∀ message, did.1 = .error message →
    did.2.friend = before.friend ∧ did.2.friendRequest = before.friendRequest
  friends : did.1 = .ok "friends" → ∀ a b, eitherWay call.pair.1 call.pair.2 (a, b) = true →
    did.2.hasFriend a b = true ∧ did.2.hasRequest a b = false
  removed : did.1 = .ok "removed" → ∀ a b, eitherWay call.pair.1 call.pair.2 (a, b) = true →
    did.2.hasFriend a b = false ∧ did.2.hasRequest a b = false

namespace Failures

def finds (failures : Failures) (db : SocialDb) : Call → Bool
  | .request _ fromId toId => decide (fromId ≠ toId) && failures.pending db toId fromId
  | .accept _ user fromId => failures.pending db fromId user
  | .remove _ _ => false

def SparesAnswer (failures : Failures) (db : SocialDb) (user other : UInt64) : Prop :=
  if failures .deleteRequests then
    failures .insertFriend = true
      ∨ failures .insertFriendBack = true ∧ db.hasFriend user other = true
  else
    failures .insertFriend = false ∧ failures .insertFriendBack = false

def SparesRemoval (failures : Failures) (db : SocialDb) (user other : UInt64) : Prop :=
  (failures.refuses user other .deleteFriends = true → ∀ a b,
      eitherWay user other (a, b) = true → db.hasFriend a b = false)
    ∧ (failures.refuses user other .deleteRequests = true → ∀ a b,
      eitherWay user other (a, b) = true → db.hasRequest a b = false)

def Spares (failures : Failures) (db : SocialDb) (call : Call) : Prop :=
  (failures.finds db call = true → failures.SparesAnswer db call.pair.1 call.pair.2)
    ∧ ∀ user other, call = .remove user other → failures.SparesRemoval db user other

variable {failures : Failures} {db : SocialDb} {call : Call} {now : Int64} {user other a b : UInt64}

theorem refuses_of_binds (binding : binds user other = true) (statement : Statement) :
    failures.refuses user other statement = failures statement := by
  rw [refuses, binding]
  simp

theorem pending_iff : failures.pending db a b = true
    ↔ binds a b = true ∧ failures .selectPending = false ∧ db.hasRequest a b = true := by
  simp only [pending, refuses, Bool.and_eq_true, Bool.not_eq_true', Bool.or_eq_false_iff,
    Bool.not_eq_false']
  tauto

theorem hasFriend_insertFriend : (db.insertFriend user other now).hasFriend a b
    = (db.hasFriend a b || decide ((user, other) = (a, b))) := by
  simp only [hasFriend, insertFriend, Rows.has_insertOrIgnore, FriendRow.key]
  rfl

theorem hasFriend_deleteFriends : (db.deleteFriends user other).hasFriend a b
    = (db.hasFriend a b && !eitherWay user other (a, b)) := by
  simp only [hasFriend, deleteFriends, Rows.has_delete]

theorem hasRequest_deleteRequests : (db.deleteRequests user other).hasRequest a b
    = (db.hasRequest a b && !eitherWay user other (a, b)) := by
  simp only [hasRequest, deleteRequests, Rows.has_delete]

theorem hasFriend_deleteRequests :
    (db.deleteRequests user other).hasFriend a b = db.hasFriend a b := rfl

theorem hasRequest_deleteFriends :
    (db.deleteFriends user other).hasRequest a b = db.hasRequest a b := rfl

theorem pending_none : Failures.pending (fun _ => false) db a b = Friends.pending db a b := by
  simp [Failures.pending, Friends.pending, refuses]

theorem acceptLocked_none (binding : binds user other = true) :
    Failures.acceptLocked (fun _ => false) now user other db
      = Friends.acceptLocked now user other db := by
  simp [Failures.acceptLocked, Friends.acceptLocked, refuses, binding]

theorem binds_of_pending {fromId toId : UInt64} (waiting : Friends.pending db fromId toId = true) :
    binds toId fromId = true := by
  rw [Friends.pending, Bool.and_eq_true] at waiting
  exact binds_comm ▸ waiting.1

theorem perform_none (db : SocialDb) (call : Call) :
    Failures.perform (fun _ => false) db call = Friends.perform db call := by
  cases call with
  | request now fromId toId =>
    simp only [Failures.perform, Friends.perform, Failures.request, Friends.request, pending_none]
    split
    next => rfl
    next =>
      split
      next waiting => exact acceptLocked_none (binds_of_pending waiting)
      next => cases binding : binds fromId toId <;> simp [refuses, binding]
  | accept now user fromId =>
    simp only [Failures.perform, Friends.perform, Failures.accept, Friends.accept, pending_none]
    split
    next waiting => exact acceptLocked_none (binds_of_pending waiting)
    next => rfl
  | remove user other =>
    cases binding : binds user other <;>
      simp [Failures.perform, Friends.perform, Failures.remove, Friends.remove, refuses, binding]

theorem eitherWay_back : eitherWay user other (other, user) = true := by simp [eitherWay]

theorem friendRequest_changed (present : db.hasRequest other user = true) :
    (db.deleteRequests user other).friendRequest ≠ db.friendRequest := by
  intro same
  have gone : (db.deleteRequests user other).hasRequest other user = false := by
    rw [hasRequest_deleteRequests, eitherWay_back]
    simp
  rw [hasRequest, same] at gone
  rw [hasRequest, gone] at present
  cases present

theorem friend_unchanged_iff :
    (db.insertFriend user other now).friend = db.friend ↔ db.hasFriend user other = true := by
  constructor
  · intro same
    have there : (db.insertFriend user other now).hasFriend user other = true := by
      rw [hasFriend_insertFriend]
      simp
    rwa [hasFriend, same] at there
  · intro present
    exact if_pos present

theorem hasFriend_both (pair : eitherWay user other (a, b) = true) :
    ((db.insertFriend user other now).insertFriend other user now).hasFriend a b = true := by
  rw [hasFriend_insertFriend, hasFriend_insertFriend]
  rcases eitherWay_iff.mp pair with ⟨rfl, rfl⟩ | ⟨rfl, rfl⟩ <;> simp

theorem allOrNothing_error {message : String} {left : SocialDb} :
    AllOrNothing call db (.error message, left)
      ↔ left.friend = db.friend ∧ left.friendRequest = db.friendRequest := by
  constructor
  · intro all
    exact all.unchanged message rfl
  · intro same
    exact ⟨fun _ _ => same, nofun, nofun⟩

theorem acceptLocked_allOrNothing (pair : call.pair = (user, other))
    (binding : binds user other = true) (present : db.hasRequest other user = true) :
    AllOrNothing call db (failures.acceptLocked now user other db)
      ↔ failures.SparesAnswer db user other := by
  have changed := friendRequest_changed present
  simp only [acceptLocked, refuses_of_binds binding, SparesAnswer]
  cases deleting : failures .deleteRequests with
  | true =>
    cases inserting : failures .insertFriend with
    | true => simp [allOrNothing_error]
    | false =>
      cases back : failures .insertFriendBack with
      | true =>
        simp only [if_true, Bool.false_eq_true, if_false, allOrNothing_error, false_or, true_and]
        rw [friend_unchanged_iff]
        exact and_iff_left rfl
      | false =>
        simp only [if_true, Bool.false_eq_true, if_false, false_or, false_and, iff_false]
        intro all
        have gone := (all.friends rfl other user (by rw [pair]; exact eitherWay_back)).2
        exact Bool.noConfusion (present.symm.trans gone)
  | false =>
    cases inserting : failures .insertFriend with
    | true => simp [allOrNothing_error, changed]
    | false =>
      cases back : failures .insertFriendBack with
      | true =>
        simp only [if_true, Bool.false_eq_true, if_false, allOrNothing_error]
        simp only [Bool.true_eq_false, and_false, iff_false, not_and]
        exact fun _ => changed
      | false =>
        simp only [Bool.false_eq_true, if_false, and_self, iff_true]
        refine ⟨nofun, fun _ a b between => ?_, by simp⟩
        rw [pair] at between
        refine ⟨hasFriend_both between, ?_⟩
        have gone := @hasRequest_deleteRequests db user other a b
        rw [between, Bool.not_true, Bool.and_false] at gone
        exact gone

theorem allOrNothing_requested {left : SocialDb} :
    AllOrNothing call db (.ok "requested", left) :=
  ⟨nofun, by simp, by simp⟩

theorem request_allOrNothing {fromId toId : UInt64} :
    AllOrNothing (.request now fromId toId) db (failures.request now fromId toId db)
      ↔ (failures.finds db (.request now fromId toId) = true →
        failures.SparesAnswer db fromId toId) := by
  rw [request, finds]
  split
  next self => simp [allOrNothing_error, self]
  next apart =>
    split
    next waiting =>
      obtain ⟨binding, _, present⟩ := pending_iff.mp waiting
      rw [acceptLocked_allOrNothing rfl (binds_comm ▸ binding) present]
      simp [apart, waiting]
    next silent =>
      have quiet : AllOrNothing (.request now fromId toId) db
          (if failures.refuses fromId toId .insertRequest then
            (.error "could not record the request", db)
          else (.ok "requested", db.insertRequest fromId toId now)) := by
        split
        next => exact allOrNothing_error.mpr ⟨rfl, rfl⟩
        next => exact allOrNothing_requested
      simp [silent, quiet]

theorem accept_allOrNothing {fromId : UInt64} :
    AllOrNothing (.accept now user fromId) db (failures.accept now user fromId db)
      ↔ (failures.finds db (.accept now user fromId) = true →
        failures.SparesAnswer db user fromId) := by
  rw [accept, finds]
  split
  next waiting =>
    obtain ⟨binding, _, present⟩ := pending_iff.mp waiting
    rw [acceptLocked_allOrNothing rfl (binds_comm ▸ binding) present]
    simp [waiting]
  next silent => simp [allOrNothing_error, silent]

theorem hasFriend_remove (between : eitherWay user other (a, b) = true) :
    (failures.remove user other db).2.hasFriend a b
      = (failures.refuses user other .deleteFriends && db.hasFriend a b) := by
  rw [remove]
  cases failures.refuses user other .deleteFriends <;>
    cases failures.refuses user other .deleteRequests <;>
    simp [hasFriend_deleteFriends, hasFriend_deleteRequests, between]

theorem hasRequest_remove (between : eitherWay user other (a, b) = true) :
    (failures.remove user other db).2.hasRequest a b
      = (failures.refuses user other .deleteRequests && db.hasRequest a b) := by
  rw [remove]
  cases failures.refuses user other .deleteFriends <;>
    cases failures.refuses user other .deleteRequests <;>
    simp [hasRequest_deleteFriends, hasRequest_deleteRequests, between]

theorem remove_allOrNothing :
    AllOrNothing (.remove user other) db (failures.remove user other db)
      ↔ failures.SparesRemoval db user other := by
  constructor
  · intro all
    constructor
    · intro refused a b between
      have left := (all.removed rfl a b between).1
      rwa [hasFriend_remove between, refused, Bool.true_and] at left
    · intro refused a b between
      have left := (all.removed rfl a b between).2
      rwa [hasRequest_remove between, refused, Bool.true_and] at left
  · rintro ⟨noFriends, noRequests⟩
    refine ⟨nofun, by simp [remove], fun _ a b between => ?_⟩
    dsimp only [Call.pair] at between
    rw [hasFriend_remove between, hasRequest_remove between, Bool.and_eq_false_imp,
      Bool.and_eq_false_imp]
    exact ⟨fun refused => noFriends refused a b between, fun refused => noRequests refused a b between⟩

/--
A call does all it says or nothing, whatever statements of it fail, exactly if
the answer to a request has all of its three or leaves no trace of those it
has, and a removal had no rows to delete by those that fail.
-/
theorem all_or_nothing_iff (failures : Failures) (db : SocialDb) (call : Call) :
    AllOrNothing call db (failures.perform db call) ↔ failures.Spares db call := by
  cases call with
  | request now fromId toId =>
    rw [perform, request_allOrNothing, Spares]
    simp [Call.pair]
  | accept now user fromId =>
    rw [perform, accept_allOrNothing, Spares]
    simp [Call.pair]
  | remove user other =>
    rw [perform, remove_allOrNothing, Spares]
    simp [finds]

theorem answer_half_done :
    ¬AllOrNothing (.accept 0 2 1) (after [.request 0 1 2])
      (Failures.perform (fun statement => decide (statement = .insertFriend))
        (after [.request 0 1 2]) (.accept 0 2 1)) := by
  intro all
  have same := (all.unchanged "could not record the friendship" (by decide)).2
  exact absurd same (by decide)

end Failures

end Friends

end BitDemon
