import BitDemon.DwServer.Social.Revisions

set_option autoImplicit false

/-!
# The roster

What `list` answers with: the friends followed by those who are asked to become
friends, and apart from them those who ask.
-/

namespace BitDemon

namespace Social

structure Roster where
  friends : List Friendship
  incoming : List Friendship
  deriving DecidableEq

def roster (db : SocialDb) (user : UInt64) : Roster where
  friends := Friends.list db user ++ Friends.outgoingRequests db user
  incoming := Friends.incomingRequests db user

end Social

namespace Friends

open SocialDb Social

variable {db : SocialDb} {call : Call} {user other a b : UInt64}

-- the two tables have no pair in common
def Apart (db : SocialDb) : Prop :=
  ∀ a b, db.hasFriend a b = true → db.hasRequest a b = false ∧ db.hasRequest b a = false

structure NothingPending (db : SocialDb) : Prop where
  apart : Apart db
  once : ∀ user, (ids (roster db user).friends).Nodup
  answered : ∀ user, ∀ friend ∈ list db user, friend.userId ∉ ids (roster db user).incoming

-- someone who is a friend already is not asked again
def AsksNoFriend (db : SocialDb) (call : Call) : Prop :=
  ∀ a b, call.asks a b → db.hasFriend a b = false

theorem ids_list (db : SocialDb) (user : UInt64) :
    (ids (list db user)).Perm ((db.friendsOf user).map FriendRow.friendId) := by
  simp only [ids, list, List.map_map]
  exact ((Rows.perm_inOrder _ _).trans (Rows.perm_inOrder _ _)).map _

theorem ids_outgoingRequests (db : SocialDb) (user : UInt64) :
    (ids (outgoingRequests db user)).Perm ((db.requestsFrom user).map FriendRequestRow.toId) := by
  simp only [ids, outgoingRequests, List.map_map]
  exact ((Rows.perm_inOrder _ _).trans (Rows.perm_inOrder _ _)).map _

theorem ids_incomingRequests (db : SocialDb) (user : UInt64) :
    (ids (incomingRequests db user)).Perm ((db.requestsTo user).map FriendRequestRow.fromId) := by
  simp only [ids, incomingRequests, List.map_map]
  exact (Rows.perm_inOrder _ _).map _

theorem mem_list : other ∈ ids (list db user) ↔ db.hasFriend user other = true := by
  rw [(ids_list db user).mem_iff, hasFriend, Rows.has_iff, List.mem_map]
  simp [friendsOf, FriendRow.key, and_assoc]

theorem mem_outgoingRequests :
    other ∈ ids (outgoingRequests db user) ↔ db.hasRequest user other = true := by
  rw [(ids_outgoingRequests db user).mem_iff, hasRequest, Rows.has_iff, List.mem_map]
  simp [requestsFrom, FriendRequestRow.key, and_assoc]

theorem mem_incomingRequests :
    other ∈ ids (incomingRequests db user) ↔ db.hasRequest other user = true := by
  rw [(ids_incomingRequests db user).mem_iff, hasRequest, Rows.has_iff, List.mem_map]
  simp [requestsTo, FriendRequestRow.key, and_assoc, and_comm]

structure Keyed (db : SocialDb) : Prop where
  friend : Rows.Distinct FriendRow.key db.friend
  friendRequest : Rows.Distinct FriendRequestRow.key db.friendRequest

theorem keyed_initialized : Keyed initialized := ⟨List.nodup_nil, List.nodup_nil⟩

theorem keyed_step (keyed : Keyed db) (call : Call) : Keyed (step db call) := by
  rcases step_cases db call with ⟨same, _⟩ | ⟨now, fromId, toId, _, _, _, _, did⟩
    | ⟨now, user, other, _, binding, _, did⟩ | ⟨user, other, _, binding, did⟩
  next => rwa [same]
  next =>
    rw [did]
    exact ⟨keyed.friend, Rows.distinct_insertOrIgnore keyed.friendRequest _⟩
  next =>
    rw [did, acceptLocked, if_pos binding]
    refine ⟨?_, Rows.distinct_delete keyed.friendRequest _⟩
    exact Rows.distinct_insertOrIgnore (Rows.distinct_insertOrIgnore keyed.friend _) _
  next =>
    rw [did, remove, if_pos binding]
    exact ⟨Rows.distinct_delete keyed.friend _, Rows.distinct_delete keyed.friendRequest _⟩

theorem Keyed.list_nodup (keyed : Keyed db) (user : UInt64) : (ids (list db user)).Nodup := by
  rw [(ids_list db user).nodup_iff]
  refine keyed.friend.nodup_part _ FriendRow.friendId fun row old here there same => ?_
  rw [FriendRow.key, FriendRow.key, of_decide_eq_true here, of_decide_eq_true there, same]

theorem Keyed.outgoingRequests_nodup (keyed : Keyed db) (user : UInt64) :
    (ids (outgoingRequests db user)).Nodup := by
  rw [(ids_outgoingRequests db user).nodup_iff]
  refine keyed.friendRequest.nodup_part _ FriendRequestRow.toId fun row old here there same => ?_
  rw [FriendRequestRow.key, FriendRequestRow.key, of_decide_eq_true here, of_decide_eq_true there,
    same]

theorem nothingPending_of_apart (keyed : Keyed db) (apart : Apart db) : NothingPending db where
  apart := apart
  once user := by
    rw [roster, ids, List.map_append, List.nodup_append]
    refine ⟨keyed.list_nodup user, keyed.outgoingRequests_nodup user, ?_⟩
    rintro friend listed _ asked rfl
    simpa [mem_outgoingRequests.mp asked] using (apart user friend (mem_list.mp listed)).1
  answered user friend listed asked := by
    have member : friend.userId ∈ ids (list db user) := List.mem_map_of_mem listed
    simpa [mem_incomingRequests.mp asked] using (apart user friend.userId (mem_list.mp member)).2

theorem apart_step {calls : List Call} (sound : Sound calls db) (apart : Apart db)
    (fresh : AsksNoFriend db call) : Apart (step db call) := by
  intro a b friends
  rcases step_cases db call with ⟨same, _⟩ | ⟨now, fromId, toId, rfl, _, _, _, did⟩
    | ⟨now, user, other, _, binding, _, did⟩ | ⟨user, other, _, binding, did⟩
  next =>
    rw [same] at friends ⊢
    exact apart a b friends
  next =>
    rw [did] at friends ⊢
    have old : db.hasFriend a b = true := friends
    have unknown := fresh fromId toId ⟨now, rfl⟩
    rw [hasRequest_insertRequest, hasRequest_insertRequest, (apart a b old).1, (apart a b old).2,
      Bool.false_or, Bool.false_or, decide_eq_false_iff_not, decide_eq_false_iff_not]
    constructor
    · rintro ⟨⟩
      rw [unknown] at old
      cases old
    · rintro ⟨⟩
      rw [sound.symmetric _ _ old] at unknown
      cases unknown
  next =>
    rw [did, hasFriend_accepted binding, Bool.or_eq_true] at friends
    rw [did, hasRequest_accepted binding, hasRequest_accepted binding,
      @eitherWay_comm user other b a]
    rcases friends with old | answered
    next => simp [apart a b old]
    next => simp [answered]
  next =>
    rw [did, hasFriend_removed binding, Bool.and_eq_true] at friends
    rw [did, hasRequest_removed binding, hasRequest_removed binding]
    simp [apart a b friends.1]

theorem step_of_friend {calls : List Call} {now : Int64} (sound : Sound calls db) (apart : Apart db)
    (friends : db.hasFriend a b = true) :
    step db (.request now a b) = db.insertRequest a b now := by
  have others : a ≠ b := by
    rintro rfl
    simp [sound.irreflexive a] at friends
  have silent : pending db b a = false := by simp [pending, (apart a b friends).2]
  rw [step, perform, request, if_neg others, silent, if_pos (sound.friendsBind a b friends)]
  rfl

theorem fresh_of_apart {calls : List Call} (sound : Sound calls db) (apart : Apart db)
    (still : Apart (step db call)) : AsksNoFriend db call := by
  rintro a b ⟨now, rfl⟩
  rw [← Bool.not_eq_true]
  intro friends
  rw [step_of_friend sound apart friends] at still
  have silent := (still a b friends).1
  simp [hasRequest_insertRequest] at silent

/--
Of friends nothing is pending, after any calls, as long as nobody asks for a
friendship there is: `request` looks at the requests only.
-/
theorem nothing_pending_iff (calls : List Call) :
    Runs.Always step NothingPending initialized calls
      ↔ Runs.Meets step AsksNoFriend initialized calls := by
  refine @Runs.always_iff_meets _ _ step (fun db => (∃ calls, Sound calls db) ∧ Keyed db)
    NothingPending AsksNoFriend ?_ ?_ _ _ ⟨⟨[], sound_initialized⟩, keyed_initialized⟩ ?_
  · rintro db call ⟨⟨calls, sound⟩, keyed⟩ _ _
    exact ⟨⟨_, sound_step sound call⟩, keyed_step keyed call⟩
  · rintro db call ⟨⟨calls, sound⟩, keyed⟩ nothing
    constructor
    · intro still
      exact fresh_of_apart sound nothing.apart still.apart
    · intro fresh
      exact nothingPending_of_apart (keyed_step keyed call) (apart_step sound nothing.apart fresh)
  · exact nothingPending_of_apart keyed_initialized fun a b friends => by cases friends

theorem asks_a_friend :
    ¬Runs.Always step NothingPending initialized
      [.request 0 1 2, .accept 0 2 1, .request 0 1 2] := by
  rw [Runs.always_iff_prefixes]
  intro always
  have last := always [.request 0 1 2, .accept 0 2 1, .request 0 1 2] [] rfl
  have twice : ids (roster (after [.request 0 1 2, .accept 0 2 1, .request 0 1 2]) 1).friends
      = [2, 2] := by decide
  have once := last.once 1
  rw [twice] at once
  exact absurd once (by decide)

end Friends

end BitDemon
