import BitDemon.DwServer.Social.Sessions

set_option autoImplicit false

/-!
# Following a friend

Who follows a friend is told the session that the friend published last. The
friendship, the presence and the session are looked up one after the other, while
other requests go on.
-/

namespace BitDemon

open Social Routes SocialDb

namespace Routes

structure Person where
  xuid : String
  isFavorite : Bool
  isFollowingCaller : Bool
  socialNetworks : List String
  deriving DecidableEq

def people (db : SocialDb) (user : String) : Option (List Person) :=
  (parseXuid user).map fun userId => (Friends.list db userId).map fun f =>
    { xuid := toString f.userId, isFavorite := false, isFollowingCaller := f.isMutual
      socialNetworks := [] }

structure Answer where
  status : Nat
  result : String
  connection : Option String
  deriving DecidableEq

def refused : NoOne → Answer
  | .missing => ⟨400, "the request names nobody", none⟩
  | .notAnId what => ⟨400, "\"" ++ what ++ "\" is not a player id", none⟩
  | .ambiguous who howMany =>
    ⟨409, toString howMany ++ " players answer to \"" ++ who ++ "\"; search and pick one", none⟩
  | .unknown => ⟨404, "unknown player; they must have signed in at least once", none⟩

def joinRefused (status : Nat) (why : String) : Answer := ⟨status, why, none⟩

-- the four looks of `join`, in their order
structure Looks where
  named : SocialDb
  listed : SocialDb
  watched : World
  active : SocialDb

def Looks.at (w : World) : Looks := { named := w.db, listed := w.db, watched := w, active := w.db }

def follow (looks : Looks) (user other : UInt64) : Answer :=
  if (Friends.list looks.listed user).any fun f => f.userId == other && f.isMutual then
    if looks.watched.isOnline other then
      match looks.active.activityOf other with
      | some connection =>
        if Usable connection then ⟨200, "joining", some connection⟩
        else joinRefused 404 "they are not in a game"
      | none => joinRefused 404 "they are not in a game"
    else
      joinRefused 404 "they are offline"
  else
    joinRefused 403 "you are not friends"

def join (looks : Looks) (body : FriendAction) : Answer :=
  match caller looks.named body.user with
  | .one user =>
    match target looks.named body .id with
    | .ok other => follow looks user other
    | .error why => refused why
  | .many ids => refused (.ambiguous body.user ids.length)
  | .nobody => refused .unknown

-- a user follows a friend whose id he was shown
def byIds (user other : UInt64) : FriendAction :=
  { user := toString user, id := some (toString other), other := none }

variable {looks : Looks} {body : FriendAction} {user other : UInt64} {connection : String}

theorem join_byIds (looks : Looks) (user other : UInt64) :
    join looks (byIds user other) = follow looks user other := by
  simp [join, byIds, caller, target, byId, parseId_toString]

theorem mem_friends {db : SocialDb} {f : Friendship} (member : f ∈ Friends.list db user) :
    db.hasFriend user f.userId = true ∧ f.isMutual = db.hasFriend f.userId user := by
  refine ⟨mem_ids_list.mp (List.mem_map_of_mem member), ?_⟩
  obtain ⟨row, mine, rfl⟩ := List.mem_map.mp member
  have own : row.userId = user := by
    simpa using (List.mem_filter.mp (Rows.mem_inOrder.mp (Rows.mem_inOrder.mp mine))).2
  rw [own]

theorem isMutual_list (db : SocialDb) (user other : UInt64) :
    ((Friends.list db user).any fun f => f.userId == other && f.isMutual)
      = (db.hasFriend user other && db.hasFriend other user) := by
  rw [Bool.eq_iff_iff, Bool.and_eq_true, ← mem_ids_list, List.any_eq_true]
  constructor
  · rintro ⟨f, member, shown⟩
    obtain ⟨rfl, returned⟩ : f.userId = other ∧ f.isMutual = true := by simpa using shown
    exact ⟨List.mem_map_of_mem member, (mem_friends member).2.symm.trans returned⟩
  · rintro ⟨listed, back⟩
    obtain ⟨f, member, rfl⟩ := List.mem_map.mp listed
    exact ⟨f, member, by simpa [(mem_friends member).2] using back⟩

theorem follow_iff :
    follow looks user other = ⟨200, "joining", some connection⟩
      ↔ (looks.listed.hasFriend user other = true ∧ looks.listed.hasFriend other user = true)
        ∧ looks.watched.isOnline other = true
        ∧ looks.active.activityOf other = some connection ∧ Usable connection := by
  rw [follow, isMutual_list]
  constructor
  · intro joins
    split at joins
    next friends =>
      split at joins
      next online =>
        split at joins
        next active =>
          split at joins
          next usable =>
            obtain rfl : _ = connection := by simpa using joins
            exact ⟨by simpa using friends, online, active, usable⟩
          next => simp [joinRefused] at joins
        next => simp [joinRefused] at joins
      next => simp [joinRefused] at joins
    next => simp [joinRefused] at joins
  · rintro ⟨friends, online, active, usable⟩
    simp [friends, online, active, usable]

end Routes

namespace Site

variable {epoch : UInt64} {s : Site} {events : List Event} {event : Event} {user other : UInt64}
  {connection : String}

def stepStatements (s : Site) : Event → List Statement
  | .advance id => (s.server.tasks.get id).elim [] Task.statements
  | _ => []

def statements (epoch : UInt64) : Site → List Event → List Statement
  | _, [] => []
  | s, event :: events => s.stepStatements event ++ statements epoch (step epoch s event) events

theorem db_step (epoch : UInt64) (s : Site) (event : Event) :
    (step epoch s event).server.world.db
      = Runs.run execute s.server.world.db (s.stepStatements event) := by
  have free {id : Nat} (idle : s.server.tasks.get id = none) :
      s.stepStatements (.advance id) = [] := by
    rw [stepStatements, idle]
    rfl
  have moves := moves_step epoch s event
  generalize step epoch s event = s' at moves ⊢
  cases moves with
  | idle event still =>
    cases event with
    | advance id =>
      rw [free (still id rfl).1]
      rfl
    | _ => rfl
  | arrives id request fresh none_pending => rfl
  | elapses time => rfl
  | operates id task running => exact Server.db_step s.server (.advance id)
  | begins id op rest idle next =>
    rw [free idle]
    exact @Server.db_step epoch s.server (.start id op)
  | _ => rw [free ‹_›]; rfl

theorem db_run (epoch : UInt64) (s : Site) (events : List Event) :
    (Runs.run (step epoch) s events).server.world.db
      = Runs.run execute s.server.world.db (statements epoch s events) := by
  induction events generalizing s with
  | nil => rfl
  | cons event events ih => rw [Runs.run_cons, ih, statements, Runs.run_append, db_step]

theorem db_after (epoch : UInt64) (events : List Event) :
    (after epoch events).server.world.db = executed (statements epoch initialized events) :=
  db_run epoch initialized events

def SeenSince (epoch : UInt64) (events : List Event) (user : UInt64) (instant : Nat) : Prop :=
  ∃ first id rest, events = first ++ .advance id :: rest
    ∧ (after epoch first).server.tasks.get id = some (.begin (.touch user))
    ∧ (after epoch first).server.world.clock = instant

theorem SeenSince.snoc {instant : Nat} (seen : SeenSince epoch events user instant) (event : Event) :
    SeenSince epoch (events ++ [event]) user instant := by
  obtain ⟨first, id, rest, rfl, touches, clock⟩ := seen
  exact ⟨first, id, rest ++ [event], by simp, touches, clock⟩

theorem get_of_foldl_remove {κ ν : Type} [DecidableEq κ] {keys : List κ} {key : κ} {v : ν}
    {table : Table κ ν} (found : (keys.foldl Table.remove table).get key = some v) :
    table.get key = some v := by
  induction keys generalizing table with
  | nil => exact found
  | cons first keys ih =>
    have kept := ih found
    rw [Table.get_remove] at kept
    split at kept
    next => cases kept
    next => exact kept

theorem seen_next {w w' : World} {task : Task} {left : Option Task} {instant : Nat}
    (went : next epoch w task = some (w', left)) (seen : w'.seen.get user = some instant) :
    w.seen.get user = some instant ∨ task = .begin (.touch user) ∧ w.clock = instant := by
  cases task with
  | begin op =>
    cases op with
    | touch userId =>
      obtain ⟨rfl, -⟩ := Prod.mk.inj (Option.some.inj went)
      rw [Table.get_put] at seen
      split at seen
      next same => exact .inr ⟨by rw [same], Option.some.inj seen⟩
      next => exact .inl seen
    | sweep =>
      obtain ⟨rfl, -⟩ := Prod.mk.inj (Option.some.inj went)
      exact .inl (get_of_foldl_remove seen)
    | act call =>
      rw [next] at went
      split at went
      all_goals
        obtain ⟨rfl, -⟩ := Prod.mk.inj (Option.some.inj went)
        exact .inl seen
    | _ =>
      obtain ⟨rfl, -⟩ := Prod.mk.inj (Option.some.inj went)
      exact .inl seen
  | bumpWatchers users =>
    cases users with
    | _ =>
      obtain ⟨rfl, -⟩ := Prod.mk.inj (Option.some.inj went)
      exact .inl seen
  | bump users rest =>
    obtain ⟨revisions, counted, made⟩ := Option.map_eq_some_iff.mp went
    obtain ⟨rfl, -⟩ := Prod.mk.inj made
    exact .inl seen
  | _ =>
    obtain ⟨rfl, -⟩ := Prod.mk.inj (Option.some.inj went)
    exact .inl seen

theorem seen_step {instant : Nat} (seen : (step epoch s event).server.world.seen.get user = some instant) :
    s.server.world.seen.get user = some instant
      ∨ ∃ id, event = .advance id ∧ s.server.tasks.get id = some (.begin (.touch user))
        ∧ s.server.world.clock = instant := by
  have moves := moves_step epoch s event
  generalize step epoch s event = s' at moves seen
  cases moves with
  | operates id task running =>
    rcases Server.step_cases epoch s.server (.advance id) with same | ⟨other, op, fresh, did⟩
      | ⟨time, did⟩ | ⟨id', task', world, left, own, running', went, did⟩
    next => rw [same] at seen; exact .inl seen
    next => rw [did] at seen; exact .inl seen
    next => rw [did] at seen; exact .inl seen
    next =>
      rw [did] at seen
      obtain rfl := Action.advance.inj own
      rcases seen_next went seen with old | ⟨touches, clock⟩
      next => exact .inl old
      next => exact .inr ⟨id, rfl, touches ▸ running', clock⟩
  | begins id op rest idle next =>
    have same : (s.server.step epoch (.start id op)).world = s.server.world := by
      rw [Server.step]
      split <;> rfl
    have kept : (s.server.step epoch (.start id op)).world.seen.get user = some instant := seen
    rw [same] at kept
    exact .inl kept
  | _ => exact .inl seen

theorem seen_after {instant : Nat} (seen : (after epoch events).server.world.seen.get user = some instant) :
    SeenSince epoch events user instant := by
  induction events using List.reverseRecOn with
  | nil => cases seen
  | append_singleton events event ih =>
    rw [after, Runs.run_append, Runs.run_cons, Runs.run_nil] at seen
    rcases seen_step seen with old | ⟨id, rfl, touches, clock⟩
    next => exact (ih old).snoc event
    next => exact ⟨events, id, [], rfl, touches, clock⟩

def PublishedLast (statements : List Statement) (user : UInt64) (connection : String) : Prop :=
  ∃ first now rest, statements = first ++ .recordActivity now user connection :: rest
    ∧ ∀ later ∈ rest, later ≠ .deleteActivity user
      ∧ ∀ now' connection', later ≠ .recordActivity now' user connection'

theorem publishedLast {statements : List Statement}
    (active : (executed statements).activityOf user = some connection) :
    PublishedLast statements user connection := by
  rw [activityOf_executed, History.latest_eq_split] at active
  obtain ⟨first, statement, rest, rfl, writes, spared⟩ := active
  cases statement with
  | recordActivity now userId written =>
    rw [activityEffect] at writes
    split at writes
    next both =>
      obtain ⟨binding, rfl⟩ := both
      cases writes
      refine ⟨first, now, rest, rfl, fun later member => ?_⟩
      have spares := spared later member
      constructor
      · rintro rfl
        simp [activityEffect, History.Effect.spares] at spares
      · rintro now' connection' rfl
        simp [activityEffect, History.Effect.spares, binding] at spares
    next => cases writes
  | deleteActivity userId =>
    rw [activityEffect] at writes
    split at writes <;> cases writes
  | _ => cases writes

/--
However the requests overlap: a path shows the friends of its user, every one by
consent of both and every one as a friend of the user in turn.
-/
theorem people_consent (epoch : UInt64) (events : List Event) (path : String) (persons : List Person)
    (shown : people (after epoch events).server.world.db path = some persons) :
    ∃ user, parseXuid path = some user
      ∧ ∀ person ∈ persons, person.isFollowingCaller = true ∧ ∃ other, parseXuid person.xuid = some other
        ∧ Friends.Consented (Social.calls (statements epoch initialized events)) user other := by
  obtain ⟨user, named, rfl⟩ := Option.map_eq_some_iff.mp shown
  refine ⟨user, named, fun person listed => ?_⟩
  obtain ⟨f, member, rfl⟩ := List.mem_map.mp listed
  obtain ⟨there, back⟩ := mem_friends member
  rw [db_after] at there back
  have sound := sound_executed (statements epoch initialized events)
  exact ⟨back.trans (sound.symmetric _ _ there), f.userId, parseXuid_plain f.userId,
    sound.consented _ _ there⟩

/-- A friend is shown as one to be joined exactly if a user who follows him is let in. -/
theorem joinable_iff_joins (epoch : UInt64) (events : List Event) (user other : UInt64) :
    (∃ entry ∈ (view (after epoch events).server.world user).friends,
        entry.id = other ∧ entry.joinable = true)
      ↔ ∃ connection, join (.at (after epoch events).server.world) (byIds user other)
        = ⟨200, "joining", some connection⟩ := by
  have usable {connection : String}
      (active : (after epoch events).server.world.db.activityOf other = some connection) :
      Usable connection := by
    obtain ⟨_, _, _, _, _, _, _, usable⟩ :=
      (genuine_after epoch events).server.activity other connection active
    exact usable
  generalize (after epoch events).server.world = w at usable
  simp only [join_byIds, follow_iff, Looks.at]
  constructor
  · rintro ⟨entry, listed, rfl, joinable⟩
    rcases List.mem_append.mp listed with friend | asked
    next =>
      obtain ⟨f, member, rfl⟩ := List.mem_map.mp friend
      obtain ⟨⟨returned, online⟩, active⟩ :
          (f.isMutual = true ∧ w.isOnline f.userId = true)
            ∧ (w.db.activityOf f.userId).isSome = true := by
        simpa [presence] using joinable
      obtain ⟨connection, published⟩ := Option.isSome_iff_exists.mp active
      refine ⟨connection, ?_, online, published, usable published⟩
      have listed : ((Friends.list w.db user).any fun g => g.userId == f.userId && g.isMutual) = true :=
        List.any_eq_true.mpr ⟨f, member, by simp [returned]⟩
      rw [isMutual_list, Bool.and_eq_true] at listed
      exact listed
    next =>
      obtain ⟨f, member, rfl⟩ := List.mem_map.mp asked
      obtain ⟨row, _, rfl⟩ := List.mem_map.mp member
      simp [presence] at joinable
  · rintro ⟨connection, ⟨there, back⟩, online, published, _⟩
    have listed : ((Friends.list w.db user).any fun f => f.userId == other && f.isMutual) = true := by
      rw [isMutual_list]
      simp [there, back]
    obtain ⟨f, member, shown⟩ := List.any_eq_true.mp listed
    obtain ⟨rfl, returned⟩ : f.userId = other ∧ f.isMutual = true := by simpa using shown
    refine ⟨presence w f, List.mem_append_left _ (List.mem_map_of_mem member), rfl, ?_⟩
    simp [presence, returned, online, published]

structure LetIn (epoch : UInt64) (first second third fourth : List Event) (user other : UInt64)
    (connection : String) : Prop where
  -- each of the two asked or answered the other, and nobody removed the other since
  consented : Friends.Consented (Social.calls (statements epoch initialized (first ++ second))) user other
  seen : ∃ instant, SeenSince epoch (first ++ second ++ third) other instant
    ∧ (after epoch (first ++ second ++ third)).server.world.clock - instant < Watch.onlineFor
  published : PublishedLast (statements epoch initialized (first ++ second ++ third ++ fourth)) other
    connection
  usable : Usable connection

/--
Whatever goes on between the looks of a handler: who is let in follows a friend
by consent of both, who was seen within the last moments, into the session that
was published last for him.
-/
theorem let_in (epoch : UInt64) (first second third fourth : List Event) (body : FriendAction)
    (connection : String)
    (joins : join { named := (after epoch first).server.world.db
                    listed := (after epoch (first ++ second)).server.world.db
                    watched := (after epoch (first ++ second ++ third)).server.world
                    active := (after epoch (first ++ second ++ third ++ fourth)).server.world.db } body
      = ⟨200, "joining", some connection⟩) :
    ∃ user other, caller (after epoch first).server.world.db body.user = .one user
      ∧ target (after epoch first).server.world.db body .id = .ok other
      ∧ LetIn epoch first second third fourth user other connection := by
  rw [join] at joins
  split at joins
  next user named =>
    split at joins
    next other found =>
      obtain ⟨⟨friend, _⟩, online, active, usable⟩ := follow_iff.mp joins
      refine ⟨user, other, named, found, ?_, ?_, ?_, usable⟩
      · dsimp only at friend
        rw [db_after] at friend
        exact (sound_executed _).consented user other friend
      · obtain ⟨instant, seen, recent⟩ := (Option.any_eq_true _ _).mp online
        refine ⟨instant, seen_after seen, ?_⟩
        simpa [expired] using recent
      · dsimp only at active
        rw [db_after] at active
        exact publishedLast active
    next why _ => cases why <;> simp [refused] at joins
  next => simp [refused] at joins
  next => simp [refused] at joins

-- two players become friends, and one of them publishes a session
def befriended : List Event :=
  [.arrive 0 (.act .request 0 ⟨"1", some "2", none⟩), .advance 0, .advance 0, .advance 0, .advance 0,
    .arrive 1 (.act .accept 0 ⟨"2", some "1", none⟩), .advance 1, .advance 1, .advance 1, .advance 1,
    .arrive 2 (.page .list "2"), .advance 2, .advance 2, .advance 2,
    .arrive 3 (.setActivity 0 "xuid(2)" "\"connectionString\":\"lobby\""), .advance 3, .advance 3,
    .advance 3]

theorem let_in_befriended :
    ∃ user other, caller (after 0 (befriended.take 5)).server.world.db "1" = .one user
      ∧ target (after 0 (befriended.take 5)).server.world.db (byIds 1 2) .id = .ok other
      ∧ LetIn 0 (befriended.take 5) ((befriended.drop 5).take 5) ((befriended.drop 10).take 4)
        (befriended.drop 14) user other "lobby" :=
  let_in 0 (befriended.take 5) ((befriended.drop 5).take 5) ((befriended.drop 10).take 4)
    (befriended.drop 14) (byIds 1 2) "lobby" (by decide)

theorem people_befriended :
    ∃ user, parseXuid "1" = some user
      ∧ ∀ person ∈ [(⟨"2", false, true, []⟩ : Person)], person.isFollowingCaller = true
        ∧ ∃ other, parseXuid person.xuid = some other
          ∧ Friends.Consented (Social.calls (statements 0 initialized befriended)) user other :=
  people_consent 0 befriended "1" [⟨"2", false, true, []⟩] (by decide)

end Site

end BitDemon
