import BitDemon.DwServer.Social.Site

set_option autoImplicit false

/-!
# Where a session comes from

A session that is shown or handed out was published by its player, or was sent
with the invitation, and its security identity is no placeholder.
-/

namespace BitDemon

open Social Routes SocialDb

namespace Social

variable {epoch : UInt64} {publishes : UInt64 → String → Prop}

def Task.Publishes (publishes : UInt64 → String → Prop) : Task → Prop
  | .begin (.setActivity _ userId connection) => publishes userId connection
  | .recordActivity _ userId connection _ => publishes userId connection
  | _ => True

theorem publishes_left {w w' : World} {task rest : Task} {left : Option Task}
    (went : next epoch w task = some (w', left)) (genuine : task.Publishes publishes)
    (remains : left = some rest) : rest.Publishes publishes := by
  subst remains
  cases task with
  | begin op =>
    cases op with
    | act call =>
      rw [next] at went
      split at went
      all_goals
        obtain ⟨-, same⟩ := Prod.mk.inj (Option.some.inj went)
        cases same
      trivial
    | setActivity now userId connection =>
      obtain ⟨-, same⟩ := Prod.mk.inj (Option.some.inj went)
      cases same
      exact genuine
    | noteUser now userId username =>
      obtain ⟨-, same⟩ := Prod.mk.inj (Option.some.inj went)
      cases same
      trivial
    | sweep =>
      obtain ⟨-, same⟩ := Prod.mk.inj (Option.some.inj went)
      cases same
      trivial
    | clearActivity userId | touch userId =>
      obtain ⟨-, same⟩ := Prod.mk.inj (Option.some.inj went)
      split at same <;> cases same
      trivial
  | recordUser now userId username was | recordActivity now userId connection was =>
    obtain ⟨-, same⟩ := Prod.mk.inj (Option.some.inj went)
    split at same <;> cases same
    trivial
  | bumpWatchers users =>
    cases users with
    | nil =>
      obtain ⟨-, same⟩ := Prod.mk.inj (Option.some.inj went)
      cases same
    | cons user rest =>
      obtain ⟨-, same⟩ := Prod.mk.inj (Option.some.inj went)
      cases same
      trivial
  | incoming user out rest =>
    obtain ⟨-, same⟩ := Prod.mk.inj (Option.some.inj went)
    cases same
    trivial
  | outgoing user out rest =>
    obtain ⟨-, same⟩ := Prod.mk.inj (Option.some.inj went)
    cases same
    split <;> trivial
  | bump users rest =>
    obtain ⟨revisions, counted, made⟩ := Option.map_eq_some_iff.mp went
    obtain ⟨-, same⟩ := Prod.mk.inj made
    cases same
    trivial

theorem activityOf_next {w w' : World} {task : Task} {left : Option Task}
    (went : next epoch w task = some (w', left)) (genuine : task.Publishes publishes)
    {userId : UInt64} {connection : String} (active : w'.db.activityOf userId = some connection) :
    w.db.activityOf userId = some connection ∨ publishes userId connection := by
  rw [db_next went] at active
  have kept (statement : Statement) (quiet : activityEffect userId statement = .keeps)
      (active : (execute w.db statement).activityOf userId = some connection) :
      w.db.activityOf userId = some connection := by
    rwa [activityOf_execute, quiet] at active
  cases task with
  | begin op =>
    cases op with
    | act call => exact .inl (kept (.act call) rfl active)
    | clearActivity user =>
      have gone : ((execute w.db (.deleteActivity user)).activityOf userId) = some connection := active
      rw [activityOf_execute, activityEffect] at gone
      split at gone
      next => rw [History.Effect.on_erases_all] at gone; cases gone
      next => exact .inl gone
    | _ => exact .inl active
  | recordUser now user username was => exact .inl (kept (.recordUser now user username) rfl active)
  | recordActivity now user other was =>
    have recorded : (execute w.db (.recordActivity now user other)).activityOf userId
        = some connection := active
    rw [activityOf_execute, activityEffect] at recorded
    split at recorded
    next both =>
      obtain ⟨_, rfl⟩ := both
      obtain rfl := Option.some.inj recorded
      exact .inr genuine
    next => exact .inl recorded
  | _ => exact .inl active

namespace Server

structure Publishes (publishes : UInt64 → String → Prop) (s : Server) : Prop where
  activity : ∀ userId connection, s.world.db.activityOf userId = some connection →
    publishes userId connection
  tasks : ∀ id task, s.tasks.get id = some task → task.Publishes publishes

theorem publishes_step {s : Server} (holds : s.Publishes publishes) (action : Action)
    (issued : ∀ id op, action = .start id op → (Task.begin op).Publishes publishes) :
    (step epoch s action).Publishes publishes := by
  cases action with
  | start id op =>
    rw [step]
    split
    next =>
      refine ⟨holds.activity, fun other task found => ?_⟩
      rw [Table.get_put] at found
      split at found
      next =>
        obtain rfl := Option.some.inj found
        exact issued id op rfl
      next => exact holds.tasks other task found
    next => exact holds
  | elapse time => exact ⟨holds.activity, holds.tasks⟩
  | advance id =>
    rw [step]
    split
    next => exact holds
    next task running =>
      split
      next => exact holds
      next world left went =>
        have genuine := holds.tasks id task running
        refine ⟨fun userId connection active => ?_, fun other rest found => ?_⟩
        · exact (activityOf_next went genuine active).elim (holds.activity userId connection) (·)
        · rw [get_withTask] at found
          split at found
          next => exact publishes_left went genuine found
          next => exact holds.tasks other rest found

end Server

end Social

namespace Site

variable {epoch : UInt64} {s : Site} {events : List Event} {event : Event} {fromId toId userId : UInt64}
  {connection : String}

def Published (events : List Event) (userId : UInt64) (connection : String) : Prop :=
  ∃ id now user body, Event.arrive id (.setActivity now user body) ∈ events
    ∧ xuidIn user = some userId ∧ connectionIn body = some connection ∧ Usable connection

def Invited (events : List Event) (fromId toId : UInt64) (connection : String) : Prop :=
  ∃ id now authorization body, Event.arrive id (.sendInvites now authorization body) ∈ events
    ∧ sender authorization = some fromId ∧ toId ∈ xuidsIn body ∧ Usable connection
    ∧ (connectionIn body = some connection
      ∨ connectionIn body = none ∧ Published events fromId connection)

def Part.Genuine (events : List Event) : Part → Prop
  | .operate op => (Task.begin op).Publishes (Published events)
  | .invite _ fromId toId connection => Invited events fromId toId connection
  | .findActivity _ fromId body =>
    ∃ id now authorization, Event.arrive id (.sendInvites now authorization body) ∈ events
      ∧ sender authorization = some fromId ∧ connectionIn body = none
  | _ => True

structure Genuine (events : List Event) (s : Site) : Prop where
  server : s.server.Publishes (Published events)
  invite : ∀ row ∈ s.invite, Invited events row.fromId row.toId row.connection
  pending : ∀ id parts, s.pending.get id = some parts → ∀ part ∈ parts, part.Genuine events

theorem Published.snoc (published : Published events userId connection) (event : Event) :
    Published (events ++ [event]) userId connection := by
  obtain ⟨id, now, user, body, arrived, named⟩ := published
  exact ⟨id, now, user, body, List.mem_append_left _ arrived, named⟩

theorem Invited.snoc (invited : Invited events fromId toId connection) (event : Event) :
    Invited (events ++ [event]) fromId toId connection := by
  obtain ⟨id, now, authorization, body, arrived, from', to', usable, session⟩ := invited
  refine ⟨id, now, authorization, body, List.mem_append_left _ arrived, from', to', usable, ?_⟩
  exact session.imp_right fun ⟨absent, published⟩ => ⟨absent, published.snoc event⟩

theorem publishes_snoc {task : Task} (genuine : task.Publishes (Published events)) (event : Event) :
    task.Publishes (Published (events ++ [event])) := by
  cases task with
  | begin op =>
    cases op with
    | setActivity now userId connection => exact Published.snoc genuine event
    | _ => trivial
  | recordActivity now userId connection was => exact Published.snoc genuine event
  | _ => trivial

theorem Part.Genuine.snoc {part : Part} (genuine : part.Genuine events) (event : Event) :
    part.Genuine (events ++ [event]) := by
  cases part with
  | operate op => exact publishes_snoc genuine event
  | invite now fromId toId connection => exact Invited.snoc genuine event
  | findActivity now fromId body =>
    obtain ⟨id, now, authorization, arrived, named⟩ := genuine
    exact ⟨id, now, authorization, List.mem_append_left _ arrived, named⟩
  | _ => trivial

theorem Genuine.snoc (genuine : Genuine events s) (event : Event) : Genuine (events ++ [event]) s where
  server := ⟨fun userId connection active => (genuine.server.activity userId connection active).snoc event,
    fun id task running => publishes_snoc (genuine.server.tasks id task running) event⟩
  invite row member := (genuine.invite row member).snoc event
  pending id parts found part member := (genuine.pending id parts found part member).snoc event

theorem genuine_inviteAll {now : Nat → Int64} {body : String} {part : Part}
    (invited : ∀ toId ∈ xuidsIn body, Usable connection → Invited events fromId toId connection)
    (member : part ∈ inviteAll now fromId connection body) : part.Genuine events := by
  rw [inviteAll] at member
  split at member
  next usable =>
    obtain ⟨⟨toId, i⟩, listed, rfl⟩ := List.mem_map.mp member
    exact invited toId (List.fst_mem_of_mem_zipIdx listed) usable
  next => cases member

theorem genuine_parts {id : Nat} {request : Request} (arrived : Event.arrive id request ∈ events)
    {part : Part} (member : part ∈ request.parts) : part.Genuine events := by
  cases request with
  | setActivity now user body =>
    rw [Request.parts] at member
    split at member
    next userId connection named given =>
      split at member
      next usable =>
        obtain rfl := List.mem_singleton.mp member
        exact ⟨id, now, user, body, arrived, named, given, usable⟩
      next => cases member
    next => cases member
  | sendInvites now authorization body =>
    rw [Request.parts] at member
    split at member
    next fromId connection sent given =>
      refine genuine_inviteAll (fun toId listed usable => ?_) member
      exact ⟨id, now, authorization, body, arrived, sent, listed, usable, .inl given⟩
    next fromId sent none_given =>
      obtain rfl := List.mem_singleton.mp member
      exact ⟨id, now, authorization, arrived, sent, none_given⟩
    next => cases member
  | deleteActivity user =>
    rw [Request.parts] at member
    split at member
    next =>
      obtain rfl := List.mem_singleton.mp member
      trivial
    next => cases member
  | _ =>
    obtain rfl := List.mem_singleton.mp member
    trivial

theorem genuine_found {look part : Part} (server : s.server.Publishes (Published events))
    (genuine : look.Genuine events) (member : part ∈ look.found s.server.world.db) :
    part.Genuine events := by
  cases look with
  | findCaller verb now body =>
    rw [Part.found] at member
    split at member
    next =>
      obtain rfl := List.mem_singleton.mp member
      trivial
    all_goals cases member
  | findTarget verb now user body =>
    rw [Part.found] at member
    split at member
    next =>
      obtain rfl := List.mem_singleton.mp member
      trivial
    next => cases member
  | findUser page who =>
    rw [Part.found] at member
    split at member
    next user found =>
      cases page with
      | list | invites =>
        obtain rfl := List.mem_singleton.mp member
        trivial
      | social =>
        simp only [Page.parts, List.mem_cons, List.not_mem_nil, or_false] at member
        rcases member with rfl | rfl | rfl <;> trivial
    next => cases member
  | findActivity now fromId body =>
    obtain ⟨id, now', authorization, arrived, sent, none_given⟩ := genuine
    rw [Part.found] at member
    split at member
    next connection active =>
      refine genuine_inviteAll (fun toId listed usable => ?_) member
      exact ⟨id, now', authorization, body, arrived, sent, listed, usable,
        .inr ⟨none_given, server.activity fromId connection active⟩⟩
    next => cases member
  | _ => cases member

theorem Genuine.leave {id : Nat} {parts : List Part} (genuine : Genuine events s)
    (own : ∀ part ∈ parts, part.Genuine events) : Genuine events (s.leave id parts) where
  server := genuine.server
  invite := genuine.invite
  pending other parts' found := by
    rw [Site.leave, Table.get_put] at found
    split at found
    next =>
      obtain rfl := Option.some.inj found
      exact own
    next => exact genuine.pending other parts' found

theorem genuine_step (genuine : Genuine events s) (event : Event) :
    Genuine (events ++ [event]) (step epoch s event) := by
  have known := genuine.snoc event
  have server (action : Action)
      (issued : ∀ id op, action = .start id op →
        (Task.begin op).Publishes (Published (events ++ [event]))) :
      Genuine (events ++ [event]) { s with server := s.server.step epoch action } :=
    ⟨Server.publishes_step known.server action issued, known.invite, known.pending⟩
  have moves := moves_step epoch s event
  generalize step epoch s event = s' at moves ⊢
  cases moves with
  | idle => exact known
  | arrives id request fresh none_pending =>
    exact known.leave fun part member => genuine_parts List.mem_concat_self member
  | elapses time => exact server (.elapse time) nofun
  | operates id task running => exact server (.advance id) nofun
  | ends id free done =>
    refine ⟨known.server, known.invite, fun other parts found => ?_⟩
    rw [Table.get_remove] at found
    split at found
    next => cases found
    next => exact known.pending other parts found
  | begins id op rest free next =>
    have own := known.pending id _ next
    refine (server (.start id op) ?_).leave fun part member => own part (List.mem_cons_of_mem _ member)
    rintro _ _ ⟨⟩
    exact own _ List.mem_cons_self
  | invites id now fromId toId connection rest free next =>
    have own := known.pending id _ next
    have inserted : ∀ row ∈ (Activity.invite now fromId toId connection s.db).invite,
        Invited (events ++ [.advance id]) row.fromId row.toId row.connection := by
      intro row member
      rw [Activity.invite] at member
      split at member
      next =>
        rcases Rows.mem_upsert member with rfl | old
        next => exact own _ List.mem_cons_self
        next => exact known.invite row old
      next => exact known.invite row member
    refine Genuine.leave ⟨known.server, inserted, known.pending⟩ fun part member => ?_
    rcases List.mem_cons.mp member with rfl | later
    next => trivial
    next => exact own part (List.mem_cons_of_mem _ later)
  | bumps id users rest revisions free next counted =>
    have own := known.pending id _ next
    have same : Genuine (events ++ [.advance id]) { s with server.world.revisions := revisions } :=
      ⟨⟨known.server.activity, known.server.tasks⟩, known.invite, known.pending⟩
    exact same.leave fun part member => own part (List.mem_cons_of_mem _ member)
  | takes id user rest free next =>
    have own := known.pending id _ next
    have left : ∀ row ∈ (Activity.takeInvites user s.db).2.invite,
        Invited (events ++ [.advance id]) row.fromId row.toId row.connection := by
      intro row member
      by_cases binding : Sqlite.bindable user = true
      next =>
        rw [Activity.takeInvites_db binding] at member
        exact known.invite row (List.mem_filter.mp member).1
      next =>
        rw [Activity.takeInvites_unbound binding] at member
        exact known.invite row member
    exact Genuine.leave ⟨known.server, left, known.pending⟩ fun part member =>
      own part (List.mem_cons_of_mem _ member)
  | looks id look rest reads free next =>
    have own := known.pending id _ next
    refine known.leave fun part member => ?_
    rcases List.mem_append.mp member with found | later
    next => exact genuine_found known.server (own look List.mem_cons_self) found
    next => exact own part (List.mem_cons_of_mem _ later)

theorem genuine_after (epoch : UInt64) (events : List Event) : Genuine events (after epoch events) := by
  induction events using List.reverseRecOn with
  | nil => exact ⟨⟨nofun, nofun⟩, nofun, nofun⟩
  | append_singleton events event ih =>
    rw [after, Runs.run_append, Runs.run_cons, Runs.run_nil]
    exact genuine_step ih event

/--
However the requests overlap: the session of a player is one that a request
published for him, and an invitation that is returned was sent to that player by
its sender, with the session it carries or the one its sender had published. None
has a placeholder for its security identity.
-/
theorem sessions_genuine (epoch : UInt64) (events : List Event) :
    (∀ userId connection, (after epoch events).db.activityOf userId = some connection →
        Published events userId connection)
      ∧ ∀ userId, ∀ entry ∈ (Activity.takeInvites userId (after epoch events).db).1,
        Invited events entry.fromId userId entry.connection := by
  have genuine := genuine_after epoch events
  refine ⟨genuine.server.activity, fun userId entry listed => ?_⟩
  by_cases binding : Sqlite.bindable userId = true
  next =>
    rw [Activity.takeInvites_reply binding] at listed
    obtain ⟨row, member, rfl⟩ := List.mem_map.mp listed
    rw [Rows.mem_inOrder, Rows.mem_inOrder] at member
    obtain ⟨present, own⟩ := List.mem_filter.mp member
    obtain rfl := of_decide_eq_true own
    exact genuine.invite row present
  next =>
    rw [Activity.takeInvites_unbound binding] at listed
    cases listed

end Site

end BitDemon
