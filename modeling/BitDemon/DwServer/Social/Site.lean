import BitDemon.DwServer.Social.Invites
import BitDemon.DwServer.Social.Routes

set_option autoImplicit false

/-!
# The requests of the site

A handler looks its users up, and then does what it was asked for in parts that
each take one lock. The handlers of all requests overlap.
-/

namespace BitDemon

open Social Routes SocialDb Watch

namespace Site

inductive Verb where
  | request | accept | remove
  deriving DecidableEq

def Verb.otherIs : Verb → Other
  | .request => .name
  | .accept | .remove => .id

def Verb.call (now : Int64) (user other : UInt64) : Verb → Friends.Call
  | .request => .request now user other
  | .accept => .accept now user other
  | .remove => .remove user other

-- the routes that show something to the user they name
inductive Page where
  | list | social | invites
  deriving DecidableEq

inductive Request where
  | act (verb : Verb) (now : Int64) (body : FriendAction)
  | page (page : Page) (who : String)
  | setActivity (now : Int64) (user body : String)
  | deleteActivity (user : String)
  -- the clock is read for each of the invited users
  | sendInvites (now : Nat → Int64) (authorization : Option String) (body : String)
  -- `note_user`, at an authentication
  | signIn (now : Int64) (userId : UInt64) (username : String)
  | sweep

inductive Part where
  | findCaller (verb : Verb) (now : Int64) (body : FriendAction)
  | findTarget (verb : Verb) (now : Int64) (user : UInt64) (body : FriendAction)
  | findUser (page : Page) (who : String)
  | findActivity (now : Nat → Int64) (fromId : UInt64) (body : String)
  | operate (op : Op)
  | invite (now : Int64) (fromId toId : UInt64) (connection : String)
  | bump (users : List UInt64)
  | takeInvites (user : UInt64)

def Part.isLook : Part → Bool
  | .findCaller _ _ _ | .findTarget _ _ _ _ | .findUser _ _ | .findActivity _ _ _ => true
  | _ => false

-- a user of `social` is seen before the wait and after it
def Page.parts (user : UInt64) : Page → List Part
  | .list => [.operate (.touch user)]
  | .social => [.operate (.touch user), .operate (.touch user), .takeInvites user]
  | .invites => [.takeInvites user]

def connectionIn (body : String) : Option String := member body "connectionString"

def inviteAll (now : Nat → Int64) (fromId : UInt64) (connection body : String) : List Part :=
  if Usable connection then
    (xuidsIn body).zipIdx.map fun (toId, i) => .invite (now i) fromId toId connection
  else
    []

def Request.parts : Request → List Part
  | .act verb now body => [.findCaller verb now body]
  | .page shown who => [.findUser shown who]
  | .setActivity now user body =>
    match xuidIn user, connectionIn body with
    | some userId, some connection =>
      if Usable connection then [.operate (.setActivity now userId connection)] else []
    | _, _ => []
  | .deleteActivity user =>
    match xuidIn user with
    | some userId => [.operate (.clearActivity userId)]
    | none => []
  | .sendInvites now authorization body =>
    match sender authorization, connectionIn body with
    | some fromId, some session => inviteAll now fromId session body
    | some fromId, none => [.findActivity now fromId body]
    | none, _ => []
  | .signIn now userId username => [.operate (.noteUser now userId username)]
  | .sweep => [.operate .sweep]

/-- What a look into the database leaves to do; nothing where the request is refused. -/
def Part.found (db : SocialDb) : Part → List Part
  | .findCaller verb now body =>
    match caller db body.user with
    | .one user => [.findTarget verb now user body]
    | .many _ | .nobody => []
  | .findTarget verb now user body =>
    match target db body verb.otherIs with
    | .ok other => [.operate (.act (verb.call now user other))]
    | .error _ => []
  | .findUser page who =>
    match resolve db who with
    | some user => page.parts user
    | none => []
  | .findActivity now fromId body =>
    match db.activityOf fromId with
    | some connection => inviteAll now fromId connection body
    | none => []
  | _ => []

end Site

structure Site where
  server : Social.Server
  invite : List InviteRow
  -- what the handlers have still to do
  pending : Table Nat (List Site.Part)

namespace Site

def initialized : Site := { server := .initialized, invite := [], pending := ∅ }

def db (s : Site) : InviteDb := { s.server.world.db with invite := s.invite }

def leave (s : Site) (id : Nat) (parts : List Part) : Site :=
  { s with pending := s.pending.put id parts }

variable (epoch : UInt64)

/-- One part of a handler; it stays where it is when it panics. -/
def perform (s : Site) (id : Nat) (rest : List Part) : Part → Site
  | .operate op => { s with server := s.server.step epoch (.start id op) }.leave id rest
  | .invite now fromId toId connection =>
    { s with invite := (Activity.invite now fromId toId connection s.db).invite }.leave id
      (.bump [toId] :: rest)
  | .bump users =>
    match countUp epoch s.server.world.revisions users with
    | none => s
    | some revisions =>
      { s with server.world.revisions := revisions }.leave id rest
  | .takeInvites user =>
    { s with invite := (Activity.takeInvites user s.db).2.invite }.leave id rest
  | look => s.leave id (look.found s.server.world.db ++ rest)

inductive Event where
  | arrive (id : Nat) (request : Request)
  | advance (id : Nat)
  | elapse (time : Nat)

def step (s : Site) : Event → Site
  | .arrive id request =>
    match s.server.tasks.get id, s.pending.get id with
    | none, none => s.leave id request.parts
    | _, _ => s
  | .advance id =>
    match s.server.tasks.get id, s.pending.get id with
    -- an operation that was begun, up to its last bump
    | some _, _ => { s with server := s.server.step epoch (.advance id) }
    | none, none => s
    | none, some [] => { s with pending := s.pending.remove id }
    | none, some (part :: rest) => s.perform epoch id rest part
  | .elapse time => { s with server := s.server.step epoch (.elapse time) }

abbrev after (events : List Event) : Site := Runs.run (step epoch) initialized events

variable {epoch} {s : Site}

inductive Moves (epoch : UInt64) (s : Site) : Event → Site → Prop where
  -- an id that is in use, one that is not, or a bump that panics
  | idle (event : Event)
      (still : ∀ id, event = .advance id → s.server.tasks.get id = none
        ∧ ∀ part rest, s.pending.get id = some (part :: rest) → ∃ users, part = .bump users) :
      Moves epoch s event s
  | arrives (id : Nat) (request : Request) (fresh : s.server.tasks.get id = none)
      (none_pending : s.pending.get id = none) :
      Moves epoch s (.arrive id request) (s.leave id request.parts)
  | elapses (time : Nat) :
      Moves epoch s (.elapse time) { s with server := s.server.step epoch (.elapse time) }
  | operates (id : Nat) (task : Task) (running : s.server.tasks.get id = some task) :
      Moves epoch s (.advance id) { s with server := s.server.step epoch (.advance id) }
  | ends (id : Nat) (free : s.server.tasks.get id = none) (done : s.pending.get id = some []) :
      Moves epoch s (.advance id) { s with pending := s.pending.remove id }
  | begins (id : Nat) (op : Op) (rest : List Part) (free : s.server.tasks.get id = none)
      (next : s.pending.get id = some (.operate op :: rest)) :
      Moves epoch s (.advance id)
        ({ s with server := s.server.step epoch (.start id op) }.leave id rest)
  | invites (id : Nat) (now : Int64) (fromId toId : UInt64) (connection : String)
      (rest : List Part) (free : s.server.tasks.get id = none)
      (next : s.pending.get id = some (.invite now fromId toId connection :: rest)) :
      Moves epoch s (.advance id)
        ({ s with invite := (Activity.invite now fromId toId connection s.db).invite }.leave id
          (.bump [toId] :: rest))
  | bumps (id : Nat) (users : List UInt64) (rest : List Part) (revisions : Revisions)
      (free : s.server.tasks.get id = none)
      (next : s.pending.get id = some (.bump users :: rest))
      (counted : countUp epoch s.server.world.revisions users = some revisions) :
      Moves epoch s (.advance id) ({ s with server.world.revisions := revisions }.leave id rest)
  | takes (id : Nat) (user : UInt64) (rest : List Part) (free : s.server.tasks.get id = none)
      (next : s.pending.get id = some (.takeInvites user :: rest)) :
      Moves epoch s (.advance id)
        ({ s with invite := (Activity.takeInvites user s.db).2.invite }.leave id rest)
  | looks (id : Nat) (look : Part) (rest : List Part) (reads : look.isLook = true)
      (free : s.server.tasks.get id = none) (next : s.pending.get id = some (look :: rest)) :
      Moves epoch s (.advance id) (s.leave id (look.found s.server.world.db ++ rest))

theorem moves_step (epoch : UInt64) (s : Site) (event : Event) : Moves epoch s event (step epoch s event) := by
  cases event with
  | arrive id request =>
    rw [step]
    split
    next fresh none => exact .arrives id request fresh none
    next => exact .idle _ nofun
  | elapse time => exact .elapses time
  | advance id =>
    rw [step]
    split
    next task running => exact .operates id task running
    next free absent =>
      refine .idle _ ?_
      rintro _ ⟨⟩
      exact ⟨free, fun part rest found => by cases absent.symm.trans found⟩
    next free done => exact .ends id free done
    next part rest free next =>
      cases part with
      | operate op => exact .begins id op rest free next
      | invite now fromId toId connection => exact .invites id now fromId toId connection rest free next
      | bump users =>
        rw [perform]
        split
        next =>
          refine .idle _ ?_
          rintro _ ⟨⟩
          refine ⟨free, fun part rest found => ?_⟩
          obtain ⟨rfl, _⟩ := List.cons.inj (Option.some.inj (next.symm.trans found))
          exact ⟨users, rfl⟩
        next revisions counted => exact .bumps id users rest revisions free next counted
      | takeInvites user => exact .takes id user rest free next
      | _ => exact .looks id _ rest rfl free next

end Site

end BitDemon
