import BitDemon.DwServer.Social.Sessions

set_option autoImplicit false

/-!
# Invitations on their way

The invitations of a request are stored one by one, while other requests go on.
What becomes of them is what the calls tell in the order of the lock.
-/

namespace BitDemon

open Social Routes SocialDb

namespace Routes

-- one user of the list, in quotes or as a number, between blanks
structure Listed where
  before : List Char
  inQuotes : Bool
  userId : UInt64
  behind : List Char

namespace Listed

def digits (listed : Listed) : List Char := Nat.toDigits 10 listed.userId.toNat

def core (listed : Listed) : List Char :=
  if listed.inQuotes then '"' :: listed.digits ++ ['"'] else listed.digits

def text (listed : Listed) : List Char := listed.before ++ listed.core ++ listed.behind

def Blank (listed : Listed) : Prop :=
  ∀ c ∈ listed.before ++ listed.behind, Friends.isWhitespace c = true

end Listed

structure Lists (body : String) (users : List Listed) : Prop where
  blank : ∀ listed ∈ users, listed.Blank
  stands : ∃ between rest, '[' ∉ between
    ∧ Search.after "\"invitedUsers\"".toList body.toList
      = some (between ++ '[' :: ([','].intercalate (users.map Listed.text) ++ ']' :: rest))

variable {p : Char → Bool} {front core back : List Char} {listed : Listed} {body : String}

theorem dropWhile_clean (clean : ∀ c ∈ core, p c = false) : core.dropWhile p = core := by
  cases core with
  | nil => rfl
  | cons c core => rw [List.dropWhile_cons_of_neg (by simp [clean c])]

theorem trimMatches_eq (before : ∀ c ∈ front, p c = true) (behind : ∀ c ∈ back, p c = true)
    (clean : ∀ c ∈ core, p c = false) : trimMatches p (front ++ core ++ back) = core := by
  have reversed : (back.reverse ++ core.reverse).dropWhile p = core.reverse := by
    rw [List.dropWhile_append_of_pos (by simpa using behind),
      dropWhile_clean (by simpa using clean)]
  rw [trimMatches, List.append_assoc, List.dropWhile_append_of_pos before]
  cases core with
  | nil =>
    have gone : back.dropWhile p = [] := by simpa using behind
    rw [List.nil_append, gone]
    rfl
  | cons c core =>
    rw [List.cons_append, List.dropWhile_cons_of_neg (by simp [clean c]), ← List.cons_append,
      List.reverse_append, reversed, List.reverse_reverse]

theorem digits_clean (test : Char → Bool) (outside : ∀ digit : Fin 16, test (Nat.digitChar digit.val) = false)
    (listed : Listed) : ∀ c ∈ listed.digits, test c = false := by
  intro c member
  obtain ⟨digit, small, rfl⟩ := DwAuth.mem_toDigits (by decide) member
  exact outside ⟨digit, by omega⟩

theorem core_clean (test : Char → Bool) (outside : ∀ digit : Fin 16, test (Nat.digitChar digit.val) = false)
    (quote : test '"' = false) (listed : Listed) : ∀ c ∈ listed.core, test c = false := by
  intro c member
  have digit := digits_clean test outside listed
  rw [Listed.core] at member
  split at member
  next =>
    simp only [List.cons_append, List.mem_cons, List.mem_append, List.not_mem_nil, or_false] at member
    rcases member with rfl | among | rfl
    next => exact quote
    next => exact digit c among
    next => exact quote
  next => exact digit c member

theorem invitedUser_text (blank : listed.Blank) : invitedUser listed.text = some listed.userId := by
  have spaces : trimMatches Friends.isWhitespace listed.text = listed.core :=
    trimMatches_eq (fun c member => blank c (List.mem_append_left _ member))
      (fun c member => blank c (List.mem_append_right _ member))
      (core_clean Friends.isWhitespace (by decide) (by decide) listed)
  have quotes : trimMatches (· == '"') listed.core = listed.digits := by
    have clean := digits_clean (· == '"') (by decide) listed
    rw [Listed.core]
    split
    next => exact @trimMatches_eq (· == '"') ['"'] _ ['"'] (by simp) (by simp) clean
    next =>
      have plain := @trimMatches_eq (· == '"') [] _ [] (by simp) (by simp) clean
      rwa [List.nil_append, List.append_nil] at plain
  rw [invitedUser, spaces, quotes, parseId, Listed.digits,
    DwAuth.parseUnsigned_toDigits (by decide) (by decide) listed.userId.toNat_lt, Option.map_some,
    UInt64.ofNat_toNat]

theorem not_mem_text (blank : listed.Blank) {separator : Char}
    (solid : Friends.isWhitespace separator = false) (quote : separator ≠ '"')
    (outside : ∀ digit : Fin 16, separator ≠ Nat.digitChar digit.val) : separator ∉ listed.text := by
  intro member
  have around (here : separator ∈ listed.before ++ listed.behind) : False := by
    rw [blank separator here] at solid
    cases solid
  rcases List.mem_append.mp member with front | behind
  next =>
    rcases List.mem_append.mp front with before | among
    next => exact around (List.mem_append_left _ before)
    next =>
      have clean := core_clean (· == separator)
        (fun digit => beq_eq_false_iff_ne.mpr (Ne.symm (outside digit)))
        (beq_eq_false_iff_ne.mpr (Ne.symm quote)) listed separator among
      simp at clean
  next => exact around (List.mem_append_right _ behind)

theorem mem_of_mem_intercalate {c separator : Char} {texts : List (List Char)}
    (member : c ∈ [separator].intercalate texts) : c = separator ∨ ∃ text ∈ texts, c ∈ text := by
  induction texts with
  | nil => cases member
  | cons text texts ih =>
    cases texts with
    | nil => exact .inr ⟨text, List.mem_cons_self, by simpa using member⟩
    | cons next texts =>
      rw [List.intercalate_cons_cons, List.mem_append, List.mem_append] at member
      rcases member with (here | between) | later
      next => exact .inr ⟨text, List.mem_cons_self, here⟩
      next => exact .inl (List.mem_singleton.mp between)
      next =>
        refine (ih later).imp_right fun ⟨other, among, here⟩ => ?_
        exact ⟨other, List.mem_cons_of_mem _ among, here⟩

theorem xuidsIn_lists {users : List Listed} (lists : Lists body users) :
    xuidsIn body = users.map Listed.userId := by
  obtain ⟨between, rest, none_open, stands⟩ := lists.stands
  have opened : (Search.after "\"invitedUsers\"".toList body.toList).bind (Search.after ['['])
      = some ([','].intercalate (users.map Listed.text) ++ ']' :: rest) := by
    rw [stands, Option.bind_some, Search.after_char _ none_open]
  have inside : ∀ c ∈ [','].intercalate (users.map Listed.text), decide (c ≠ ']') = true := by
    intro c member
    refine decide_eq_true ?_
    rintro rfl
    rcases mem_of_mem_intercalate member with separator | ⟨text, given, here⟩
    next => cases separator
    next =>
      obtain ⟨listed, among, rfl⟩ := List.mem_map.mp given
      exact not_mem_text (lists.blank listed among) (by decide) (by decide) (by decide) here
  have read : (users.map Listed.text).filterMap invitedUser = users.map Listed.userId := by
    rw [List.filterMap_map, ← List.filterMap_eq_map]
    refine List.filterMap_congr fun listed among => ?_
    exact invitedUser_text (lists.blank listed among)
  rw [xuidsIn, opened]
  dsimp only
  rw [if_pos (by simp), List.takeWhile_append_of_pos inside, List.takeWhile_cons_of_neg (by simp),
    List.append_nil]
  cases users with
  | nil => decide
  | cons listed users =>
    rw [List.splitOn_intercalate ',' ?_ (by simp), read]
    intro text given
    obtain ⟨listed, among, rfl⟩ := List.mem_map.mp given
    exact not_mem_text (lists.blank listed among) (by decide) (by decide) (by decide)

end Routes

namespace Site

variable {epoch : UInt64} {s : Site} {events : List Event} {event : Event} {id : Nat} {part : Part}
  {fromId toId : UInt64} {connection body : String}

def inviteCalls : Statement → List Activity.Call
  | .recordUser now userId username => [.noteUser now userId username]
  | _ => []

def Part.calls : Part → List Activity.Call
  | .invite now fromId toId connection => [.invite now fromId toId connection]
  | .takeInvites user => [.takeInvites user]
  | _ => []

def stepCalls (s : Site) : Event → List Activity.Call
  | .advance id =>
    match s.server.tasks.get id, s.pending.get id with
    | some task, _ => task.statements.flatMap inviteCalls
    | none, some (part :: _) => part.calls
    | none, _ => []
  | _ => []

def calls (epoch : UInt64) : Site → List Event → List Activity.Call
  | _, [] => []
  | s, event :: events => s.stepCalls event ++ calls epoch (step epoch s event) events

structure SameInvites (s : Site) (db : InviteDb) : Prop where
  invite : s.invite = db.invite
  knownUser : s.server.world.db.knownUser = db.knownUser

theorem SameInvites.takeInvites {db : InviteDb} (same : SameInvites s db) (user : UInt64) :
    (Activity.takeInvites user s.db).1 = (Activity.takeInvites user db).1
      ∧ (Activity.takeInvites user s.db).2.invite = (Activity.takeInvites user db).2.invite := by
  have names (other : UInt64) : s.db.nameOf other = db.nameOf other := by
    have rows : s.db.knownUser = db.knownUser := same.knownUser
    rw [nameOf, nameOf, lookupName, lookupName, rows]
  by_cases binding : Sqlite.bindable user = true
  next =>
    have rows : s.db.invitesTo user = db.invitesTo user := by
      rw [InviteDb.invitesTo, InviteDb.invitesTo, ← same.invite]
      rfl
    rw [Activity.takeInvites_reply binding, Activity.takeInvites_reply binding,
      Activity.takeInvites_db binding, Activity.takeInvites_db binding, rows]
    refine ⟨List.map_congr_left fun row _ => by rw [names], ?_⟩
    rw [InviteDb.deleteInvites, InviteDb.deleteInvites, ← same.invite]
    rfl
  next =>
    rw [Activity.takeInvites_unbound binding, Activity.takeInvites_unbound binding]
    exact ⟨rfl, same.invite⟩

theorem sameInvites_execute {w : SocialDb} {db : InviteDb} (same : w.knownUser = db.knownUser)
    (statements : List Statement) :
    (Runs.run execute w statements).knownUser
        = (Runs.run Activity.step db (statements.flatMap inviteCalls)).knownUser
      ∧ (Runs.run Activity.step db (statements.flatMap inviteCalls)).invite
        = db.invite := by
  induction statements generalizing w db with
  | nil => exact ⟨same, rfl⟩
  | cons statement statements ih =>
    rw [List.flatMap_cons, Runs.run_cons, Runs.run_append]
    cases statement with
    | act call => exact ih ((perform_people w call).1.trans same)
    | recordUser now userId username =>
      have recorded : (execute w (.recordUser now userId username)).knownUser
          = (Activity.step db (.noteUser now userId username)).knownUser := by
        rw [execute, Activity.step, Activity.perform, recordUser, recordUser]
        split <;> simp [same]
      exact ih recorded
    | recordActivity now userId connection =>
      have kept : (execute w (.recordActivity now userId connection)).knownUser = w.knownUser := by
        rw [execute, recordActivity]
        split <;> rfl
      exact ih (kept.trans same)
    | deleteActivity userId => exact ih same

theorem stepCalls_of_next (free : s.server.tasks.get id = none) {rest : List Part}
    (next : s.pending.get id = some (part :: rest)) : s.stepCalls (.advance id) = part.calls := by
  rw [stepCalls, free, next]

theorem sameInvites_step {db : InviteDb} (same : SameInvites s db) (event : Event) :
    SameInvites (step epoch s event) (Runs.run Activity.step db (s.stepCalls event)) := by
  have moves := moves_step epoch s event
  generalize step epoch s event = s' at moves ⊢
  cases moves with
  | idle event still =>
    have silent : s.stepCalls event = [] := by
      cases event with
      | advance id =>
        obtain ⟨free, stuck⟩ := still id rfl
        rw [stepCalls, free]
        rcases waits : s.pending.get id with _ | ⟨_ | ⟨part, rest⟩⟩
        next => rfl
        next => rfl
        next =>
          obtain ⟨users, rfl⟩ := stuck part rest waits
          rfl
      | _ => rfl
    rw [silent]
    exact same
  | arrives id request fresh none_pending => exact ⟨same.invite, same.knownUser⟩
  | elapses time => exact ⟨same.invite, same.knownUser⟩
  | operates id task running =>
    have calls : s.stepCalls (.advance id) = task.statements.flatMap inviteCalls := by
      rw [stepCalls, running]
    have ran := @Server.db_step epoch s.server (.advance id)
    rw [Server.stepStatements, running, Option.elim_some] at ran
    obtain ⟨known, kept⟩ := sameInvites_execute same.knownUser task.statements
    rw [calls]
    exact ⟨same.invite.trans kept.symm, (congrArg SocialDb.knownUser ran).trans known⟩
  | ends id free done =>
    have silent : s.stepCalls (.advance id) = [] := by rw [stepCalls, free, done]
    rw [silent]
    exact ⟨same.invite, same.knownUser⟩
  | begins id op rest free next =>
    have same_world : (s.server.step epoch (.start id op)).world = s.server.world := by
      rw [Server.step]
      split <;> rfl
    rw [stepCalls_of_next free next]
    exact ⟨same.invite, (congrArg (fun w => w.db.knownUser) same_world).trans same.knownUser⟩
  | invites id now fromId toId connection rest free next =>
    rw [stepCalls_of_next free next, Part.calls, Runs.run_cons, Runs.run_nil, Activity.step, Activity.perform]
    have rows : s.db.invite = db.invite := same.invite
    have stored : (Activity.invite now fromId toId connection s.db).invite
          = (Activity.invite now fromId toId connection db).invite
        ∧ (Activity.invite now fromId toId connection db).knownUser = db.knownUser := by
      rw [Activity.invite, Activity.invite]
      split
      next => exact ⟨by rw [rows], rfl⟩
      next => exact ⟨rows, rfl⟩
    exact ⟨stored.1, same.knownUser.trans stored.2.symm⟩
  | bumps id users rest revisions free next counted =>
    rw [stepCalls_of_next free next]
    exact ⟨same.invite, same.knownUser⟩
  | takes id user rest free next =>
    rw [stepCalls_of_next free next, Part.calls, Runs.run_cons, Runs.run_nil, Activity.step, Activity.perform]
    refine ⟨(same.takeInvites user).2, same.knownUser.trans ?_⟩
    by_cases binding : Sqlite.bindable user = true
    next =>
      rw [Activity.takeInvites_db binding]
      rfl
    next => rw [Activity.takeInvites_unbound binding]
  | looks id look rest reads free next =>
    have silent : look.calls = [] := by
      cases look <;> first | rfl | cases reads
    rw [stepCalls_of_next free next, silent]
    exact ⟨same.invite, same.knownUser⟩

/--
The invitations of overlapping requests are those of their calls, one after
another in the order of the lock: the table is the same, and so is what is
returned to any user.
-/
theorem invitations_in_order (epoch : UInt64) (events : List Event) :
    (after epoch events).invite = (Activity.after (calls epoch initialized events)).invite
      ∧ ∀ user, (Activity.takeInvites user (after epoch events).db).1
        = (Activity.takeInvites user (Activity.after (calls epoch initialized events))).1 := by
  have run (s : Site) (db : InviteDb) (same : SameInvites s db) :
      SameInvites (Runs.run (step epoch) s events)
        (Runs.run Activity.step db (calls epoch s events)) := by
    induction events generalizing s db with
    | nil => exact same
    | cons event events ih =>
      rw [Runs.run_cons, calls, Runs.run_append]
      exact ih _ _ (sameInvites_step same event)
  have same := run initialized .initialized ⟨rfl, rfl⟩
  exact ⟨same.invite, fun user => (same.takeInvites user).1⟩

theorem stays_or_called {parts : List Part} (waits : s.pending.get id = some parts)
    (member : part ∈ parts) (event : Event) :
    (∃ parts', (step epoch s event).pending.get id = some parts' ∧ part ∈ parts')
      ∨ s.stepCalls event = part.calls := by
  have untouched {other : Nat} {parts' : List Part} (apart : id ≠ other) :
      (s.pending.put other parts').get id = some parts :=
    (Table.get_put_of_ne _ _ apart).trans waits
  have turn {other : Nat} {head : Part} {rest : List Part} (extra : List Part)
      (free : s.server.tasks.get other = none) (next : s.pending.get other = some (head :: rest)) :
      (∃ parts', (s.pending.put other (extra ++ rest)).get id = some parts' ∧ part ∈ parts')
        ∨ s.stepCalls (.advance other) = part.calls := by
    by_cases own : id = other
    next =>
      subst own
      obtain rfl : parts = head :: rest := Option.some.inj (waits.symm.trans next)
      rcases List.mem_cons.mp member with rfl | later
      next => exact .inr (stepCalls_of_next free next)
      next => exact .inl ⟨_, Table.get_put_self _ _ _, List.mem_append_right _ later⟩
    next => exact .inl ⟨parts, untouched own, member⟩
  have moves := moves_step epoch s event
  generalize step epoch s event = s' at moves ⊢
  cases moves with
  | idle | elapses | operates => exact .inl ⟨parts, waits, member⟩
  | arrives other request fresh none_pending =>
    refine .inl ⟨parts, untouched ?_, member⟩
    rintro rfl
    cases none_pending.symm.trans waits
  | ends other free done =>
    refine .inl ⟨parts, (Table.get_remove_of_ne _ ?_).trans waits, member⟩
    rintro rfl
    obtain rfl : parts = [] := Option.some.inj (waits.symm.trans done)
    cases member
  | begins other op rest free next => exact turn [] free next
  | invites other now fromId toId connection rest free next => exact turn [_] free next
  | bumps other users rest revisions free next counted => exact turn [] free next
  | takes other user rest free next => exact turn [] free next
  | looks other look rest reads free next => exact turn (look.found _) free next

theorem called_when_done {parts : List Part} (waits : s.pending.get id = some parts)
    (member : part ∈ parts) (done : (Runs.run (step epoch) s events).pending.get id = none) :
    ∀ call ∈ part.calls, call ∈ calls epoch s events := by
  intro call mine
  induction events generalizing s parts with
  | nil => cases done.symm.trans waits
  | cons event events ih =>
    rw [calls, List.mem_append]
    rcases @stays_or_called epoch s id part parts waits member event with ⟨parts', waits', member'⟩ | made
    next => exact .inr (ih waits' member' done)
    next => exact .inl (made ▸ mine)

theorem calls_append (s : Site) (first rest : List Event) :
    calls epoch s (first ++ rest)
      = calls epoch s first ++ calls epoch (Runs.run (step epoch) s first) rest := by
  induction first generalizing s with
  | nil => rfl
  | cons event first ih =>
    rw [List.cons_append, calls, calls, ih, Runs.run_cons, List.append_assoc]

theorem mem_inviteAll {now : Nat → Int64} (usable : Usable connection) (listed : toId ∈ xuidsIn body) :
    ∃ time, Part.invite time fromId toId connection ∈ inviteAll now fromId connection body := by
  obtain ⟨i, within, rfl⟩ := List.getElem_of_mem listed
  rw [inviteAll, if_pos usable]
  refine ⟨now i, List.mem_map.mpr ⟨((xuidsIn body)[i], i), ?_, rfl⟩⟩
  exact List.mk_mem_zipIdx_iff_getElem?.mpr (List.getElem?_eq_getElem within)

structure Accounted (made : List Activity.Call) (i : Nat) (fromId toId : UInt64)
    (connection : String) : Prop where
  sent : Activity.Sent made i fromId toId connection
  fate : (∃ j, Activity.Returned made i j fromId toId connection)
    ∨ Activity.Waiting made i fromId toId connection ∨ Activity.Replaced made i fromId toId

/--
Once the handler of an invitation is done, everyone whom the body lists was sent
the session, however many other requests went on: it was returned to him, or it
waits for him, or a later one of the same sender took its place.
-/
theorem sent_when_done (epoch : UInt64) (first rest : List Event) (id : Nat) (now : Nat → Int64)
    (authorization : Option String) (body connection : String) (users : List Listed)
    (fromId : UInt64) (idle : (after epoch first).server.tasks.get id = none)
    (unused : (after epoch first).pending.get id = none)
    (sent : sender authorization = some fromId) (given : connectionIn body = some connection)
    (usable : Usable connection) (lists : Lists body users)
    (done : (after epoch (first ++ .arrive id (.sendInvites now authorization body) :: rest)).pending.get
      id = none) (listed : Listed) (member : listed ∈ users)
    (binding : Friends.binds fromId listed.userId = true) :
    ∃ i, Accounted (calls epoch initialized
        (first ++ .arrive id (.sendInvites now authorization body) :: rest)) i fromId listed.userId
      connection := by
  have among : listed.userId ∈ xuidsIn body := by
    rw [xuidsIn_lists lists]
    exact List.mem_map_of_mem member
  obtain ⟨time, part⟩ := @mem_inviteAll fromId _ connection body now usable among
  have arrived : step epoch (after epoch first) (.arrive id (.sendInvites now authorization body))
      = (after epoch first).leave id (inviteAll now fromId connection body) := by
    rw [step, idle, unused]
    dsimp only
    rw [Request.parts, sent, given]
  rw [after, Runs.run_append, Runs.run_cons, arrived] at done
  have called : Activity.Call.invite time fromId listed.userId connection
      ∈ calls epoch initialized (first ++ .arrive id (.sendInvites now authorization body) :: rest) := by
    rw [calls_append, calls, arrived]
    refine List.mem_append_right _ (List.mem_append_right _ ?_)
    exact called_when_done (Table.get_put_self _ _ _) part done _ List.mem_cons_self
  obtain ⟨i, here⟩ := List.getElem?_of_mem called
  have placed : Activity.Sent _ i fromId listed.userId connection := ⟨binding, time, here⟩
  exact ⟨i, placed, placed.accounted⟩

-- one of the two is listed by a string and the other one by a number
def partyBody : String := "\x7b\"connectionString\":\"lobby\",\"invitedUsers\":[\"2\", 3]\x7d"

theorem lists_party : Lists partyBody [⟨[], true, 2, []⟩, ⟨[' '], false, 3, []⟩] where
  blank := by
    intro listed member
    obtain rfl | rfl : listed = ⟨[], true, 2, []⟩ ∨ listed = ⟨[' '], false, 3, []⟩ := by
      simpa using member
    · exact nofun
    · exact List.all_eq_true.mp (by decide)
  stands := ⟨[':'], ['\x7d'], by decide, by decide⟩

theorem sent_to_party :
    ∃ i, Accounted (calls 0 initialized ([] ++ .arrive 0 (.sendInvites (fun _ => 0)
      (some "IW4x1.0 xuid=1;gamertag=Soap") partyBody)
        :: [.advance 0, .advance 0, .advance 0, .advance 0, .advance 0])) i 1 3 "lobby" :=
  sent_when_done 0 [] [.advance 0, .advance 0, .advance 0, .advance 0, .advance 0] 0 (fun _ => 0)
    (some "IW4x1.0 xuid=1;gamertag=Soap") partyBody "lobby" [⟨[], true, 2, []⟩, ⟨[' '], false, 3, []⟩] 1
    rfl rfl (by decide) (by decide) (by decide) lists_party (by decide) ⟨[' '], false, 3, []⟩ (by simp)
    (by decide)

end Site

end BitDemon
