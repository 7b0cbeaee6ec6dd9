import BitDemon.DwServer.Social.Revisions
import BitDemon.Library.History

set_option autoImplicit false

/-!
# Invitations

Each call holds the lock of the database from its first statement to its last,
so that the calls of all threads stand in one order.
-/

namespace BitDemon

structure InviteRow where
  toId : UInt64
  fromId : UInt64
  connection : String
  createdAt : Int64
  deriving DecidableEq

-- the primary key
def InviteRow.key (row : InviteRow) : UInt64 × UInt64 := (row.toId, row.fromId)

structure InviteDb extends SocialDb where
  invite : List InviteRow
  deriving DecidableEq

namespace InviteDb

def initialized : InviteDb := { SocialDb.initialized with invite := [] }

def invitesTo (db : InviteDb) (userId : UInt64) : List InviteRow :=
  db.invite.filter fun row => decide (row.toId = userId)

def deleteInvites (db : InviteDb) (userId : UInt64) : InviteDb :=
  { db with invite := Rows.delete InviteRow.key (fun key => decide (key.1 = userId)) db.invite }

def waiting (db : InviteDb) (toId fromId : UInt64) : Option String :=
  (Rows.find InviteRow.key (toId, fromId) db.invite).map InviteRow.connection

end InviteDb

structure Invitation where
  fromId : UInt64
  fromName : String
  connection : String
  deriving DecidableEq

namespace Activity

open Friends InviteDb

def invite (now : Int64) (fromId toId : UInt64) (connection : String) (db : InviteDb) : InviteDb :=
  if binds fromId toId then
    { db with invite := Rows.upsert InviteRow.key ⟨toId, fromId, connection, now⟩ db.invite }
  else
    db

-- the primary key leads to the rows of a recipient, in the order of the senders
def takeInvites (userId : UInt64) (db : InviteDb) : List Invitation × InviteDb :=
  if Sqlite.bindable userId then
    let rows := Rows.inOrder InviteRow.createdAt (Rows.inOrder InviteRow.fromId (db.invitesTo userId))
    let out := rows.map fun row =>
      { fromId := row.fromId, fromName := db.nameOf row.fromId, connection := row.connection }
    if out.isEmpty then (out, db) else (out, db.deleteInvites userId)
  else
    ([], db)

inductive Call where
  | invite (now : Int64) (fromId toId : UInt64) (connection : String)
  | takeInvites (userId : UInt64)
  -- the statement of `note_user`, which names the senders
  | noteUser (now : Int64) (userId : UInt64) (username : String)
  deriving DecidableEq

def perform (db : InviteDb) : Call → List Invitation × InviteDb
  | .invite now fromId toId connection => ([], invite now fromId toId connection db)
  | .takeInvites userId => takeInvites userId db
  | .noteUser now userId username =>
    ([], { db with toSocialDb := db.recordUser now userId username })

def step (db : InviteDb) (call : Call) : InviteDb := (perform db call).2

abbrev after (calls : List Call) : InviteDb := Runs.run step initialized calls

-- what the call at this place returns
def reply (calls : List Call) (i : Nat) : List Invitation :=
  match calls[i]? with
  | some call => (perform (after (calls.take i)) call).1
  | none => []

def Sent (calls : List Call) (i : Nat) (fromId toId : UInt64) (connection : String) : Prop :=
  binds fromId toId = true ∧ ∃ now, calls[i]? = some (.invite now fromId toId connection)

structure Returned (calls : List Call) (i j : Nat) (fromId toId : UInt64) (connection : String) :
    Prop where
  sent : Sent calls i fromId toId connection
  before : i < j
  takes : calls[j]? = some (.takeInvites toId)
  current : ∀ k other, i < k → k < j → ¬Sent calls k fromId toId other
  listed : ∃ entry ∈ reply calls j, entry.fromId = fromId ∧ entry.connection = connection

structure Waiting (calls : List Call) (i : Nat) (fromId toId : UInt64) (connection : String) :
    Prop where
  stored : ∃ row ∈ (after calls).invite,
    row.toId = toId ∧ row.fromId = fromId ∧ row.connection = connection
  current : ∀ k other, i < k → ¬Sent calls k fromId toId other

-- a later invitation took its place, and the recipient took none in between
def Replaced (calls : List Call) (i : Nat) (fromId toId : UInt64) : Prop :=
  ∃ k other, i < k ∧ Sent calls k fromId toId other
    ∧ ∀ j, i < j → j < k → calls[j]? ≠ some (.takeInvites toId)

def effect (toId fromId : UInt64) : Call → History.Effect String
  | .invite _ sender recipient connection =>
    if binds sender recipient = true ∧ recipient = toId ∧ sender = fromId then .writes connection
    else .keeps
  | .takeInvites userId =>
    if Sqlite.bindable userId = true ∧ userId = toId then .erases fun _ => true else .keeps
  | .noteUser _ _ _ => .keeps

variable {db : InviteDb} {calls : List Call} {now : Int64} {userId fromId toId : UInt64}
  {connection : String} {i j : Nat}

theorem invitesTo_eq_nil (none_waits : db.invitesTo userId = []) :
    db.deleteInvites userId = db := by
  have stays : db.invite.filter (fun row => !decide (row.key.1 = userId)) = db.invite := by
    rw [List.filter_eq_self]
    intro row member
    have absent := List.filter_eq_nil_iff.mp none_waits row member
    have own : row.toId ≠ userId := by simpa using absent
    simp [InviteRow.key, own]
  rw [deleteInvites, Rows.delete, stays]

theorem takeInvites_db (binding : Sqlite.bindable userId = true) (db : InviteDb) :
    (takeInvites userId db).2 = db.deleteInvites userId := by
  rw [takeInvites, if_pos binding]
  dsimp only
  split
  next nothing =>
    rw [List.isEmpty_iff, List.map_eq_nil_iff] at nothing
    have empty : db.invitesTo userId = [] := by
      rw [← List.perm_nil, ← nothing]
      exact ((Rows.perm_inOrder _ _).trans (Rows.perm_inOrder _ _)).symm
    rw [invitesTo_eq_nil empty]
  next => rfl

theorem takeInvites_reply (binding : Sqlite.bindable userId = true) (db : InviteDb) :
    (takeInvites userId db).1
      = (Rows.inOrder InviteRow.createdAt (Rows.inOrder InviteRow.fromId (db.invitesTo userId))).map
        fun row =>
          { fromId := row.fromId, fromName := db.nameOf row.fromId, connection := row.connection } := by
  rw [takeInvites, if_pos binding]
  dsimp only
  split <;> rfl

theorem takeInvites_unbound (unbound : ¬Sqlite.bindable userId = true) (db : InviteDb) :
    takeInvites userId db = ([], db) := by
  rw [takeInvites, if_neg unbound]

theorem waiting_step (db : InviteDb) (call : Call) :
    (step db call).waiting toId fromId = (effect toId fromId call).on (db.waiting toId fromId) := by
  cases call with
  | invite now sender recipient connection =>
    rw [step, perform, invite, effect]
    dsimp only
    by_cases binding : binds sender recipient = true
    · rw [if_pos binding]
      by_cases same : recipient = toId ∧ sender = fromId
      · obtain ⟨rfl, rfl⟩ := same
        rw [if_pos ⟨binding, rfl, rfl⟩, waiting]
        have found := @Rows.find_upsert_self _ _ _ InviteRow.key
          ⟨recipient, sender, connection, now⟩ db.invite
        rw [show (recipient, sender) = InviteRow.key ⟨recipient, sender, connection, now⟩ from rfl,
          found]
        rfl
      · rw [if_neg fun all => same all.2, waiting, Rows.find_upsert_of_ne]
        · rfl
        · intro clash
          obtain ⟨rfl, rfl⟩ := Prod.mk.inj clash
          exact same ⟨rfl, rfl⟩
    · rw [if_neg binding, if_neg fun all => binding all.1, History.Effect.on]
  | takeInvites userId =>
    rw [step, perform, effect]
    by_cases binding : Sqlite.bindable userId = true
    · rw [takeInvites_db binding]
      by_cases same : userId = toId
      · subst same
        rw [if_pos ⟨binding, rfl⟩, History.Effect.on_erases_all, waiting, deleteInvites,
          Rows.find_delete_of_gone]
        · rfl
        · simp
      · rw [if_neg fun all => same all.2, waiting, deleteInvites, Rows.find_delete_of_stays]
        · rfl
        · simpa using Ne.symm same
    · rw [takeInvites_unbound binding, if_neg fun all => binding all.1, History.Effect.on]
  | noteUser now userId username => rfl

theorem distinct_step (db : InviteDb) (call : Call) (distinct : Rows.Distinct InviteRow.key db.invite) :
    Rows.Distinct InviteRow.key (step db call).invite := by
  cases call with
  | invite now sender recipient connection =>
    rw [step, perform, invite]
    split
    next => exact Rows.distinct_upsert distinct _
    next => exact distinct
  | takeInvites userId =>
    rw [step, perform]
    by_cases binding : Sqlite.bindable userId = true
    · rw [takeInvites_db binding]
      exact Rows.distinct_delete distinct fun key => decide (key.1 = userId)
    · rw [takeInvites_unbound binding]
      exact distinct
  | noteUser now userId username => exact distinct

theorem distinct_after (calls : List Call) : Rows.Distinct InviteRow.key (after calls).invite :=
  Runs.run_keeps distinct_step List.nodup_nil

theorem waiting_after (calls : List Call) (toId fromId : UInt64) :
    (after calls).waiting toId fromId
      = (History.latest (effect toId fromId) calls).map Prod.snd := by
  refine @History.read_run _ _ _ (effect toId fromId) calls step
    (fun db => db.waiting toId fromId) initialized rfl ?_
  intro first call rest _
  exact waiting_step _ call

theorem waiting_iff (distinct : Rows.Distinct InviteRow.key db.invite) :
    db.waiting toId fromId = some connection
      ↔ ∃ row ∈ db.invite, row.toId = toId ∧ row.fromId = fromId ∧ row.connection = connection := by
  rw [waiting, Option.map_eq_some_iff]
  constructor
  · rintro ⟨row, found, rfl⟩
    obtain ⟨member, same⟩ := distinct.find_iff.mp found
    obtain ⟨rfl, rfl⟩ := Prod.mk.inj same
    exact ⟨row, member, rfl, rfl, rfl⟩
  · rintro ⟨row, member, rfl, rfl, rfl⟩
    exact ⟨row, distinct.find_iff.mpr ⟨member, rfl⟩, rfl⟩

theorem mem_takeInvites (distinct : Rows.Distinct InviteRow.key db.invite) {entry : Invitation}
    (listed : entry ∈ (takeInvites userId db).1) :
    Sqlite.bindable userId = true ∧ db.waiting userId entry.fromId = some entry.connection := by
  by_cases binding : Sqlite.bindable userId = true
  · rw [takeInvites_reply binding, List.mem_map] at listed
    obtain ⟨row, member, rfl⟩ := listed
    rw [Rows.mem_inOrder, Rows.mem_inOrder] at member
    obtain ⟨present, own⟩ := List.mem_filter.mp member
    exact ⟨binding, (waiting_iff distinct).mpr ⟨row, present, of_decide_eq_true own, rfl, rfl⟩⟩
  · rw [takeInvites_unbound binding] at listed
    cases listed

theorem takeInvites_lists (binding : Sqlite.bindable userId = true)
    (distinct : Rows.Distinct InviteRow.key db.invite)
    (waits : db.waiting userId fromId = some connection) :
    ∃ entry ∈ (takeInvites userId db).1, entry.fromId = fromId ∧ entry.connection = connection := by
  obtain ⟨row, member, own, rfl, rfl⟩ := (waiting_iff distinct).mp waits
  rw [takeInvites_reply binding]
  refine ⟨_, List.mem_map_of_mem (Rows.mem_inOrder.mpr (Rows.mem_inOrder.mpr ?_)), rfl, rfl⟩
  exact List.mem_filter.mpr ⟨member, decide_eq_true own⟩

theorem takeInvites_nodup (distinct : Rows.Distinct InviteRow.key db.invite) :
    ((takeInvites userId db).1.map Invitation.fromId).Nodup := by
  by_cases binding : Sqlite.bindable userId = true
  · have senders : ((takeInvites userId db).1.map Invitation.fromId).Perm
        ((db.invitesTo userId).map InviteRow.fromId) := by
      rw [takeInvites_reply binding, List.map_map]
      exact ((Rows.perm_inOrder _ _).trans (Rows.perm_inOrder _ _)).map _
    rw [senders.nodup_iff]
    refine distinct.nodup_part _ InviteRow.fromId fun row old here there same => ?_
    rw [InviteRow.key, InviteRow.key, of_decide_eq_true here, of_decide_eq_true there, same]
  · rw [takeInvites_unbound binding]
    exact List.nodup_nil

theorem reply_of_takes (takes : calls[j]? = some (.takeInvites userId)) :
    reply calls j = (takeInvites userId (after (calls.take j))).1 := by
  rw [reply, takes]
  rfl

theorem after_take_succ {call : Call} (at_j : calls[j]? = some call) :
    after (calls.take (j + 1)) = step (after (calls.take j)) call := by
  rw [List.take_add_one, at_j, after, Runs.run_append]
  rfl

theorem effect_writes_iff {call : Call} :
    effect toId fromId call = .writes connection
      ↔ binds fromId toId = true ∧ ∃ now, call = .invite now fromId toId connection := by
  cases call with
  | invite now sender recipient other =>
    rw [effect]
    split
    next all =>
      obtain ⟨binding, rfl, rfl⟩ := all
      simp [binding]
    next none =>
      simp only [reduceCtorEq, false_iff]
      rintro ⟨binding, now', same⟩
      cases same
      exact none ⟨binding, rfl, rfl⟩
  | takeInvites userId =>
    rw [effect]
    split <;> simp
  | noteUser now userId username => simp [effect]

theorem spares_eq_false_iff {call : Call} :
    (effect toId fromId call).spares connection = false
      ↔ (∃ other, effect toId fromId call = .writes other)
        ∨ (Sqlite.bindable toId = true ∧ call = .takeInvites toId) := by
  cases call with
  | invite now sender recipient other =>
    rw [effect]
    split <;> simp [History.Effect.spares]
  | takeInvites userId =>
    rw [effect]
    split
    next own =>
      obtain ⟨binding, rfl⟩ := own
      simp [History.Effect.spares, binding]
    next other =>
      simp only [History.Effect.spares, Bool.true_eq_false, reduceCtorEq, exists_const,
        Call.takeInvites.injEq, false_or, false_iff]
      rintro ⟨binding, rfl⟩
      exact other ⟨binding, rfl⟩
  | noteUser now userId username => simp [effect, History.Effect.spares]

theorem recipient_binds (binding : binds fromId toId = true) : Sqlite.bindable toId = true :=
  (Bool.and_eq_true_iff.mp binding).2

theorem latest_iff :
    History.latest (effect toId fromId) calls = some (i, connection)
      ↔ Sent calls i fromId toId connection
        ∧ (∀ k other, i < k → ¬Sent calls k fromId toId other)
        ∧ ∀ k, i < k → calls[k]? ≠ some (.takeInvites toId) := by
  rw [History.latest_eq_some_iff]
  constructor
  · rintro ⟨⟨call, here, writes⟩, later⟩
    obtain ⟨binding, now, rfl⟩ := effect_writes_iff.mp writes
    refine ⟨⟨binding, now, here⟩, ?_, ?_⟩
    · rintro k other after ⟨_, now', there⟩
      have spared := later k _ after there
      rw [effect_writes_iff.mpr ⟨binding, now', rfl⟩] at spared
      cases spared
    · intro k after there
      have spared := later k _ after there
      rw [spares_eq_false_iff.mpr (.inr ⟨recipient_binds binding, rfl⟩)] at spared
      cases spared
  · rintro ⟨⟨binding, now, here⟩, current, untaken⟩
    refine ⟨⟨_, here, effect_writes_iff.mpr ⟨binding, now, rfl⟩⟩, fun k call after there => ?_⟩
    rw [← Bool.not_eq_false]
    intro ends
    rcases spares_eq_false_iff.mp ends with ⟨other, writes⟩ | ⟨_, rfl⟩
    next =>
      obtain ⟨_, now', rfl⟩ := effect_writes_iff.mp writes
      exact current k other after ⟨binding, now', there⟩
    next => exact untaken k after there

theorem sent_take_iff (before : i < j) :
    Sent (calls.take j) i fromId toId connection ↔ Sent calls i fromId toId connection := by
  rw [Sent, Sent, List.getElem?_take_of_lt before]

theorem latest_take_iff (before : i < j) :
    History.latest (effect toId fromId) (calls.take j) = some (i, connection)
      ↔ Sent calls i fromId toId connection
        ∧ (∀ k other, i < k → k < j → ¬Sent calls k fromId toId other)
        ∧ ∀ k, i < k → k < j → calls[k]? ≠ some (.takeInvites toId) := by
  rw [latest_iff, sent_take_iff before]
  refine and_congr_right fun _ => and_congr ⟨?_, ?_⟩ ⟨?_, ?_⟩
  · intro current k other after within sent
    exact current k other after ((sent_take_iff within).mpr sent)
  · rintro current k other after ⟨binding, now, there⟩
    have within : k < j := by
      have bound := (List.getElem?_eq_some_iff.mp there).1
      rw [List.length_take] at bound
      omega
    exact current k other after within ((sent_take_iff within).mp ⟨binding, now, there⟩)
  · intro untaken k after within there
    exact untaken k after (by rw [List.getElem?_take_of_lt within, there])
  · intro untaken k after there
    have within : k < j := by
      have bound := (List.getElem?_eq_some_iff.mp there).1
      rw [List.length_take] at bound
      omega
    rw [List.getElem?_take_of_lt within] at there
    exact untaken k after within there

theorem latest_take_lt (found : History.latest (effect toId fromId) (calls.take j)
    = some (i, connection)) : i < j := by
  have bound := History.latest_lt found
  rw [List.length_take] at bound
  omega

theorem latest_of_listed (takes : calls[j]? = some (.takeInvites toId)) {entry : Invitation}
    (listed : entry ∈ reply calls j) :
    ∃ i, History.latest (effect toId entry.fromId) (calls.take j) = some (i, entry.connection) := by
  rw [reply_of_takes takes] at listed
  have waits := (mem_takeInvites (distinct_after _) listed).2
  rw [waiting_after, Option.map_eq_some_iff] at waits
  obtain ⟨⟨i, _⟩, found, rfl⟩ := waits
  exact ⟨i, found⟩

theorem returned_of_latest (takes : calls[j]? = some (.takeInvites toId))
    (found : History.latest (effect toId fromId) (calls.take j) = some (i, connection)) :
    Returned calls i j fromId toId connection := by
  have before := latest_take_lt found
  obtain ⟨sent, current, _⟩ := (latest_take_iff before).mp found
  refine ⟨sent, before, takes, current, ?_⟩
  rw [reply_of_takes takes]
  refine takeInvites_lists (recipient_binds sent.1) (distinct_after _) ?_
  rw [waiting_after, found]
  rfl

theorem Returned.latest (returned : Returned calls i j fromId toId connection) :
    History.latest (effect toId fromId) (calls.take j) = some (i, connection) := by
  obtain ⟨entry, listed, rfl, rfl⟩ := returned.listed
  obtain ⟨i', found⟩ := latest_of_listed returned.takes listed
  have before := latest_take_lt found
  obtain ⟨sent, current, _⟩ := (latest_take_iff before).mp found
  rcases Nat.lt_trichotomy i i' with less | rfl | more
  next => exact absurd sent (returned.current i' _ less before)
  next => exact found
  next => exact absurd returned.sent (current i _ more returned.before)

theorem Returned.once {j' : Nat} (first : Returned calls i j fromId toId connection)
    (second : Returned calls i j' fromId toId connection) : ¬j < j' := by
  intro less
  have untaken := ((latest_take_iff second.before).mp second.latest).2.2
  exact untaken j first.before less first.takes

theorem Sent.accounted (sent : Sent calls i fromId toId connection) :
    (∃ j, Returned calls i j fromId toId connection) ∨ Waiting calls i fromId toId connection
      ∨ Replaced calls i fromId toId := by
  obtain ⟨binding, now, here⟩ := sent
  have writes : effect toId fromId (.invite now fromId toId connection) = .writes connection :=
    effect_writes_iff.mpr ⟨binding, now, rfl⟩
  rcases History.stands_or_ends here writes with stands | ⟨k, last, later, there, ends, stood⟩
  next =>
    refine .inr (.inl ⟨?_, (latest_iff.mp stands).2.1⟩)
    rw [← waiting_iff (distinct_after calls), waiting_after, stands]
    rfl
  next =>
    rcases spares_eq_false_iff.mp ends with ⟨other, rewrites⟩ | ⟨_, rfl⟩
    next =>
      obtain ⟨_, now', rfl⟩ := effect_writes_iff.mp rewrites
      refine .inr (.inr ⟨k, other, later, ⟨binding, now', there⟩, ?_⟩)
      exact ((latest_take_iff later).mp stood).2.2
    next => exact .inl ⟨k, returned_of_latest there stood⟩

theorem mem_deleteInvites {row : InviteRow} (other : row.toId ≠ userId) (db : InviteDb) :
    row ∈ (db.deleteInvites userId).invite ↔ row ∈ db.invite := by
  simp [deleteInvites, Rows.delete, InviteRow.key, other]

theorem mem_step_takeInvites {row : InviteRow} (other : row.toId ≠ userId) (db : InviteDb) :
    row ∈ (step db (.takeInvites userId)).invite ↔ row ∈ db.invite := by
  rw [step, perform]
  by_cases binding : Sqlite.bindable userId = true
  · rw [takeInvites_db binding, mem_deleteInvites other]
  · rw [takeInvites_unbound binding]

structure DeliveredOnce (calls : List Call) : Prop where
  -- what is returned was sent to the user it is returned to, with that connection
  genuine : ∀ j toId, calls[j]? = some (.takeInvites toId) → ∀ entry ∈ reply calls j,
    ∃ i, Returned calls i j entry.fromId toId entry.connection
  -- by one call at most, and once in its reply
  once : ∀ i j j' fromId toId connection, Returned calls i j fromId toId connection →
    Returned calls i j' fromId toId connection → j = j'
  single : ∀ j, ((reply calls j).map Invitation.fromId).Nodup
  accounted : ∀ i fromId toId connection, Sent calls i fromId toId connection →
    (∃ j, Returned calls i j fromId toId connection) ∨ Waiting calls i fromId toId connection
      ∨ Replaced calls i fromId toId
  -- the invitations to others stay
  others : ∀ j userId, calls[j]? = some (.takeInvites userId) → ∀ row : InviteRow,
    row.toId ≠ userId →
      (row ∈ (after (calls.take (j + 1))).invite ↔ row ∈ (after (calls.take j)).invite)

theorem invitations_delivered_once (calls : List Call) : DeliveredOnce calls where
  genuine j toId takes entry listed := by
    obtain ⟨i, found⟩ := latest_of_listed takes listed
    exact ⟨i, returned_of_latest takes found⟩
  once i j j' fromId toId connection first second := by
    have forth := first.once second
    have back := second.once first
    omega
  single j := by
    unfold reply
    split
    next call here =>
      cases call with
      | takeInvites userId => exact takeInvites_nodup (distinct_after _)
      | invite now sender recipient other => exact List.nodup_nil
      | noteUser now user username => exact List.nodup_nil
    next => exact List.nodup_nil
  accounted i fromId toId connection sent := sent.accounted
  others j userId takes row other := by
    rw [after_take_succ takes]
    exact mem_step_takeInvites other _

end Activity

end BitDemon
