import BitDemon.DwServer.Social.Revisions
import BitDemon.Library.History

set_option autoImplicit false

/-!
# The statements in their order

Every statement holds the lock of the database, so that the statements of all
tasks stand in one order whatever the interleaving.
-/

namespace BitDemon

namespace Social

open SocialDb

inductive Statement where
  -- the statements of one call hold the lock together
  | act (call : Friends.Call)
  | recordUser (now : Int64) (userId : UInt64) (username : String)
  | recordActivity (now : Int64) (userId : UInt64) (connection : String)
  | deleteActivity (userId : UInt64)
  deriving DecidableEq

def execute (db : SocialDb) : Statement → SocialDb
  | .act call => Friends.step db call
  | .recordUser now userId username => db.recordUser now userId username
  | .recordActivity now userId connection => db.recordActivity now userId connection
  | .deleteActivity userId => db.deleteActivity userId

abbrev executed (statements : List Statement) : SocialDb := Runs.run execute .initialized statements

def Task.statements : Task → List Statement
  | .begin (.act call) => [.act call]
  | .begin (.clearActivity userId) => [.deleteActivity userId]
  | .recordUser now userId username _ => [.recordUser now userId username]
  | .recordActivity now userId connection _ => [.recordActivity now userId connection]
  | _ => []

namespace Server

def stepStatements (s : Server) : Action → List Statement
  | .advance id => (s.tasks.get id).elim [] Task.statements
  | _ => []

def statements (epoch : UInt64) : Server → List Action → List Statement
  | _, [] => []
  | s, action :: actions => s.stepStatements action ++ statements epoch (step epoch s action) actions

end Server

variable {epoch : UInt64} {w w' : World} {task : Task} {left : Option Task}

theorem db_next (went : next epoch w task = some (w', left)) :
    w'.db = Runs.run execute w.db task.statements := by
  cases task with
  | begin op =>
    cases op with
    | act call =>
      have same : (Friends.perform w.db call).2 = Friends.step w.db call := rfl
      rw [next] at went
      split at went
      all_goals
        next did =>
          obtain ⟨rfl, rfl⟩ := Prod.mk.inj (Option.some.inj went)
          rw [did] at same
          exact same
    | _ =>
      obtain ⟨rfl, rfl⟩ := Prod.mk.inj (Option.some.inj went)
      rfl
  | bumpWatchers users =>
    cases users with
    | _ =>
      obtain ⟨rfl, rfl⟩ := Prod.mk.inj (Option.some.inj went)
      rfl
  | bump users rest =>
    obtain ⟨revisions, counted, made⟩ := Option.map_eq_some_iff.mp went
    obtain ⟨rfl, rfl⟩ := Prod.mk.inj made
    rfl
  | _ =>
    obtain ⟨rfl, rfl⟩ := Prod.mk.inj (Option.some.inj went)
    rfl

theorem statements_of_panic (panics : next epoch w task = none) : task.statements = [] := by
  cases task with
  | begin op =>
    cases op with
    | act call =>
      rw [next] at panics
      split at panics <;> cases panics
    | _ => cases panics
  | bumpWatchers users => rfl
  | bump users rest => rfl
  | _ => first | rfl | cases panics

namespace Server

theorem db_step (s : Server) (action : Action) :
    (step epoch s action).world.db = Runs.run execute s.world.db (s.stepStatements action) := by
  cases action with
  | start id op =>
    rw [step]
    split <;> rfl
  | elapse time => rfl
  | advance id =>
    rw [step, stepStatements]
    split
    next idle => rw [idle]; rfl
    next task running =>
      rw [running, Option.elim_some]
      split
      next panics => rw [statements_of_panic panics]; rfl
      next world left went => exact db_next went

theorem db_run (s : Server) (actions : List Action) :
    (Runs.run (step epoch) s actions).world.db
      = Runs.run execute s.world.db (statements epoch s actions) := by
  induction actions generalizing s with
  | nil => rfl
  | cons action actions ih => rw [Runs.run_cons, ih, statements, Runs.run_append, db_step]

theorem db_after (epoch : UInt64) (actions : List Action) :
    (after epoch actions).world.db = executed (statements epoch initialized actions) :=
  db_run initialized actions

end Server

def Statement.call? : Statement → Option Friends.Call
  | .act call => some call
  | _ => none

def calls (statements : List Statement) : List Friends.Call := statements.filterMap Statement.call?

theorem execute_friends {db : SocialDb} {statement : Statement} (other : statement.call? = none) :
    (execute db statement).friend = db.friend
      ∧ (execute db statement).friendRequest = db.friendRequest := by
  cases statement with
  | act call => cases other
  | recordUser now userId username =>
    rw [execute, recordUser]
    split <;> exact ⟨rfl, rfl⟩
  | recordActivity now userId connection =>
    rw [execute, recordActivity]
    split <;> exact ⟨rfl, rfl⟩
  | deleteActivity userId => exact ⟨rfl, rfl⟩

theorem executed_concat (statements : List Statement) (statement : Statement) :
    executed (statements ++ [statement]) = execute (executed statements) statement := by
  rw [executed, Runs.run_append, Runs.run_cons, Runs.run_nil]

theorem calls_concat (statements : List Statement) (statement : Statement) :
    calls (statements ++ [statement]) = calls statements ++ statement.call?.toList := by
  rw [calls, List.filterMap_append]
  cases named : statement.call? <;> simp [named, calls]

theorem sound_executed (statements : List Statement) :
    Friends.Sound (calls statements) (executed statements) := by
  induction statements using List.reverseRecOn with
  | nil => exact Friends.sound_initialized
  | append_singleton statements statement ih =>
    rw [executed_concat, calls_concat]
    cases named : statement.call? with
    | none =>
      obtain ⟨friend, friendRequest⟩ := @execute_friends (executed statements) statement named
      rw [Option.toList_none, List.append_nil]
      exact Server.sound_of_tables ih friend friendRequest
    | some call =>
      obtain rfl : statement = .act call := by
        cases statement <;> simp_all [Statement.call?]
      exact Friends.sound_step ih call

variable {statement : Statement} {db : SocialDb} {userId : UInt64}

def activityEffect (userId : UInt64) : Statement → History.Effect String
  | .recordActivity _ user connection =>
    if Sqlite.bindable user = true ∧ user = userId then .writes connection else .keeps
  | .deleteActivity user => if user = userId then .erases fun _ => true else .keeps
  | _ => .keeps

def knownRow (db : SocialDb) (userId : UInt64) : Option KnownUserRow :=
  Rows.find KnownUserRow.userId userId db.knownUser

def nameEffect (userId : UInt64) : Statement → History.Effect KnownUserRow
  | .recordUser now user username =>
    if Sqlite.bindable user = true ∧ user = userId then .writes ⟨user, username, now⟩ else .keeps
  | _ => .keeps

theorem activityOf_execute (db : SocialDb) (statement : Statement) (userId : UInt64) :
    (execute db statement).activityOf userId
      = (activityEffect userId statement).on (db.activityOf userId) := by
  cases statement with
  | act call =>
    have same : (execute db (.act call)).activity = db.activity := (perform_people db call).2
    rw [activityOf, same]
    rfl
  | recordUser now user username =>
    rw [execute, recordUser]
    split <;> rfl
  | recordActivity now user connection =>
    by_cases own : user = userId
    next =>
      subst own
      rw [execute, recordActivity, activityEffect]
      by_cases binding : Sqlite.bindable user = true
      next =>
        have found := @Rows.find_upsert_self _ _ _ ActivityRow.userId ⟨user, connection, now⟩
          db.activity
        rw [if_pos binding, if_pos ⟨binding, rfl⟩, activityOf, found]
        rfl
      next =>
        rw [if_neg binding, if_neg fun both => binding both.1]
        rfl
    next =>
      rw [execute, activityOf_recordActivity_of_ne (Ne.symm own), activityEffect,
        if_neg fun both => own both.2]
      rfl
  | deleteActivity user =>
    rw [execute, activityEffect]
    by_cases own : user = userId
    next =>
      subst own
      rw [if_pos rfl, History.Effect.on_erases_all, activityOf, deleteActivity,
        Rows.find_delete_of_gone (by simp)]
      rfl
    next =>
      rw [if_neg own, activityOf_deleteActivity_of_ne (Ne.symm own)]
      rfl

theorem knownRow_execute (db : SocialDb) (statement : Statement) (userId : UInt64) :
    knownRow (execute db statement) userId
      = (nameEffect userId statement).on (knownRow db userId) := by
  cases statement with
  | act call =>
    have same : (execute db (.act call)).knownUser = db.knownUser := (perform_people db call).1
    rw [knownRow, same]
    rfl
  | recordUser now user username =>
    rw [execute, recordUser, nameEffect]
    by_cases binding : Sqlite.bindable user = true
    next =>
      rw [if_pos binding]
      by_cases own : user = userId
      next =>
        subst own
        rw [if_pos ⟨binding, rfl⟩]
        exact @Rows.find_upsert_self _ _ _ KnownUserRow.userId ⟨user, username, now⟩ db.knownUser
      next =>
        rw [if_neg fun both => own both.2]
        exact Rows.find_upsert_of_ne (Ne.symm own) db.knownUser
    next =>
      rw [if_neg binding, if_neg fun both => binding both.1]
      rfl
  | recordActivity now user connection =>
    rw [execute, recordActivity]
    split <;> rfl
  | deleteActivity user => rfl

theorem activityOf_executed (statements : List Statement) (userId : UInt64) :
    (executed statements).activityOf userId
      = (History.latest (activityEffect userId) statements).map Prod.snd :=
  @History.read_run _ _ _ (activityEffect userId) statements execute
    (fun db => db.activityOf userId) .initialized rfl fun _ statement _ _ =>
    activityOf_execute _ statement userId

theorem knownRow_executed (statements : List Statement) (userId : UInt64) :
    knownRow (executed statements) userId
      = (History.latest (nameEffect userId) statements).map Prod.snd :=
  @History.read_run _ _ _ (nameEffect userId) statements execute
    (fun db => knownRow db userId) .initialized rfl fun _ statement _ _ =>
    knownRow_execute _ statement userId

theorem distinct_known (statements : List Statement) :
    Rows.Distinct KnownUserRow.userId (executed statements).knownUser := by
  refine @Runs.run_keeps _ _ execute (fun db => Rows.Distinct KnownUserRow.userId db.knownUser)
    (fun db statement distinct => ?_) _ _ List.nodup_nil
  cases statement with
  | act call =>
    have same : (execute db (.act call)).knownUser = db.knownUser := (perform_people db call).1
    rwa [same]
  | recordUser now user username =>
    rw [execute, recordUser]
    split
    next => exact Rows.distinct_upsert distinct _
    next => exact distinct
  | recordActivity now user connection =>
    rw [execute, recordActivity]
    split <;> exact distinct
  | deleteActivity user => exact distinct

end Social

end BitDemon
