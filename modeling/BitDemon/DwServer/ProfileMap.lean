import BitDemon.DwServer.Profile
import BitDemon.Library.History
import BitDemon.Library.Rows

set_option autoImplicit false

/-!
# The profiles as a map

What the service keeps of each user, title and type is what was set last and not
deleted since, as long as SQLite takes the statement that deletes.
-/

namespace BitDemon

open Machine

-- no constraint of the table
def UserProfile.key (u : UserProfile) : UInt32 × UInt64 × UInt8 := (u.title, u.ownerId, u.profileType)

namespace DwProfileService

inductive Op where
  | setPublicProfile (data : List UInt8)
  | setPrivateProfile (data : List UInt8)
  | deleteProfile
  deriving DecidableEq

structure Call where
  session : BdSession
  user : SessionAuthentication
  authenticated : session.authentication = some user
  bound : Sqlite.bindable user.userId = true
  now : Int64
  op : Op

variable (sqlite : Sqlite)

def perform (call : Call) : Fallible ProfileDb (Answered Unit) :=
  match call.op with
  | .setPublicProfile data => setPublicProfile call.session data
  | .setPrivateProfile data => setPrivateProfile call.session data
  | .deleteProfile => deleteProfile sqlite call.session

def step (db : ProfileDb) (call : Call) : ProfileDb :=
  (exec (perform sqlite call) { db with now := call.now }).2

def initialized : ProfileDb := { userProfile := [], now := 0 }

abbrev after (calls : List Call) : ProfileDb := Runs.run (step sqlite) initialized calls

def effect (title : Title) (userId : UInt64) (profileType : ProfileType) (call : Call) :
    History.Effect (List UInt8) :=
  if call.user.title = title ∧ call.user.userId = userId then
    match call.op with
    | .setPublicProfile data => if profileType = .publicProfile then .writes data else .keeps
    | .setPrivateProfile data => if profileType = .privateProfile then .writes data else .keeps
    | .deleteProfile => .erases fun _ => true
  else
    .keeps

def lastSet (calls : List Call) (title : Title) (userId : UInt64) (profileType : ProfileType) :
    Option (List UInt8) :=
  (History.latest (effect title userId profileType) calls).map Prod.snd

def lastPublic (calls : List Call) (title : Title) (userIds : List UInt64) : List ProfileInfo :=
  userIds.filterMap fun userId =>
    (lastSet calls title userId .publicProfile).map fun data => { userId, data }

structure StoresMap (calls : List Call) : Prop where
  privateProfile : ∀ (session : BdSession) (user : SessionAuthentication),
    session.authentication = some user →
      exec (getPrivateProfile session) (after sqlite calls)
        = (.ok (match lastSet calls user.title user.userId .privateProfile with
            | some data => .ok { userId := user.userId, data }
            | none => .error .noProfileInfoFound), after sqlite calls)
  publicProfiles : ∀ (session : BdSession) (user : SessionAuthentication) (userIds : List UInt64),
    session.authentication = some user →
      exec (getPublicProfiles session userIds) (after sqlite calls)
        = (.ok (if lastPublic calls user.title userIds = [] ∧ userIds ≠ [] then
              .error .noProfileInfoFound
            else .ok (lastPublic calls user.title userIds)), after sqlite calls)
  single : Rows.Distinct UserProfile.key (after sqlite calls).userProfile

def owns (call : Call) (u : UserProfile) : Bool :=
  u.title == call.user.title.toU32 && u.ownerId == call.user.userId

def DeleteTaken (db : ProfileDb) (call : Call) : Prop :=
  call.op = .deleteProfile → sqlite.acceptsBareAlias = true ∨ ∀ u ∈ db.userProfile, owns call u = false

variable {sqlite} {db : ProfileDb} {call : Call} {title : Title} {userId : UInt64}
  {profileType : ProfileType} {data : List UInt8}

def cell (db : ProfileDb) (title : Title) (userId : UInt64) (profileType : ProfileType) :
    Option (List UInt8) :=
  (db.userProfile.find? (isProfile title.toU32 userId profileType)).map UserProfile.data

theorem isProfile_iff {titleNum : UInt32} {u : UserProfile} :
    isProfile titleNum userId profileType u = true
      ↔ u.key = (titleNum, userId, profileType.toU8) := by
  simp [isProfile, UserProfile.key, and_assoc]

theorem toU8_inj {a b : ProfileType} (same : a.toU8 = b.toU8) : a = b := by
  revert same
  cases a <;> cases b <;> decide

structure Sound (db : ProfileDb) : Prop where
  ids : (db.userProfile.map UserProfile.id).Nodup
  single : Rows.Distinct UserProfile.key db.userProfile
  types : ∀ u ∈ db.userProfile, ∃ profileType : ProfileType, u.profileType = profileType.toU8
  bound : ∀ u ∈ db.userProfile, Sqlite.bindable u.ownerId = true

theorem profileOf_eq (sound : Sound db) (title : Title) (userId : UInt64)
    (profileType : ProfileType) :
    profileOf db title.toU32 userId profileType
      = (cell db title userId profileType).map fun data => { userId, data } := by
  rw [profileOf, cell]
  split
  next => rw [Option.map_map]; rfl
  next unbound =>
    cases found : db.userProfile.find? (isProfile title.toU32 userId profileType) with
    | none => rfl
    | some u =>
      have key := isProfile_iff.mp (List.find?_some found)
      have owner : u.ownerId = userId := congrArg (fun key => key.2.1) key
      exact absurd (owner ▸ sound.bound u (List.mem_of_find?_eq_some found)) unbound

def updated (existing : UserProfile) (now : Int64) (data : List UInt8) (u : UserProfile) :
    UserProfile :=
  if u.id = existing.id then { u with modifiedAt := now, data } else u

theorem key_updated (existing : UserProfile) (now : Int64) (u : UserProfile) :
    (updated existing now data u).key = u.key := by
  unfold updated
  split <;> rfl

theorem id_updated (existing : UserProfile) (now : Int64) (u : UserProfile) :
    (updated existing now data u).id = u.id := by
  unfold updated
  split <;> rfl

def newProfile (db : ProfileDb) (user : SessionAuthentication) (profileType : ProfileType)
    (data : List UInt8) : UserProfile :=
  { id := Sqlite.nextRowId (db.userProfile.map UserProfile.id), title := user.title.toU32
    ownerId := user.userId, profileType := profileType.toU8
    createdAt := db.now, modifiedAt := db.now, data }

theorem exec_updateUserProfile (user : SessionAuthentication)
    (bound : Sqlite.bindable user.userId = true) (db : ProfileDb) :
    (∃ existing, db.userProfile.find? (isProfile user.title.toU32 user.userId profileType)
        = some existing
      ∧ exec (updateUserProfile user profileType data) db
        = (.ok (), { db with userProfile := db.userProfile.map (updated existing db.now data) }))
      ∨ (db.userProfile.find? (isProfile user.title.toU32 user.userId profileType) = none
        ∧ exec (updateUserProfile user profileType data) db
          = (.ok (), { db with
              userProfile := db.userProfile ++ [newProfile db user profileType data] })) := by
  rw [updateUserProfile, exec_bind_ok _ (exec_get db), if_pos bound]
  cases found : db.userProfile.find? (isProfile user.title.toU32 user.userId profileType) with
  | some existing => exact .inl ⟨existing, rfl, rfl⟩
  | none => exact .inr ⟨rfl, rfl⟩

-- what a call writes, and of which type
def Op.writes : Op → Option (ProfileType × List UInt8)
  | .setPublicProfile data => some (.publicProfile, data)
  | .setPrivateProfile data => some (.privateProfile, data)
  | .deleteProfile => none

theorem step_writes (writes : call.op.writes = some (profileType, data)) :
    step sqlite db call
      = (exec (updateUserProfile call.user profileType data) { db with now := call.now }).2 := by
  have ran := @exec_updateUserProfile profileType data call.user call.bound
    { db with now := call.now }
  rw [step, perform]
  cases does : call.op with
  | setPublicProfile other =>
    rw [does] at writes
    cases writes
    dsimp only
    rw [setPublicProfile, call.authenticated, unwrap_some, pure_bind, exec_bind]
    rcases ran with ⟨existing, _, ran⟩ | ⟨_, ran⟩ <;> rw [ran] <;> rfl
  | setPrivateProfile other =>
    rw [does] at writes
    cases writes
    dsimp only
    rw [setPrivateProfile, call.authenticated, unwrap_some, pure_bind, exec_bind]
    rcases ran with ⟨existing, _, ran⟩ | ⟨_, ran⟩ <;> rw [ran] <;> rfl
  | deleteProfile =>
    rw [does] at writes
    cases writes

theorem step_set (writes : call.op.writes = some (profileType, data)) (db : ProfileDb) :
    (∃ existing,
      db.userProfile.find? (isProfile call.user.title.toU32 call.user.userId profileType)
          = some existing
        ∧ (step sqlite db call).userProfile
          = db.userProfile.map (updated existing call.now data))
      ∨ (db.userProfile.find? (isProfile call.user.title.toU32 call.user.userId profileType) = none
        ∧ (step sqlite db call).userProfile
          = db.userProfile ++ [newProfile { db with now := call.now } call.user profileType data]) := by
  rw [step_writes writes]
  rcases @exec_updateUserProfile profileType data call.user call.bound { db with now := call.now }
    with ⟨existing, found, ran⟩ | ⟨missing, ran⟩
  next =>
    rw [ran]
    exact .inl ⟨existing, found, rfl⟩
  next =>
    rw [ran]
    exact .inr ⟨missing, rfl⟩

theorem step_delete (deletes : call.op = .deleteProfile) (db : ProfileDb) :
    (step sqlite db call).userProfile
      = if sqlite.acceptsBareAlias then db.userProfile.filter fun u => !owns call u
        else db.userProfile := by
  rw [step, perform, deletes]
  dsimp only
  rw [deleteProfile, call.authenticated, unwrap_some, pure_bind, call.bound, Bool.and_true]
  split
  next => rfl
  next => rfl

theorem step_delete_taken (deletes : call.op = .deleteProfile) (taken : DeleteTaken sqlite db call) :
    (step sqlite db call).userProfile = db.userProfile.filter fun u => !owns call u := by
  rw [step_delete deletes]
  split
  next => rfl
  next refused =>
    rcases taken deletes with accepts | nothing
    next => exact absurd accepts refused
    next =>
      symm
      rw [List.filter_eq_self]
      intro u member
      rw [nothing u member]
      rfl

theorem op_cases (op : Op) :
    op = .deleteProfile ∨ ∃ profileType data, op.writes = some (profileType, data) := by
  cases op with
  | setPublicProfile data => exact .inr ⟨.publicProfile, data, rfl⟩
  | setPrivateProfile data => exact .inr ⟨.privateProfile, data, rfl⟩
  | deleteProfile => exact .inl rfl

theorem Sound.sublist {rows : List UserProfile} (sound : Sound db)
    (part : rows.Sublist db.userProfile) {next : ProfileDb} (same : next.userProfile = rows) :
    Sound next where
  ids := by rw [same]; exact sound.ids.sublist (part.map _)
  single := by rw [same]; exact List.Nodup.sublist (part.map _) sound.single
  types u member := sound.types u (part.mem (same ▸ member))
  bound u member := sound.bound u (part.mem (same ▸ member))

theorem Sound.updated (sound : Sound db) (existing : UserProfile) (now : Int64)
    {next : ProfileDb} (after : next.userProfile = db.userProfile.map (updated existing now data)) :
    Sound next := by
  have kept {u : UserProfile} (member : u ∈ next.userProfile) :
      ∃ old ∈ db.userProfile, u.key = old.key := by
    rw [after] at member
    obtain ⟨old, present, rfl⟩ := List.mem_map.mp member
    exact ⟨old, present, key_updated _ _ old⟩
  constructor
  · have same : UserProfile.id ∘ BitDemon.DwProfileService.updated existing now data
        = UserProfile.id := funext fun u => id_updated existing now u
    rw [after, List.map_map, same]
    exact sound.ids
  · have same : UserProfile.key ∘ BitDemon.DwProfileService.updated existing now data
        = UserProfile.key := funext fun u => key_updated existing now u
    rw [after, Rows.Distinct, List.map_map, same]
    exact sound.single
  · intro u member
    obtain ⟨old, present, same⟩ := kept member
    have kind : u.profileType = old.profileType := congrArg (fun key => key.2.2) same
    rw [kind]
    exact sound.types old present
  · intro u member
    obtain ⟨old, present, same⟩ := kept member
    have owner : u.ownerId = old.ownerId := congrArg (fun key => key.2.1) same
    rw [owner]
    exact sound.bound old present

theorem Sound.added (sound : Sound db) {row : UserProfile} {next : ProfileDb}
    (after : next.userProfile = db.userProfile ++ [row])
    (id : row.id = Sqlite.nextRowId (db.userProfile.map UserProfile.id))
    (free : ∀ old ∈ db.userProfile, old.key ≠ row.key)
    (kind : ∃ profileType : ProfileType, row.profileType = profileType.toU8)
    (bound : Sqlite.bindable row.ownerId = true) : Sound next := by
  constructor
  · rw [after]
    refine Rows.distinct_append sound.ids fun old present => ?_
    rw [id]
    exact Nat.ne_of_lt (Sqlite.lt_nextRowId (List.mem_map_of_mem present))
  · rw [after]
    exact Rows.distinct_append sound.single free
  · intro u member
    rw [after] at member
    rcases List.mem_append.mp member with old | new
    next => exact sound.types u old
    next =>
      rw [List.mem_singleton.mp new]
      exact kind
  · intro u member
    rw [after] at member
    rcases List.mem_append.mp member with old | new
    next => exact sound.bound u old
    next =>
      rw [List.mem_singleton.mp new]
      exact bound

theorem sound_step (sound : Sound db) (call : Call) : Sound (step sqlite db call) := by
  rcases op_cases call.op with deletes | ⟨profileType, data, writes⟩
  next =>
    have after := @step_delete sqlite call deletes db
    split at after
    next => exact sound.sublist List.filter_sublist after
    next => exact sound.sublist (List.Sublist.refl _) after
  next =>
    rcases @step_set sqlite call profileType data writes db with ⟨existing, _, after⟩
      | ⟨missing, after⟩
    next => exact sound.updated existing call.now after
    next =>
      refine sound.added after rfl (fun old present same => ?_) ⟨profileType, rfl⟩ call.bound
      exact List.find?_eq_none.mp missing old present (isProfile_iff.mpr same)

theorem sound_initialized : Sound initialized where
  ids := List.nodup_nil
  single := List.nodup_nil
  types _ member := absurd member List.not_mem_nil
  bound _ member := absurd member List.not_mem_nil

theorem sound_after (calls : List Call) : Sound (after sqlite calls) :=
  @Runs.run_keeps _ _ (step sqlite) Sound (fun _ call sound => sound_step sound call) _ calls
    sound_initialized

theorem effect_delete (deletes : call.op = .deleteProfile) :
    effect title userId profileType call
      = if call.user.title = title ∧ call.user.userId = userId then .erases fun _ => true
        else .keeps := by
  rw [effect, deletes]

theorem effect_set {other : ProfileType} (writes : call.op.writes = some (other, data)) :
    effect title userId profileType call
      = if (call.user.title.toU32, call.user.userId, other.toU8)
            = (title.toU32, userId, profileType.toU8) then .writes data
        else .keeps := by
  have same : (call.user.title.toU32, call.user.userId, other.toU8)
        = (title.toU32, userId, profileType.toU8)
      ↔ (call.user.title = title ∧ call.user.userId = userId) ∧ profileType = other := by
    rw [Prod.mk.injEq, Prod.mk.injEq, ← and_assoc]
    refine and_congr (and_congr_left fun _ => ⟨Title.toU32_inj, congrArg _⟩) ⟨?_, ?_⟩
    · exact fun same => (toU8_inj same).symm
    · exact fun same => congrArg _ same.symm
  rw [if_congr same rfl rfl, effect]
  by_cases own : call.user.title = title ∧ call.user.userId = userId
  next =>
    rw [if_pos own]
    simp only [own, true_and]
    cases does : call.op <;> rw [does] at writes <;> cases writes <;> rfl
  next => rw [if_neg own, if_neg fun all => own all.1]

theorem find_updated (existing : UserProfile) (now : Int64) (rows : List UserProfile) :
    (rows.map (updated existing now data)).find? (isProfile title.toU32 userId profileType)
      = (rows.find? (isProfile title.toU32 userId profileType)).map (updated existing now data) := by
  rw [List.find?_map]
  have same : isProfile title.toU32 userId profileType ∘ updated existing now data
      = isProfile title.toU32 userId profileType := by
    funext u
    rw [Bool.eq_iff_iff, Function.comp_apply, isProfile_iff, isProfile_iff, key_updated]
  rw [same]

theorem isProfile_congr {titleNum : UInt32} {owner : UInt64} {other : ProfileType}
    (same : (titleNum, owner, other.toU8) = (title.toU32, userId, profileType.toU8)) :
    isProfile title.toU32 userId profileType = isProfile titleNum owner other := by
  funext u
  rw [Bool.eq_iff_iff, isProfile_iff, isProfile_iff, same]

theorem owns_iff {u : UserProfile} (profile : isProfile title.toU32 userId profileType u = true) :
    owns call u = true ↔ call.user.title = title ∧ call.user.userId = userId := by
  have key := isProfile_iff.mp profile
  have titled : u.title = title.toU32 := congrArg Prod.fst key
  have owner : u.ownerId = userId := congrArg (fun key => key.2.1) key
  rw [owns, Bool.and_eq_true, beq_iff_eq, beq_iff_eq, titled, owner]
  constructor
  · intro own
    exact ⟨(Title.toU32_inj own.1).symm, own.2.symm⟩
  · intro own
    rw [own.1, own.2]
    exact ⟨rfl, rfl⟩

theorem cell_delete (deletes : call.op = .deleteProfile) (taken : DeleteTaken sqlite db call) :
    cell (step sqlite db call) title userId profileType
      = (effect title userId profileType call).on (cell db title userId profileType) := by
  rw [cell, step_delete_taken deletes taken, effect_delete deletes]
  split
  next own =>
    rw [History.Effect.on_erases_all, Option.map_eq_none_iff, List.find?_eq_none]
    intro u member profile
    have stays := (List.mem_filter.mp member).2
    rw [(owns_iff profile).mpr own] at stays
    cases stays
  next foreign =>
    rw [History.Effect.on, cell, List.find?_filter]
    congr 2
    funext u
    cases profile : isProfile title.toU32 userId profileType u with
    | false => simp
    | true =>
      have stays : ¬owns call u = true := fun own => foreign ((owns_iff profile).mp own)
      simp [stays]

theorem cell_updated (sound : Sound db) {existing : UserProfile} {other : ProfileType}
    {next : ProfileDb}
    (found : db.userProfile.find? (isProfile call.user.title.toU32 call.user.userId other)
      = some existing)
    (after : next.userProfile = db.userProfile.map (updated existing call.now data)) :
    cell next title userId profileType
      = if (call.user.title.toU32, call.user.userId, other.toU8)
            = (title.toU32, userId, profileType.toU8) then some data
        else cell db title userId profileType := by
  rw [cell, cell, after, find_updated]
  split
  next same =>
    rw [isProfile_congr same, found]
    simp [updated]
  next apart =>
    cases read : db.userProfile.find? (isProfile title.toU32 userId profileType) with
    | none => rfl
    | some u =>
      have key := isProfile_iff.mp (List.find?_some read)
      have others : u.id ≠ existing.id := by
        intro clash
        have one := List.inj_on_of_nodup_map sound.ids (List.mem_of_find?_eq_some read)
          (List.mem_of_find?_eq_some found) clash
        rw [one, isProfile_iff.mp (List.find?_some found)] at key
        exact apart key
      simp [updated, others]

theorem cell_added {other : ProfileType} {row : UserProfile} {next : ProfileDb}
    (missing : db.userProfile.find? (isProfile call.user.title.toU32 call.user.userId other) = none)
    (after : next.userProfile = db.userProfile ++ [row])
    (key : row.key = (call.user.title.toU32, call.user.userId, other.toU8)) :
    cell next title userId profileType
      = if (call.user.title.toU32, call.user.userId, other.toU8)
            = (title.toU32, userId, profileType.toU8) then some row.data
        else cell db title userId profileType := by
  rw [cell, cell, after, List.find?_append]
  split
  next same =>
    have mine : isProfile title.toU32 userId profileType row = true :=
      isProfile_iff.mpr (key.trans same)
    rw [isProfile_congr same] at mine ⊢
    rw [missing, Option.none_or, List.find?_cons_of_pos mine, Option.map_some]
  next apart =>
    have foreign : ¬isProfile title.toU32 userId profileType row = true := fun profile =>
      apart (key.symm.trans (isProfile_iff.mp profile))
    rw [List.find?_cons_of_neg foreign, List.find?_nil, Option.or_none]

theorem cell_step (sound : Sound db) (taken : DeleteTaken sqlite db call) (title : Title)
    (userId : UInt64) (profileType : ProfileType) :
    cell (step sqlite db call) title userId profileType
      = (effect title userId profileType call).on (cell db title userId profileType) := by
  rcases op_cases call.op with deletes | ⟨other, data, writes⟩
  next => exact cell_delete deletes taken
  next =>
    rw [effect_set writes]
    rcases @step_set sqlite call other data writes db with ⟨existing, found, after⟩
      | ⟨missing, after⟩
    next =>
      rw [cell_updated sound found after]
      split
      next => rfl
      next => rfl
    next =>
      rw [cell_added missing after rfl]
      split
      next => rfl
      next => rfl

theorem cell_after {calls : List Call}
    (taken : ∀ first call rest, calls = first ++ call :: rest →
      DeleteTaken sqlite (after sqlite first) call)
    (title : Title) (userId : UInt64) (profileType : ProfileType) :
    cell (after sqlite calls) title userId profileType = lastSet calls title userId profileType := by
  refine @History.read_run _ _ _ (effect title userId profileType) calls (step sqlite)
    (fun db => cell db title userId profileType) initialized rfl ?_
  intro first call rest whole
  exact cell_step (sound_after first) (taken first call rest whole) title userId profileType

theorem storesMap_of_cells {calls : List Call}
    (cells : ∀ title userId profileType, cell (after sqlite calls) title userId profileType
      = lastSet calls title userId profileType) : StoresMap sqlite calls where
  privateProfile session user authenticated := by
    rw [getPrivateProfile, authenticated, unwrap_some, pure_bind, exec_bind_ok _ (exec_get _),
      profileOf_eq (sound_after calls), cells]
    cases lastSet calls user.title user.userId .privateProfile <;> rfl
  publicProfiles session user userIds authenticated := by
    have listed : (userIds.filterMap fun userId =>
        profileOf (after sqlite calls) user.title.toU32 userId .publicProfile)
          = lastPublic calls user.title userIds := by
      rw [lastPublic]
      congr 1
      funext userId
      rw [profileOf_eq (sound_after calls), cells]
    rw [getPublicProfiles, authenticated, unwrap_some, pure_bind, exec_bind_ok _ (exec_get _)]
    dsimp only
    rw [listed]
    cases lastPublic calls user.title userIds <;> cases userIds <;> rfl
  single := (sound_after calls).single

theorem cell_of_storesMap {calls : List Call} (map : StoresMap sqlite calls) (call : Call)
    (profileType : ProfileType) :
    cell (after sqlite calls) call.user.title call.user.userId profileType
      = lastSet calls call.user.title call.user.userId profileType := by
  cases profileType with
  | privateProfile =>
    have read := map.privateProfile call.session call.user call.authenticated
    rw [getPrivateProfile, call.authenticated, unwrap_some, pure_bind, exec_bind_ok _ (exec_get _),
      profileOf_eq (sound_after calls)] at read
    revert read
    cases cell (after sqlite calls) call.user.title call.user.userId .privateProfile <;>
      cases lastSet calls call.user.title call.user.userId .privateProfile <;> intro read <;>
      cases read <;> rfl
  | publicProfile =>
    have read := map.publicProfiles call.session call.user [call.user.userId] call.authenticated
    rw [getPublicProfiles, call.authenticated, unwrap_some, pure_bind, exec_bind_ok _ (exec_get _),
      lastPublic, List.filterMap_cons, List.filterMap_cons, profileOf_eq (sound_after calls)] at read
    revert read
    cases cell (after sqlite calls) call.user.title call.user.userId .publicProfile <;>
      cases lastSet calls call.user.title call.user.userId .publicProfile <;> intro read <;>
      cases read <;> rfl

theorem lastSet_delete (deletes : call.op = .deleteProfile) (calls : List Call)
    (profileType : ProfileType) :
    lastSet (calls ++ [call]) call.user.title call.user.userId profileType = none := by
  have erases := @effect_delete call call.user.title call.user.userId profileType deletes
  rw [if_pos ⟨rfl, rfl⟩] at erases
  rw [lastSet, History.latest_concat (by simp [erases]), erases]
  cases History.latest (effect call.user.title call.user.userId profileType) calls <;> rfl

theorem deleteTaken_of_storesMap {calls : List Call} (map : StoresMap sqlite (calls ++ [call])) :
    DeleteTaken sqlite (after sqlite calls) call := by
  intro deletes
  by_contra refused
  rw [not_or] at refused
  obtain ⟨refuses, remains⟩ := refused
  push Not at remains
  obtain ⟨u, member, own⟩ := remains
  rw [ne_eq, Bool.not_eq_false, owns, Bool.and_eq_true, beq_iff_eq, beq_iff_eq] at own
  obtain ⟨profileType, kind⟩ := (sound_after calls).types u member
  have read := cell_of_storesMap map call profileType
  rw [lastSet_delete deletes, cell, Option.map_eq_none_iff, List.find?_eq_none] at read
  refine read u ?_ (isProfile_iff.mpr ?_)
  · rw [after, Runs.run_append, Runs.run_cons, Runs.run_nil, step_delete deletes, if_neg refuses]
    exact member
  · rw [UserProfile.key, own.1, own.2, kind]

/--
After every call the service answers as the map does, exactly if each delete is
taken by SQLite or finds nothing to delete.
-/
theorem stores_map_iff (sqlite : Sqlite) (calls : List Call) :
    (∀ first rest, calls = first ++ rest → StoresMap sqlite first)
      ↔ ∀ first call rest, calls = first ++ call :: rest →
        DeleteTaken sqlite (after sqlite first) call := by
  constructor
  · intro always first call rest whole
    refine deleteTaken_of_storesMap (always (first ++ [call]) rest ?_)
    rw [whole, List.append_assoc, List.singleton_append]
  · intro taken first rest whole
    refine storesMap_of_cells fun title userId profileType => ?_
    refine cell_after (fun front call back split => ?_) title userId profileType
    exact taken front call (back ++ rest) (by rw [whole, split, List.append_assoc, List.cons_append])

def seven : BdSession :=
  { id := 1, authentication := some ⟨7, "player", [], .t6Pc⟩, peerAddr := none }

def setsAndDeletes : List Call :=
  [⟨seven, ⟨7, "player", [], .t6Pc⟩, rfl, by decide, 5, .setPrivateProfile [1]⟩,
    ⟨seven, ⟨7, "player", [], .t6Pc⟩, rfl, by decide, 6, .deleteProfile⟩]

theorem deleted_profile_stays :
    (exec (getPrivateProfile seven) (after ⟨false⟩ setsAndDeletes)).1
        = .ok (.ok { userId := 7, data := [1] })
      ∧ ¬StoresMap ⟨false⟩ setsAndDeletes := by
  refine ⟨rfl, fun map => ?_⟩
  have read := map.privateProfile seven ⟨7, "player", [], .t6Pc⟩ rfl
  cases congrArg Prod.fst read

end DwProfileService

end BitDemon
