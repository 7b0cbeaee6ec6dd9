import BitDemon.Library.History
import BitDemon.Lobby.LsgAuthentication
import Mathlib.Data.Set.Card

set_option autoImplicit false

/-!
# Who is reachable for messages

The recipients are kept by user and forgotten by session, so that a user who
has come back on another connection outlives the old one.
-/

namespace BitDemon

abbrev Recipients := Table UInt64 Recipient

namespace MessageRouter

def register (recipients : Recipients) (session : BdSession) : Recipients :=
  match session.authentication with
  | none => recipients
  | some auth => recipients.put auth.userId ⟨session.id, auth.sessionKey⟩

def unregister (recipients : Recipients) (session : BdSession) : Recipients :=
  recipients.retain fun r => r.session != session.id

def online (recipients : Recipients) : Nat := recipients.entries.length

inductive Call where
  | register (session : BdSession)
  | unregister (session : BdSession)
  deriving DecidableEq

def step (recipients : Recipients) : Call → Recipients
  | .register session => register recipients session
  | .unregister session => unregister recipients session

abbrev after (calls : List Call) : Recipients := Runs.run step ∅ calls

-- the user as whom a call registers its session
def Call.registers : Call → Option UInt64
  | .register session => session.authentication.map SessionAuthentication.userId
  | .unregister _ => none

structure Registered (calls : List Call) (i : Nat) (user : UInt64) (session : BdSession)
    (auth : SessionAuthentication) : Prop where
  registers : calls[i]? = some (.register session)
  authenticated : session.authentication = some auth
  owner : auth.userId = user
  last : ∀ k call, i < k → calls[k]? = some call → call.registers ≠ some user
  live : ∀ k other, i < k → calls[k]? = some (.unregister other) → other.id ≠ session.id

def Online (calls : List Call) (user : UInt64) : Prop :=
  ∃ i session auth, Registered calls i user session auth

def effect (user : UInt64) : Call → History.Effect Recipient
  | .register session =>
    match session.authentication with
    | none => .keeps
    | some auth =>
      if auth.userId = user then .writes ⟨session.id, auth.sessionKey⟩ else .keeps
  | .unregister session => .erases fun r => r.session == session.id

variable {recipients : Recipients} {calls : List Call} {call : Call} {user : UInt64}
  {session : BdSession} {recipient : Recipient} {i : Nat}

theorem get_step (recipients : Recipients) (call : Call) (user : UInt64) :
    (step recipients call).get user = (effect user call).on (recipients.get user) := by
  cases call with
  | register session =>
    rw [step, register, effect]
    split
    next => rfl
    next auth _ =>
      rw [Table.get_put]
      by_cases same : auth.userId = user
      · rw [if_pos same, if_pos same.symm, History.Effect.on]
      · rw [if_neg same, if_neg (Ne.symm same), History.Effect.on]
  | unregister session =>
    rw [step, unregister, Table.get_retain]
    rfl

theorem get_after (calls : List Call) (user : UInt64) :
    (after calls).get user = (History.latest (effect user) calls).map Prod.snd := by
  refine @History.read_run _ _ _ (effect user) calls step (fun recipients => recipients.get user) ∅
    (Table.get_empty user) ?_
  intro first call rest _
  exact get_step _ call user

theorem effect_writes_iff :
    effect user call = .writes recipient
      ↔ ∃ session auth, call = .register session ∧ session.authentication = some auth
        ∧ auth.userId = user ∧ recipient = ⟨session.id, auth.sessionKey⟩ := by
  cases call with
  | register session =>
    rw [effect]
    split
    next absent => simp [absent]
    next auth present =>
      by_cases same : auth.userId = user
      · simp [same, present, eq_comm]
      · simp [same, present]
  | unregister session => simp [effect]

theorem spares_iff :
    (effect user call).spares recipient = true
      ↔ call.registers ≠ some user
        ∧ ∀ other, call = .unregister other → other.id ≠ recipient.session := by
  cases call with
  | register session =>
    rw [effect, Call.registers]
    split
    next absent => simp [absent, History.Effect.spares]
    next auth present =>
      by_cases same : auth.userId = user <;> simp [same, present, History.Effect.spares]
  | unregister session =>
    rw [effect, History.Effect.spares, Bool.not_eq_true', beq_eq_false_iff_ne]
    constructor
    · intro apart
      refine ⟨by simp [Call.registers], ?_⟩
      rintro other ⟨⟩
      exact Ne.symm apart
    · rintro ⟨_, spared⟩
      exact Ne.symm (spared session rfl)

theorem latest_iff :
    History.latest (effect user) calls = some (i, recipient)
      ↔ ∃ session auth, Registered calls i user session auth
        ∧ recipient = ⟨session.id, auth.sessionKey⟩ := by
  rw [History.latest_eq_some_iff]
  constructor
  · rintro ⟨⟨call, here, writes⟩, later⟩
    obtain ⟨session, auth, rfl, authenticated, owner, rfl⟩ := effect_writes_iff.mp writes
    refine ⟨session, auth, ⟨here, authenticated, owner, ?_, ?_⟩, rfl⟩
    · intro k call after there
      exact (spares_iff.mp (later k call after there)).1
    · intro k other after there
      exact (spares_iff.mp (later k _ after there)).2 other rfl
  · rintro ⟨session, auth, registered, rfl⟩
    refine ⟨⟨_, registered.registers, effect_writes_iff.mpr
      ⟨session, auth, rfl, registered.authenticated, registered.owner, rfl⟩⟩, ?_⟩
    intro k call after there
    refine spares_iff.mpr ⟨registered.last k call after there, ?_⟩
    rintro other rfl
    exact registered.live k other after there

theorem get_after_iff :
    (after calls).get user = some recipient
      ↔ ∃ i session auth, Registered calls i user session auth
        ∧ recipient = ⟨session.id, auth.sessionKey⟩ := by
  rw [get_after, Option.map_eq_some_iff]
  constructor
  · rintro ⟨⟨i, _⟩, found, rfl⟩
    exact ⟨i, latest_iff.mp found⟩
  · rintro ⟨i, registered⟩
    exact ⟨_, latest_iff.mpr registered, rfl⟩

theorem online_eq_ncard (recipients : Recipients) :
    online recipients = {user | (recipients.get user).isSome = true}.ncard := by
  have reachable : {user | (recipients.get user).isSome = true}
      = ((recipients.keys.toFinset : Finset UInt64) : Set UInt64) := by
    ext user
    rw [Set.mem_ofPred_eq, Finset.mem_coe, List.mem_toFinset]
    exact AList.lookup_isSome
  rw [reachable, Set.ncard_coe_finset, List.toFinset_card_of_nodup recipients.keys_nodup, online]
  exact (List.length_map _).symm

structure HoldsLatest (calls : List Call) : Prop where
  entry : ∀ user recipient, (after calls).get user = some recipient
    ↔ ∃ i session auth, Registered calls i user session auth
      ∧ recipient = ⟨session.id, auth.sessionKey⟩
  counts : online (after calls) = {user | Online calls user}.ncard
  -- all entries the session owns are removed, and no other
  removes : ∀ session user, (after (calls ++ [.unregister session])).get user
    = if ((after calls).get user).any fun r => r.session == session.id then none
      else (after calls).get user

/-- The router holds the latest live registration of each user. -/
theorem router_holds_latest (calls : List Call) : HoldsLatest calls where
  entry user recipient := get_after_iff
  counts := by
    rw [online_eq_ncard]
    congr 1
    ext user
    rw [Set.mem_ofPred_eq, Set.mem_ofPred_eq, Option.isSome_iff_exists, Online]
    constructor
    · rintro ⟨recipient, found⟩
      obtain ⟨i, session, auth, registered, _⟩ := get_after_iff.mp found
      exact ⟨i, session, auth, registered⟩
    · rintro ⟨i, session, auth, registered⟩
      exact ⟨_, get_after_iff.mpr ⟨i, session, auth, registered, rfl⟩⟩
  removes session user := by
    rw [after, Runs.run_append, Runs.run_cons, Runs.run_nil, step, unregister, Table.get_retain]
    cases (Runs.run step ∅ calls).get user with
    | none => rfl
    | some recipient =>
      by_cases owned : recipient.session = session.id <;> simp [owned]

end MessageRouter

end BitDemon
