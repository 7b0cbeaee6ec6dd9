import Mathlib.Data.List.Infix

set_option autoImplicit false

/-!
# Decoders that are fed in pieces

A call of a decoder is given some input and some room for output. What it leaves
unread is given to it again.
-/

namespace StreamDecoder

variable {ε σ α β : Type}

/-- What a call does: it reads no more than it is given and writes no more than there is room. -/
structure Portion (σ β : Type) (given room : Nat) where
  read : Nat
  written : List β
  next : σ
  read_le : read ≤ given
  written_le : written.length ≤ room

abbrev Decoder (ε σ α β : Type) :=
  σ → (input : List α) → (room : Nat) → Except ε (Portion σ β input.length room)

/-- The states of a decoder, with the input it has read, all it was given and what it has written. -/
inductive Reached (decoder : Decoder ε σ α β) (start : σ) : σ → List α → List α → List β → Prop where
  | start : Reached decoder start start [] [] []
  | call {s : σ} {used given input : List α} {out : List β} {room : Nat}
      {portion : Portion σ β input.length room} (before : Reached decoder start s used given out)
      (again : given <+: used ++ input) (ran : decoder s input room = .ok portion) :
      Reached decoder start portion.next (used ++ input.take portion.read) (used ++ input)
        (out ++ portion.written)

/--
What a decoder makes of an input, in whatever pieces it is given. It may write before it has
read what it is given, and leave the end of that for the next call.
-/
structure Decodes (decoder : Decoder ε σ α β) (start : σ) (decodable : List α → List β)
    (body : List α) : Prop where
  nothing : decodable [] = []
  accepts : ∀ s used given out input room, Reached decoder start s used given out →
    given <+: used ++ input → used ++ input <+: body → input ≠ [] → 0 < room →
    ∃ portion, decoder s input room = .ok portion
  output : ∀ s used given out, Reached decoder start s used given out → given <+: body →
    out <+: decodable body
  progress : ∀ s used given out input room portion, Reached decoder start s used given out →
    given <+: used ++ input → used ++ input <+: body → input ≠ [] → 0 < room →
    decoder s input room = .ok portion → 0 < portion.read ∨ portion.written ≠ []
  unfilled : ∀ s used given out input room portion, Reached decoder start s used given out →
    given <+: used ++ input → used ++ input <+: body → decoder s input room = .ok portion →
    portion.written.length < room → portion.read = input.length →
    out ++ portion.written = decodable (used ++ input)

def Portion.map {τ : Type} {given room : Nat} (f : σ → τ) (portion : Portion σ β given room) :
    Portion τ β given room where
  read := portion.read
  written := portion.written
  next := f portion.next
  read_le := portion.read_le
  written_le := portion.written_le

section Embed

variable {δ τ : Type} {decoder : Decoder ε σ α β} {other : Decoder δ τ α β} {f : σ → τ} {g : ε → δ}

def Follows (decoder : Decoder ε σ α β) (other : Decoder δ τ α β) (f : σ → τ) (g : ε → δ) : Prop :=
  ∀ s input room, other (f s) input room
    = match decoder s input room with
      | .ok portion => .ok (portion.map f)
      | .error e => .error (g e)

theorem Follows.ok (follows : Follows decoder other f g) {s : σ} {input : List α} {room : Nat}
    {portion : Portion τ β input.length room} (ran : other (f s) input room = .ok portion) :
    ∃ original, decoder s input room = .ok original ∧ portion = original.map f := by
  rw [follows s input room] at ran
  cases called : decoder s input room with
  | ok original =>
    rw [called] at ran
    exact ⟨original, rfl, (Except.ok.inj ran).symm⟩
  | error e =>
    rw [called] at ran
    cases ran

theorem reached_embed (follows : Follows decoder other f g) {start : σ} {t : τ} {used given : List α}
    {out : List β} (reached : Reached other (f start) t used given out) :
    ∃ s, t = f s ∧ Reached decoder start s used given out := by
  induction reached with
  | start => exact ⟨start, rfl, .start⟩
  | call before again ran ih =>
    obtain ⟨s, rfl, sofar⟩ := ih
    obtain ⟨original, called, rfl⟩ := follows.ok ran
    exact ⟨original.next, rfl, .call sofar again called⟩

theorem Decodes.embed (follows : Follows decoder other f g) {start : σ} {decodable : List α → List β}
    {body : List α} (decodes : Decodes decoder start decodable body) :
    Decodes other (f start) decodable body where
  nothing := decodes.nothing
  accepts := by
    intro t used given out input room reached again whole some wanted
    obtain ⟨s, rfl, sofar⟩ := reached_embed follows reached
    obtain ⟨portion, ran⟩ := decodes.accepts s used given out input room sofar again whole some wanted
    exact ⟨portion.map f, by rw [follows s input room, ran]⟩
  output := by
    intro t used given out reached whole
    obtain ⟨s, rfl, sofar⟩ := reached_embed follows reached
    exact decodes.output s used given out sofar whole
  progress := by
    intro t used given out input room portion reached again whole some wanted ran
    obtain ⟨s, rfl, sofar⟩ := reached_embed follows reached
    obtain ⟨original, called, rfl⟩ := follows.ok ran
    exact decodes.progress s used given out input room original sofar again whole some wanted called
  unfilled := by
    intro t used given out input room portion reached again whole ran short all
    obtain ⟨s, rfl, sofar⟩ := reached_embed follows reached
    obtain ⟨original, called, rfl⟩ := follows.ok ran
    exact decodes.unfilled s used given out input room original sofar again whole called short all

end Embed

/-- As much is handed on as there is room for. -/
def copy : Decoder Empty Unit α α := fun _ input room =>
  .ok
    { read := min room input.length
      written := input.take (min room input.length)
      next := ()
      read_le := Nat.min_le_right _ _
      written_le := by
        rw [List.length_take]
        omega }

theorem reached_copy {start s : Unit} {used given out : List α}
    (reached : Reached copy start s used given out) : out = used ∧ used <+: given := by
  induction reached with
  | start => exact ⟨rfl, List.prefix_rfl⟩
  | @call s used given input out room portion before again ran ih =>
    cases ran
    exact ⟨by rw [ih.1], (List.prefix_append_right_inj used).mpr (List.take_prefix _ _)⟩

theorem decodes_copy (body : List α) : Decodes copy () (fun input : List α => input) body where
  nothing := rfl
  accepts _ _ _ _ _ _ _ _ _ _ _ := ⟨_, rfl⟩
  output s used given out reached whole := by
    obtain ⟨rfl, front⟩ := reached_copy reached
    exact front.trans whole
  progress s used given out input room portion _ _ _ some wanted ran := by
    cases ran
    have given := List.length_pos_of_ne_nil some
    left
    dsimp only
    omega
  unfilled s used given out input room portion reached _ _ ran _ all := by
    cases ran
    dsimp only at all ⊢
    rw [(reached_copy reached).1, all, List.take_length]

/-- It reads all it is given, and writes later what there is no room for now. -/
def buffered (begins : List α → Bool) (decodable : List α → List β) :
    Decoder Unit (List α × List β) α β := fun s input room =>
  if begins (s.1 ++ input) then
    .ok
      { read := input.length
        written := ((decodable (s.1 ++ input)).drop s.2.length).take room
        next := (s.1 ++ input, s.2 ++ ((decodable (s.1 ++ input)).drop s.2.length).take room)
        read_le := Nat.le_refl _
        written_le := List.length_take_le _ _ }
  else
    .error ()

section Buffered

variable {begins : List α → Bool} {decodable : List α → List β}

theorem drop_take_prefix {out whole : List β} (room : Nat) (starts : out <+: whole) :
    out ++ (whole.drop out.length).take room <+: whole := by
  obtain ⟨rest, rfl⟩ := starts
  rw [List.drop_left]
  exact (List.prefix_append_right_inj out).mpr (List.take_prefix room rest)

theorem drop_take_all {out whole : List β} {room : Nat} (starts : out <+: whole)
    (short : ((whole.drop out.length).take room).length < room) :
    out ++ (whole.drop out.length).take room = whole := by
  obtain ⟨rest, rfl⟩ := starts
  rw [List.drop_left, List.length_take] at short
  rw [List.drop_left, List.take_of_length_le (by omega)]

theorem reached_buffered (grows : ∀ first second, first <+: second → decodable first <+: decodable second)
    {s : List α × List β} {used given : List α} {out : List β}
    (reached : Reached (buffered begins decodable) ([], []) s used given out) :
    s = (used, out) ∧ used = given ∧ out <+: decodable used := by
  induction reached with
  | start => exact ⟨rfl, rfl, List.nil_prefix⟩
  | @call s used given input out room portion before again ran ih =>
    obtain ⟨rfl, -, sofar⟩ := ih
    unfold buffered at ran
    split at ran
    next =>
      cases ran
      rw [List.take_length]
      have more : out <+: decodable (used ++ input) :=
        sofar.trans (grows used (used ++ input) (List.prefix_append used input))
      exact ⟨rfl, rfl, drop_take_prefix room more⟩
    next => cases ran

theorem decodes_buffered {body : List α} (nothing : decodable [] = [])
    (grows : ∀ first second, first <+: second → decodable first <+: decodable second)
    (fits : ∀ used, used <+: body → begins used = true) :
    Decodes (buffered begins decodable) ([], []) decodable body where
  nothing := nothing
  accepts s used given out input room reached _ whole _ _ := by
    obtain ⟨rfl, -⟩ := reached_buffered grows reached
    exact ⟨_, if_pos (fits _ whole)⟩
  output s used given out reached whole := by
    obtain ⟨-, rfl, sofar⟩ := reached_buffered grows reached
    exact sofar.trans (grows used body whole)
  progress s used given out input room portion reached _ whole some _ ran := by
    obtain ⟨rfl, -⟩ := reached_buffered grows reached
    rw [buffered, if_pos (fits _ whole)] at ran
    cases ran
    exact .inl (List.length_pos_of_ne_nil some)
  unfilled s used given out input room portion reached _ whole ran short _ := by
    obtain ⟨rfl, -, sofar⟩ := reached_buffered grows reached
    rw [buffered, if_pos (fits _ whole)] at ran
    cases ran
    have more : out <+: decodable (used ++ input) :=
      sofar.trans (grows used (used ++ input) (List.prefix_append used input))
    exact drop_take_all more short

end Buffered

end StreamDecoder
