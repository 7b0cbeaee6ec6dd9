import BitDemon.Library.Runs
import Mathlib.Data.List.Induction

set_option autoImplicit false

/-!
# Cells and their histories

An input leaves a cell as it is, writes it, or erases what passes a test. What
the cell holds is the last write, if nothing erased it since.
-/

namespace History

inductive Effect (α : Type) where
  | keeps
  | writes (value : α)
  | erases (test : α → Bool)

variable {σ ι α : Type}

namespace Effect

def on (effect : Effect α) (cell : Option α) : Option α :=
  match effect with
  | .keeps => cell
  | .writes value => some value
  | .erases test => cell.filter fun value => !test value

-- a cell that holds the value holds it afterwards, from the same write
def spares (value : α) : Effect α → Bool
  | .keeps => true
  | .writes _ => false
  | .erases test => !test value

theorem on_erases_all (cell : Option α) : (Effect.erases fun _ => true).on cell = none := by
  cases cell <;> rfl

end Effect

-- of a history with the newest input first
def newest (effect : ι → Effect α) : List ι → Option (Nat × α)
  | [] => none
  | input :: earlier =>
    match effect input with
    | .keeps => newest effect earlier
    | .writes value => some (earlier.length, value)
    | .erases test => (newest effect earlier).filter fun found => !test found.2

def latest (effect : ι → Effect α) (history : List ι) : Option (Nat × α) :=
  newest effect history.reverse

variable {effect : ι → Effect α} {history : List ι} {input : ι} {value : α} {i k : Nat}

@[simp] theorem latest_nil : latest effect [] = none := rfl

theorem latest_writes (writes : effect input = .writes value) :
    latest effect (history ++ [input]) = some (history.length, value) := by
  rw [latest, List.reverse_concat, newest, writes]
  simp only [List.length_reverse]

theorem latest_concat (old : ∀ value, effect input ≠ .writes value) :
    latest effect (history ++ [input])
      = (latest effect history).filter fun found => (effect input).spares found.2 := by
  rw [latest, List.reverse_concat, newest]
  cases does : effect input with
  | keeps =>
    dsimp only [Effect.spares]
    rw [latest]
    cases newest effect history.reverse <;> rfl
  | writes value => exact absurd does (old value)
  | erases test => rfl

theorem latest_lt (found : latest effect history = some (i, value)) : i < history.length := by
  induction history using List.reverseRecOn with
  | nil => cases found
  | append_singleton history input ih =>
    rw [List.length_append, List.length_singleton]
    by_cases writes : ∃ other, effect input = .writes other
    · obtain ⟨other, does⟩ := writes
      rw [latest_writes does] at found
      obtain ⟨rfl, rfl⟩ := found
      exact Nat.lt_succ_self _
    · rw [latest_concat (not_exists.mp writes)] at found
      exact Nat.lt_succ_of_lt (ih (Option.filter_eq_some_iff.mp found).1)

theorem getElem?_concat_cases {e : ι} (at_k : (history ++ [input])[k]? = some e) :
    (k < history.length ∧ history[k]? = some e) ∨ (k = history.length ∧ e = input) := by
  rw [List.getElem?_append] at at_k
  split at at_k
  next before => exact .inl ⟨before, at_k⟩
  next beyond =>
    obtain ⟨zero, rfl⟩ := List.getElem?_eq_some_iff.mp at_k
    have last : k - history.length < 1 := zero
    refine .inr ⟨by omega, ?_⟩
    simp

/-- A cell holds a value exactly if it was written and everything since spared it. -/
theorem latest_eq_some_iff :
    latest effect history = some (i, value)
      ↔ (∃ e, history[i]? = some e ∧ effect e = .writes value)
        ∧ ∀ k e, i < k → history[k]? = some e → (effect e).spares value = true := by
  induction history using List.reverseRecOn with
  | nil => simp
  | append_singleton history input ih =>
    have last : (history ++ [input])[history.length]? = some input := List.getElem?_concat_length
    by_cases writes : ∃ other, effect input = .writes other
    · obtain ⟨other, does⟩ := writes
      rw [latest_writes does]
      constructor
      · rintro ⟨rfl, rfl⟩
        refine ⟨⟨input, last, does⟩, fun k e after at_k => ?_⟩
        rcases getElem?_concat_cases at_k with ⟨before, _⟩ | ⟨same, _⟩ <;> omega
      · rintro ⟨⟨e, here, written⟩, later⟩
        rcases getElem?_concat_cases here with ⟨before, _⟩ | ⟨rfl, rfl⟩
        next =>
          have spared := later _ _ before last
          rw [does] at spared
          cases spared
        next =>
          rw [does] at written
          cases written
          rfl
    · rw [latest_concat (not_exists.mp writes), Option.filter_eq_some_iff, ih]
      constructor
      · rintro ⟨⟨⟨e, here, written⟩, later⟩, spared⟩
        have bound := (List.getElem?_eq_some_iff.mp here).1
        refine ⟨⟨e, by rw [List.getElem?_append_left bound, here], written⟩, ?_⟩
        intro k e after at_k
        rcases getElem?_concat_cases at_k with ⟨_, old⟩ | ⟨_, rfl⟩
        next => exact later k e after old
        next => exact spared
      · rintro ⟨⟨e, here, written⟩, later⟩
        rcases getElem?_concat_cases here with ⟨before, old⟩ | ⟨_, rfl⟩
        next =>
          refine ⟨⟨⟨e, old, written⟩, fun k e after at_k => later k e after ?_⟩,
            later _ _ before last⟩
          rw [List.getElem?_append_left (List.getElem?_eq_some_iff.mp at_k).1, at_k]
        next => exact absurd ⟨value, written⟩ writes

/-- The same, with the history split at the write. -/
theorem latest_eq_split :
    (latest effect history).map Prod.snd = some value
      ↔ ∃ first e rest, history = first ++ e :: rest ∧ effect e = .writes value
        ∧ ∀ later ∈ rest, (effect later).spares value = true := by
  rw [Option.map_eq_some_iff]
  constructor
  · rintro ⟨⟨i, found⟩, wrote, rfl⟩
    obtain ⟨⟨e, here, writes⟩, later⟩ := latest_eq_some_iff.mp wrote
    obtain ⟨within, rfl⟩ := List.getElem?_eq_some_iff.mp here
    refine ⟨history.take i, history[i], history.drop (i + 1), ?_, writes, fun e member => ?_⟩
    · rw [← List.drop_eq_getElem_cons within, List.take_append_drop]
    · obtain ⟨k, at_k⟩ := List.getElem?_of_mem member
      rw [List.getElem?_drop] at at_k
      exact later _ e (by omega) at_k
  · rintro ⟨first, e, rest, rfl, writes, spared⟩
    refine ⟨(first.length, value), latest_eq_some_iff.mpr ⟨⟨e, by simp, writes⟩, ?_⟩, rfl⟩
    intro k e' after at_k
    rw [List.getElem?_append_right (Nat.le_of_lt after)] at at_k
    obtain ⟨j, split⟩ : ∃ j, k - first.length = j + 1 := ⟨k - first.length - 1, by omega⟩
    rw [split, List.getElem?_cons_succ] at at_k
    exact spared e' (List.mem_of_getElem? at_k)

/-- What was written stands until the first input that does not spare it. -/
theorem stands_or_ends {e : ι} (here : history[i]? = some e) (writes : effect e = .writes value) :
    latest effect history = some (i, value)
      ∨ ∃ k last, i < k ∧ history[k]? = some last ∧ (effect last).spares value = false
        ∧ latest effect (history.take k) = some (i, value) := by
  induction history using List.reverseRecOn with
  | nil => cases here
  | append_singleton history input ih =>
    rcases getElem?_concat_cases here with ⟨before, old⟩ | ⟨rfl, rfl⟩
    next =>
      rcases ih old with stands | ⟨k, last, after, at_k, ends, stood⟩
      next =>
        cases spared : (effect input).spares value with
        | true =>
          refine .inl ?_
          rw [latest_concat, stands, Option.filter_some, if_pos spared]
          intro other does
          rw [does] at spared
          cases spared
        | false =>
          refine .inr ⟨history.length, input, before, List.getElem?_concat_length, spared, ?_⟩
          rw [List.take_left, stands]
      next =>
        have bound := (List.getElem?_eq_some_iff.mp at_k).1
        refine .inr ⟨k, last, after, by rw [List.getElem?_append_left bound, at_k], ends, ?_⟩
        rw [List.take_append_of_le_length (Nat.le_of_lt bound), stood]
    next => exact .inl (latest_writes writes)

/-- If each step treats a cell as its input says, the cell holds the last write. -/
theorem read_run {step : σ → ι → σ} {read : σ → Option α} {s : σ} (empty : read s = none)
    (follows : ∀ first input rest, history = first ++ input :: rest →
      read (step (Runs.run step s first) input)
        = (effect input).on (read (Runs.run step s first))) :
    read (Runs.run step s history) = (latest effect history).map Prod.snd := by
  induction history using List.reverseRecOn with
  | nil => exact empty
  | append_singleton history input ih =>
    have earlier := ih fun first between rest whole =>
      follows first between (rest ++ [input]) (by rw [whole, List.append_assoc, List.cons_append])
    rw [Runs.run_append, Runs.run_cons, Runs.run_nil, follows history input [] rfl, earlier]
    cases does : effect input with
    | writes value => rw [latest_writes does, Effect.on, Option.map_some]
    | keeps =>
      rw [latest_concat (by simp [does]), does, Effect.on]
      cases latest effect history <;> rfl
    | erases test =>
      rw [latest_concat (by simp [does]), does, Effect.on, Option.filter_map]
      rfl

end History
