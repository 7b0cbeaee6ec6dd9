import Mathlib.Data.List.Nodup
import Mathlib.Data.List.Sort

set_option autoImplicit false

/-!
# Tables of rows with a key

A table is the list of its rows in the order of their insertion, and a key
function tells which rows are in conflict.
-/

namespace Rows

variable {ρ κ : Type} [DecidableEq κ]

def has (key : ρ → κ) (k : κ) (rows : List ρ) : Bool := rows.any fun row => decide (key row = k)

def find (key : ρ → κ) (k : κ) (rows : List ρ) : Option ρ := rows.find? fun row => decide (key row = k)

-- `INSERT OR IGNORE`
def insertOrIgnore (key : ρ → κ) (row : ρ) (rows : List ρ) : List ρ :=
  if has key (key row) rows then rows else rows ++ [row]

-- `INSERT .. ON CONFLICT (key) DO UPDATE`, which leaves the row where it stands
def upsert (key : ρ → κ) (row : ρ) (rows : List ρ) : List ρ :=
  if has key (key row) rows then rows.map fun old => if key old = key row then row else old
  else rows ++ [row]

-- `DELETE`, by a condition on the key
def delete (key : ρ → κ) (gone : κ → Bool) (rows : List ρ) : List ρ :=
  rows.filter fun row => !gone (key row)

/-- `ORDER BY`, or a scan of an index. Rows that tie stay in the order they come in. -/
def inOrder {α : Type} [LE α] [DecidableLE α] (index : ρ → α) (rows : List ρ) : List ρ :=
  rows.insertionSort fun a b => index a ≤ index b

section Order

variable {α : Type} [LE α] [DecidableLE α] {index : ρ → α} {rows : List ρ}

theorem perm_inOrder (index : ρ → α) (rows : List ρ) : (inOrder index rows).Perm rows :=
  List.perm_insertionSort _ rows

@[simp] theorem mem_inOrder {row : ρ} : row ∈ inOrder index rows ↔ row ∈ rows :=
  List.mem_insertionSort _

end Order

variable {key : ρ → κ}

theorem has_iff {k : κ} {rows : List ρ} : has key k rows = true ↔ ∃ row ∈ rows, key row = k := by
  simp [has]

theorem has_insertOrIgnore (row : ρ) (k : κ) (rows : List ρ) :
    has key k (insertOrIgnore key row rows) = (has key k rows || decide (key row = k)) := by
  unfold insertOrIgnore
  split
  next present =>
    by_cases same : key row = k
    · rw [← same, present]
      simp
    · simp [same]
  next absent => simp [has]

theorem has_delete (gone : κ → Bool) (k : κ) (rows : List ρ) :
    has key k (delete key gone rows) = (has key k rows && !gone k) := by
  rw [Bool.eq_iff_iff, Bool.and_eq_true, has_iff, has_iff]
  constructor
  · rintro ⟨row, member, rfl⟩
    obtain ⟨present, stays⟩ := List.mem_filter.mp member
    exact ⟨⟨row, present, rfl⟩, stays⟩
  · rintro ⟨⟨row, present, rfl⟩, stays⟩
    exact ⟨row, List.mem_filter.mpr ⟨present, stays⟩, rfl⟩

theorem mem_upsert {row old : ρ} {rows : List ρ} (present : old ∈ upsert key row rows) :
    old = row ∨ old ∈ rows := by
  unfold upsert at present
  split at present
  next =>
    obtain ⟨before, member, became⟩ := List.mem_map.mp present
    split at became
    next => exact .inl became.symm
    next => exact .inr (became ▸ member)
  next =>
    rcases List.mem_append.mp present with earlier | last
    next => exact .inr earlier
    next => exact .inl (List.mem_singleton.mp last)

theorem isSome_find (k : κ) (rows : List ρ) : (find key k rows).isSome = has key k rows := by
  rw [Bool.eq_iff_iff, has_iff, find, List.find?_isSome]
  simp

theorem find_upsert_self (row : ρ) (rows : List ρ) :
    find key (key row) (upsert key row rows) = some row := by
  unfold upsert
  split
  next present =>
    induction rows with
    | nil => simp [has] at present
    | cons old rows ih =>
      by_cases same : key old = key row
      · simp [find, same]
      · have later : has key (key row) rows = true := by
          simpa [has, same] using present
        have found := ih later
        simpa [find, same] using found
  next absent =>
    have missing : find key (key row) rows = none := by
      rw [← Option.not_isSome_iff_eq_none, isSome_find]
      exact absent
    rw [find] at missing ⊢
    simp [missing]

theorem find_upsert_of_ne {row : ρ} {k : κ} (apart : k ≠ key row) (rows : List ρ) :
    find key k (upsert key row rows) = find key k rows := by
  unfold upsert
  split
  next present =>
    clear present
    induction rows with
    | nil => rfl
    | cons old rows ih =>
      by_cases same : key old = key row
      · have other : ¬key row = k := fun clash => apart clash.symm
        have this : ¬key old = k := same ▸ other
        simpa [find, same, this, other] using ih
      · by_cases here : key old = k
        · simp [find, here, apart]
        · simpa [find, same, here] using ih
  next absent =>
    have other : ¬key row = k := fun clash => apart clash.symm
    simp [find, other]

theorem find_delete_of_stays {gone : κ → Bool} {k : κ} (stays : gone k = false) (rows : List ρ) :
    find key k (delete key gone rows) = find key k rows := by
  induction rows with
  | nil => rfl
  | cons row rows ih =>
    by_cases here : key row = k
    · simp [find, delete, here, stays]
    · cases leaves : gone (key row) with
      | true => simpa [find, delete, here, leaves] using ih
      | false => simpa [find, delete, here, leaves] using ih

theorem find_delete_of_gone {gone : κ → Bool} {k : κ} (leaves : gone k = true) (rows : List ρ) :
    find key k (delete key gone rows) = none := by
  rw [← Option.not_isSome_iff_eq_none, isSome_find, has_delete, leaves]
  simp

def Distinct (key : ρ → κ) (rows : List ρ) : Prop := (rows.map key).Nodup

omit [DecidableEq κ] in
theorem distinct_append {rows : List ρ} {row : ρ} (distinct : Distinct key rows)
    (fresh : ∀ old ∈ rows, key old ≠ key row) : Distinct key (rows ++ [row]) := by
  rw [Distinct, List.map_append, List.nodup_append]
  refine ⟨distinct, by simp, ?_⟩
  intro k present k' last
  obtain ⟨old, member, rfl⟩ := List.mem_map.mp present
  rw [List.mem_singleton.mp last]
  exact fresh old member

theorem distinct_insertOrIgnore {rows : List ρ} (distinct : Distinct key rows) (row : ρ) :
    Distinct key (insertOrIgnore key row rows) := by
  unfold insertOrIgnore
  split
  next => exact distinct
  next absent => exact distinct_append distinct (by simpa [has] using absent)

theorem map_key_upsert (row : ρ) (rows : List ρ) (present : has key (key row) rows = true) :
    (upsert key row rows).map key = rows.map key := by
  rw [upsert, if_pos present, List.map_map]
  apply List.map_congr_left
  intro old _
  by_cases same : key old = key row <;> simp [same]

theorem distinct_upsert {rows : List ρ} (distinct : Distinct key rows) (row : ρ) :
    Distinct key (upsert key row rows) := by
  cases present : has key (key row) rows with
  | true =>
    rw [Distinct, map_key_upsert row rows present]
    exact distinct
  | false =>
    rw [upsert, if_neg (by simp [present])]
    exact distinct_append distinct (by simpa [has] using present)

theorem Distinct.find_iff {rows : List ρ} (distinct : Distinct key rows) {k : κ} {row : ρ} :
    find key k rows = some row ↔ row ∈ rows ∧ key row = k := by
  constructor
  · intro found
    exact ⟨List.mem_of_find?_eq_some found, by simpa using List.find?_some found⟩
  · rintro ⟨member, rfl⟩
    obtain ⟨old, found⟩ : ∃ old, find key (key row) rows = some old := by
      rw [← Option.isSome_iff_exists, isSome_find, has_iff]
      exact ⟨row, member, rfl⟩
    have same : key old = key row := by simpa using List.find?_some found
    have one := List.inj_on_of_nodup_map distinct (List.mem_of_find?_eq_some found) member same
    rw [found, one]

theorem Distinct.filter_key {rows : List ρ} (distinct : Distinct key rows) {row : ρ}
    (present : row ∈ rows) : rows.filter (fun old => decide (key old = key row)) = [row] := by
  induction rows with
  | nil => cases present
  | cons old rows ih =>
    rw [Distinct, List.map_cons, List.nodup_cons] at distinct
    rcases List.mem_cons.mp present with rfl | later
    next =>
      rw [List.filter_cons, if_pos (decide_eq_true rfl), List.filter_eq_nil_iff.mpr]
      intro other member same
      exact distinct.1 (List.mem_map.mpr ⟨other, member, of_decide_eq_true same⟩)
    next =>
      have apart : key old ≠ key row := fun same =>
        distinct.1 (List.mem_map.mpr ⟨row, later, same.symm⟩)
      rw [List.filter_cons_of_neg (by simpa using apart)]
      exact ih distinct.2 later

omit [DecidableEq κ] in
theorem distinct_delete {rows : List ρ} (distinct : Distinct key rows) (gone : κ → Bool) :
    Distinct key (delete key gone rows) :=
  distinct.sublist (List.filter_sublist.map key)

omit [DecidableEq κ] in
theorem Distinct.nodup_part {α : Type} {rows : List ρ} (distinct : Distinct key rows)
    (part : ρ → Bool) (column : ρ → α)
    (tells : ∀ row old, part row = true → part old = true → column row = column old →
      key row = key old) : ((rows.filter part).map column).Nodup := by
  rw [Distinct, List.Nodup, List.pairwise_map] at distinct
  rw [List.Nodup, List.pairwise_map]
  refine (distinct.filter part).imp_of_mem fun {row old} first last apart same => ?_
  exact apart (tells row old (List.mem_filter.mp first).2 (List.mem_filter.mp last).2 same)

theorem Distinct.find_filter {rows : List ρ} (distinct : Distinct key rows) (keep : ρ → Bool) (k : κ) :
    find key k (rows.filter keep) = (find key k rows).filter keep := by
  have kept : Distinct key (rows.filter keep) := distinct.sublist (List.filter_sublist.map key)
  ext row
  rw [kept.find_iff, Option.filter_eq_some_iff, distinct.find_iff, List.mem_filter]
  tauto

theorem filter_insertOrIgnore {part : ρ → Bool} {row : ρ} (outside : part row = false)
    (rows : List ρ) : (insertOrIgnore key row rows).filter part = rows.filter part := by
  unfold insertOrIgnore
  split
  next => rfl
  next => simp [outside]

omit [DecidableEq κ] in
theorem filter_delete {part : ρ → Bool} {gone : κ → Bool}
    (stays : ∀ row, part row = true → gone (key row) = false) (rows : List ρ) :
    (delete key gone rows).filter part = rows.filter part := by
  rw [delete, List.filter_filter]
  apply List.filter_congr
  intro row _
  cases inside : part row with
  | true => simp [stays row inside]
  | false => rfl

end Rows
