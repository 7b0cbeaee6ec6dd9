import Mathlib.Algebra.GroupWithZero.Nat
import Mathlib.Data.Finset.Card
import Mathlib.Data.List.AList

set_option autoImplicit false

/-!
# Finite maps

Association lists with one entry a key, read through `get`.
-/

abbrev Table (κ ν : Type) := AList fun _ : κ => ν

namespace Table

variable {κ ν : Type} [DecidableEq κ]

def get (t : Table κ ν) (k : κ) : Option ν := AList.lookup k t

def put (t : Table κ ν) (k : κ) (v : ν) : Table κ ν := AList.insert k v t

def remove (t : Table κ ν) (k : κ) : Table κ ν := AList.erase k t

@[simp] theorem get_empty (k : κ) : get (∅ : Table κ ν) k = none := AList.lookup_empty k

@[simp] theorem get_put_self (t : Table κ ν) (k : κ) (v : ν) : get (put t k v) k = some v :=
  AList.lookup_insert t

theorem get_put_of_ne (t : Table κ ν) {k other : κ} (v : ν) (apart : other ≠ k) :
    get (put t k v) other = get t other :=
  AList.lookup_insert_ne apart

theorem get_put (t : Table κ ν) (k other : κ) (v : ν) :
    get (put t k v) other = if other = k then some v else get t other := by
  split
  next same => rw [same, get_put_self]
  next apart => exact get_put_of_ne t v apart

@[simp] theorem get_remove_self (t : Table κ ν) (k : κ) : get (remove t k) k = none :=
  AList.lookup_erase k t

theorem get_remove_of_ne (t : Table κ ν) {k other : κ} (apart : other ≠ k) :
    get (remove t k) other = get t other :=
  AList.lookup_erase_ne apart

theorem get_remove (t : Table κ ν) (k other : κ) :
    get (remove t k) other = if other = k then none else get t other := by
  split
  next same => rw [same, get_remove_self]
  next apart => exact get_remove_of_ne t apart

theorem get_eq_some_iff {t : Table κ ν} {k : κ} {v : ν} :
    get t k = some v ↔ (⟨k, v⟩ : Sigma fun _ : κ => ν) ∈ t.entries :=
  AList.mem_lookup_iff

theorem remove_of_get_none {t : Table κ ν} {k : κ} (absent : get t k = none) : remove t k = t := by
  apply AList.ext
  have missing : k ∉ t.entries.keys := AList.lookup_eq_none.mp absent
  exact List.kerase_of_notMem_keys missing

def retain (t : Table κ ν) (keeps : ν → Bool) : Table κ ν :=
  { entries := t.entries.filter fun entry => keeps entry.2
    nodupKeys := t.nodupKeys.sublist List.filter_sublist }

theorem get_retain (t : Table κ ν) (keeps : ν → Bool) (k : κ) :
    get (retain t keeps) k = (get t k).filter keeps := by
  ext v
  rw [get_eq_some_iff, Option.filter_eq_some_iff, get_eq_some_iff]
  exact List.mem_filter

def count (t : Table κ ν) (test : ν → Bool) : Nat := t.entries.countP fun entry => test entry.2

theorem count_remove_of_none (t : Table κ ν) {k : κ} (test : ν → Bool) (absent : get t k = none) :
    count (remove t k) test = count t test := by
  rw [remove_of_get_none absent]

theorem perm_kerase {entries : List (Sigma fun _ : κ => ν)} (unique : entries.NodupKeys) {k : κ}
    {v : ν} (present : (⟨k, v⟩ : Sigma fun _ : κ => ν) ∈ entries) :
    entries.Perm (⟨k, v⟩ :: entries.kerase k) := by
  induction entries with
  | nil => cases present
  | cons entry rest ih =>
    by_cases same : k = entry.1
    · have here : entry = ⟨k, v⟩ :=
        unique.eq_of_fst_eq List.mem_cons_self present same.symm
      rw [List.kerase_cons_eq same, here]
    · have later : (⟨k, v⟩ : Sigma fun _ : κ => ν) ∈ rest := by
        rcases List.mem_cons.mp present with first | later
        · exact absurd (congrArg Sigma.fst first) same
        · exact later
      rw [List.kerase_cons_ne same]
      exact ((ih (List.nodupKeys_cons.mp unique).2 later).cons entry).trans (.swap _ _ _)

theorem entries_put (t : Table κ ν) (k : κ) (v : ν) :
    (put t k v).entries = ⟨k, v⟩ :: (remove t k).entries := AList.entries_insert

theorem perm_remove {t : Table κ ν} {k : κ} {v : ν} (present : get t k = some v) :
    t.entries.Perm (⟨k, v⟩ :: (remove t k).entries) :=
  perm_kerase t.nodupKeys (get_eq_some_iff.mp present)

theorem count_remove_of_some (t : Table κ ν) {k : κ} {v : ν} (test : ν → Bool)
    (present : get t k = some v) :
    count t test = count (remove t k) test + if test v then 1 else 0 := by
  rw [count, (perm_remove present).countP_eq, List.countP_cons]
  rfl

theorem count_put (t : Table κ ν) (k : κ) (v : ν) (test : ν → Bool) :
    count (put t k v) test = count (remove t k) test + if test v then 1 else 0 := by
  rw [count, entries_put, List.countP_cons]
  rfl

theorem count_pos {t : Table κ ν} {k : κ} {v : ν} {test : ν → Bool} (present : get t k = some v)
    (accepted : test v = true) : 0 < count t test :=
  List.countP_pos_iff.mpr ⟨_, get_eq_some_iff.mp present, accepted⟩

theorem exists_of_count_pos {t : Table κ ν} {test : ν → Bool} (positive : 0 < count t test) :
    ∃ k v, get t k = some v ∧ test v = true := by
  obtain ⟨⟨k, v⟩, member, accepted⟩ := List.countP_pos_iff.mp positive
  exact ⟨k, v, get_eq_some_iff.mpr member, accepted⟩

theorem count_eq_card (t : Table κ ν) (test : ν → Bool) {keys : Finset κ}
    (covers : ∀ k v, get t k = some v → k ∈ keys) :
    count t test = (keys.filter fun k => (get t k).any test = true).card := by
  let accepted := (t.entries.filter fun entry => test entry.2).map Sigma.fst
  have unique : accepted.Nodup :=
    List.Nodup.sublist (List.Sublist.map Sigma.fst List.filter_sublist) t.nodupKeys
  have same : accepted.toFinset = keys.filter fun k => (get t k).any test = true := by
    ext k
    simp only [accepted, List.mem_toFinset, List.mem_map, List.mem_filter, Finset.mem_filter]
    constructor
    · rintro ⟨⟨key, v⟩, ⟨member, passes⟩, rfl⟩
      have found : get t key = some v := get_eq_some_iff.mpr member
      exact ⟨covers key v found, by simp [found, passes]⟩
    · rintro ⟨_, passes⟩
      cases found : get t k with
      | none => simp [found] at passes
      | some v =>
        rw [found] at passes
        exact ⟨⟨k, v⟩, ⟨get_eq_some_iff.mp found, passes⟩, rfl⟩
  rw [← same, List.toFinset_card_of_nodup unique, List.length_map, count, List.countP_eq_length_filter]

def sum (t : Table κ ν) (weight : ν → Nat) : Nat := (t.entries.map fun entry => weight entry.2).sum

theorem sum_remove_of_some {t : Table κ ν} {k : κ} {v : ν} (weight : ν → Nat)
    (present : get t k = some v) : sum t weight = weight v + sum (remove t k) weight := by
  rw [sum, ((perm_remove present).map _).sum_nat, List.map_cons, List.sum_cons]
  rfl

theorem sum_put (t : Table κ ν) (k : κ) (v : ν) (weight : ν → Nat) :
    sum (put t k v) weight = weight v + sum (remove t k) weight := by
  rw [sum, entries_put, List.map_cons, List.sum_cons]
  rfl

theorem sum_remove_le (t : Table κ ν) (k : κ) (weight : ν → Nat) :
    sum (remove t k) weight ≤ sum t weight := by
  cases found : get t k with
  | none => rw [remove_of_get_none found]
  | some v =>
    rw [sum_remove_of_some weight found]
    omega

end Table
