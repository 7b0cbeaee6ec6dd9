import Mathlib.Data.List.Basic

set_option autoImplicit false

/-!
# Pages of a list

A list is read in pages of a size, one after the other, up to the first page
that is empty. A page that skips rows before it filters them can show a row
twice: once where it stands, and once on a page before that has room for it.
-/

namespace Paging

variable {α : Type}

/-- What the pages from an offset on give together; a page may fail to be had. -/
inductive Gathers (page : Nat → Option (List α)) (size : Nat) : Nat → List α → Prop where
  | last (offset : Nat) (empty : page offset = some []) : Gathers page size offset []
  | more (offset : Nat) (first rest : List α) (had : page offset = some first) (some : first ≠ [])
    (later : Gathers page size (offset + size) rest) : Gathers page size offset (first ++ rest)

-- rows are skipped, then filtered, then counted
def skipFirst (keep : α → Bool) (size : Nat) (rows : List α) (offset : Nat) : List α :=
  ((rows.drop offset).filter keep).take size

/-- No page of rows has one to be left out, with one to be kept on a page after it. -/
def NoneLate (keep : α → Bool) (size : Nat) (rows : List α) : Prop :=
  ∀ n, (∃ row ∈ (rows.drop (n * size)).take size, keep row = false) →
    ∀ row ∈ rows.drop ((n + 1) * size), keep row = false

variable {keep : α → Bool} {size : Nat} {rows : List α}

theorem noneLate_iff :
    NoneLate keep size rows
      ↔ ((∃ row ∈ rows.take size, keep row = false) → ∀ row ∈ rows.drop size, keep row = false)
        ∧ NoneLate keep size (rows.drop size) := by
  have shift (n : Nat) : (rows.drop size).drop (n * size) = rows.drop ((n + 1) * size) := by
    rw [List.drop_drop, Nat.succ_mul, Nat.add_comm]
  constructor
  · intro none
    refine ⟨fun left => ?_, fun n left => ?_⟩
    · have first := none 0
      rw [Nat.zero_mul, List.drop_zero, Nat.zero_add, Nat.one_mul] at first
      exact first left
    · rw [shift] at left ⊢
      exact none (n + 1) left
  · rintro ⟨first, later⟩ n left
    cases n with
    | zero =>
      rw [Nat.zero_mul, List.drop_zero] at left
      rw [Nat.zero_add, Nat.one_mul]
      exact first left
    | succ n =>
      rw [← shift] at left ⊢
      exact later n left

theorem noneLate_nil : NoneLate keep size [] := by
  intro n _ row member
  rw [List.drop_nil] at member
  cases member

theorem full_or_none :
    ((∃ row ∈ rows.take size, keep row = false) → ∀ row ∈ rows.drop size, keep row = false)
      ↔ ((rows.take size).filter keep).length = size ∨ (rows.drop size).filter keep = [] := by
  constructor
  · intro none
    by_contra neither
    push Not at neither
    obtain ⟨short, late⟩ := neither
    have whole : (rows.take size).filter keep = rows.take size := by
      refine List.filter_eq_self.mpr fun row member => ?_
      by_contra out
      have left : ∃ row ∈ rows.take size, keep row = false := ⟨row, member, by simpa using out⟩
      refine late (List.filter_eq_nil_iff.mpr fun after beyond => ?_)
      rw [none left after beyond]
      exact Bool.false_ne_true
    have longer : size < rows.length := by
      by_contra within
      exact late (by rw [List.drop_eq_nil_of_le (Nat.le_of_not_lt within), List.filter_nil])
    rw [whole, List.length_take] at short
    omega
  · rintro (full | none) ⟨row, member, out⟩
    · have fewer : ((rows.take size).filter keep).length < (rows.take size).length :=
        List.length_filter_lt_length_iff_exists.mpr ⟨row, member, by simp [out]⟩
      have most := List.length_take_le size rows
      omega
    · intro late after
      simpa using List.filter_eq_nil_iff.mp none late after

theorem filter_drop_split (offset : Nat) :
    (rows.drop offset).filter keep
      = ((rows.drop offset).take size).filter keep ++ (rows.drop (offset + size)).filter keep := by
  rw [← List.drop_drop, ← List.filter_append, List.take_append_drop]

theorem length_page_le (rows : List α) : ((rows.take size).filter keep).length ≤ size :=
  Nat.le_trans (List.length_filter_le _ _) (List.length_take_le size rows)

theorem filter_eq_nil_of_empty {offset : Nat} (positive : 0 < size)
    (empty : skipFirst keep size rows offset = []) : (rows.drop offset).filter keep = [] := by
  rcases List.take_eq_nil_iff.mp empty with zero | none
  · omega
  · exact none

theorem length_filter_le {offset : Nat} {given : List α} (positive : 0 < size)
    (gathers : Gathers (fun offset => some (skipFirst keep size rows offset)) size offset given) :
    ((rows.drop offset).filter keep).length ≤ given.length := by
  induction gathers with
  | last offset empty =>
    have none := filter_eq_nil_of_empty positive (Option.some.inj empty)
    exact Nat.le_of_eq (congrArg List.length none)
  | more offset first rest had some later ih =>
    obtain rfl := Option.some.inj had
    have page := @length_page_le _ keep size (rows.drop offset)
    have split := congrArg List.length (@filter_drop_split _ keep size rows offset)
    rw [List.length_append] at split
    rw [List.length_append, skipFirst, List.length_take]
    omega

theorem noneLate_of_gathers {offset : Nat} {given : List α} (positive : 0 < size)
    (gathers : Gathers (fun offset => some (skipFirst keep size rows offset)) size offset given)
    (exact : given = (rows.drop offset).filter keep) : NoneLate keep size (rows.drop offset) := by
  induction gathers with
  | last offset empty =>
    intro n _ row member
    have none := filter_eq_nil_of_empty positive (Option.some.inj empty)
    simpa using List.filter_eq_nil_iff.mp none row (List.mem_of_mem_drop member)
  | more offset first rest had some later ih =>
    obtain rfl := Option.some.inj had
    have covered := length_filter_le positive later
    have page := @length_page_le _ keep size (rows.drop offset)
    have split := @filter_drop_split _ keep size rows offset
    have lengths := congrArg List.length (exact.trans split)
    have whole := congrArg List.length split
    rw [List.length_append, List.length_append, skipFirst, List.length_take] at lengths
    rw [List.length_append] at whole
    have short : (skipFirst keep size rows offset).length
        = (((rows.drop offset).take size).filter keep).length := by
      rw [skipFirst, List.length_take]
      omega
    obtain ⟨_, following⟩ := List.append_inj (exact.trans split) short
    rw [noneLate_iff, List.drop_drop]
    refine ⟨?_, ih following⟩
    rw [← List.drop_drop, full_or_none, List.drop_drop]
    by_cases none : (rows.drop (offset + size)).filter keep = []
    · exact .inr none
    · have many := List.length_pos_iff.mpr none
      refine .inl ?_
      omega

theorem gathers_of_noneLate (positive : 0 < size) (offset : Nat)
    (none : NoneLate keep size (rows.drop offset)) :
    Gathers (fun offset => some (skipFirst keep size rows offset)) size offset
      ((rows.drop offset).filter keep) := by
  by_cases empty : (rows.drop offset).filter keep = []
  · rw [empty]
    refine .last offset ?_
    rw [skipFirst, empty, List.take_nil]
  · rw [noneLate_iff, full_or_none, List.drop_drop] at none
    have later := gathers_of_noneLate positive (offset + size) none.2
    have page := @length_page_le _ keep size (rows.drop offset)
    have first : skipFirst keep size rows offset = ((rows.drop offset).take size).filter keep := by
      rw [skipFirst, @filter_drop_split _ keep size rows offset]
      rcases none.1 with full | last
      · rw [List.take_left' full]
      · rw [last, List.append_nil, List.take_of_length_le page]
    rw [@filter_drop_split _ keep size rows offset, ← first]
    refine .more offset _ _ rfl (fun nothing => empty ?_) later
    exact filter_eq_nil_of_empty positive nothing
termination_by rows.length - offset
decreasing_by
  have more : offset < rows.length := by
    by_contra beyond
    rw [List.drop_eq_nil_of_le (Nat.le_of_not_lt beyond)] at empty
    exact empty rfl
  omega

/-- Pages that skip first give every row to be kept once exactly if none is late. -/
theorem gathers_iff (positive : 0 < size) :
    Gathers (fun offset => some (skipFirst keep size rows offset)) size 0 (rows.filter keep)
      ↔ NoneLate keep size rows := by
  constructor
  · intro gathers
    exact noneLate_of_gathers positive gathers rfl
  · intro none
    exact gathers_of_noneLate positive 0 none

end Paging
