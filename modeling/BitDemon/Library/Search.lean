import Mathlib.Data.List.Basic

set_option autoImplicit false

namespace Search

variable {α : Type} [DecidableEq α]

def after (pattern text : List α) : Option (List α) :=
  (text.dropInfix? pattern).map Prod.snd

def FirstAt (pattern text rest : List α) : Prop :=
  ∃ front, text = front ++ pattern ++ rest
    ∧ ∀ other tail, text = other ++ pattern ++ tail → front.length ≤ other.length

theorem after_eq_some_iff {pattern text rest : List α} :
    after pattern text = some rest ↔ FirstAt pattern text rest := by
  rw [after, Option.map_eq_some_iff, FirstAt]
  constructor
  · intro ⟨⟨front, _⟩, found, same⟩
    cases same
    rw [List.dropInfix?_eq_some_iff] at found
    obtain ⟨⟨here, whole, equal⟩, first⟩ := found
    rw [beq_iff_eq] at equal
    subst equal
    exact ⟨front, whole, fun other tail split => first other here tail split (beq_self_eq_true here)⟩
  · intro ⟨front, whole, first⟩
    refine ⟨(front, rest), List.dropInfix?_eq_some_iff.mpr ⟨?_, ?_⟩, rfl⟩
    · exact ⟨pattern, whole, beq_self_eq_true pattern⟩
    · intro other here tail split equal
      rw [beq_iff_eq] at equal
      subst equal
      exact first other tail split

theorem after_char {c : α} {front : List α} (rest : List α) (absent : c ∉ front) :
    after [c] (front ++ c :: rest) = some rest := by
  rw [after_eq_some_iff]
  refine ⟨front, by simp, fun other tail split => ?_⟩
  by_contra shorter
  have start : other ++ [c] <+: front := by
    have first : other ++ [c] <+: front ++ c :: rest := ⟨tail, split.symm⟩
    have length : (other ++ [c]).length ≤ front.length := by
      simp
      omega
    exact List.prefix_of_prefix_length_le first (List.prefix_append front _) length
  exact absent (start.subset (by simp))

theorem after_char_none {c : α} {text : List α} (absent : c ∉ text) :
    after [c] text = none := by
  by_contra found
  obtain ⟨rest, some⟩ := Option.ne_none_iff_exists'.mp found
  obtain ⟨front, rfl, _⟩ := after_eq_some_iff.mp some
  exact absent (by simp)

theorem after_char_eq_none_iff {c : α} {text : List α} : after [c] text = none ↔ c ∉ text := by
  constructor
  · intro missing member
    obtain ⟨front, tail, rfl, absent⟩ := List.eq_append_cons_of_mem member
    rw [after_char tail absent] at missing
    cases missing
  · exact after_char_none

theorem after_char_eq_some_iff {c : α} {text rest : List α} :
    after [c] text = some rest ↔ ∃ front, c ∉ front ∧ text = front ++ c :: rest := by
  constructor
  · intro found
    by_cases member : c ∈ text
    next =>
      obtain ⟨front, tail, rfl, absent⟩ := List.eq_append_cons_of_mem member
      rw [after_char tail absent] at found
      cases found
      exact ⟨front, absent, rfl⟩
    next =>
      rw [after_char_none member] at found
      cases found
  · intro ⟨front, absent, whole⟩
    rw [whole]
    exact after_char rest absent

theorem after_char_skip {c : α} {front : List α} (rest : List α) (absent : c ∉ front) :
    after [c] (front ++ rest) = after [c] rest := by
  by_cases later : c ∈ rest
  next =>
    obtain ⟨before, tail, none, rfl⟩ : ∃ before tail, c ∉ before ∧ rest = before ++ c :: tail := by
      obtain ⟨before, tail, whole, none⟩ := List.eq_append_cons_of_mem later
      exact ⟨before, tail, none, whole⟩
    rw [after_char tail none, ← List.append_assoc]
    exact after_char tail fun member => (List.mem_append.mp member).elim absent none
  next =>
    rw [after_char_none later]
    exact after_char_none fun member => (List.mem_append.mp member).elim absent later

end Search
