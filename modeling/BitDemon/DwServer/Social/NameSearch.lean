import BitDemon.DwServer.Sqlite

set_option autoImplicit false

namespace BitDemon

open Sqlite

namespace Friends

def escaped (c : Char) : List Char := if c == '\\' || c == '%' || c == '_' then ['\\', c] else [c]

def likePattern (query : String) : String :=
  String.ofList ('%' :: query.toList.flatMap escaped ++ ['%'])

-- `username LIKE ?1 ESCAPE '\'`, where neither holds U+0000
def finds (query username : String) : Bool :=
  likeEscape '\\' (likePattern query).toList username.toList

-- the same for any query and name
def matched (query username : String) : Bool :=
  likeEscape '\\' (upToNul (likePattern query).toList) (upToNul username.toList)

theorem likeEscape_percent (pattern text : List Char) :
    likeEscape '\\' ('%' :: pattern) text = true
      ↔ ∃ rest, rest <:+ text ∧ likeEscape '\\' pattern rest = true := by
  have everyWay : likeEscape '\\' ('%' :: pattern) text
      = (suffixes text).any (likeEscape '\\' pattern) := by
    rw [likeEscape.eq_def]
    simp
  rw [everyWay, List.any_eq_true]
  simp [mem_suffixes]

theorem likeEscape_escaped (c : Char) (pattern text : List Char) :
    likeEscape '\\' (escaped c ++ pattern) text = true
      ↔ ∃ d rest, text = d :: rest ∧ sameLetter c d = true ∧ likeEscape '\\' pattern rest = true := by
  unfold escaped
  by_cases special : (c == '\\' || c == '%' || c == '_') = true
  next =>
    rw [if_pos special]
    exact nextLetter_iff
  next =>
    obtain ⟨backslash, percent, underscore⟩ : c ≠ '\\' ∧ c ≠ '%' ∧ c ≠ '_' := by
      simpa [and_assoc] using special
    rw [if_neg special, List.singleton_append, likeEscape.eq_def]
    simp [backslash, percent, underscore, nextLetter_iff]

theorem likeEscape_starts (query text : List Char) :
    likeEscape '\\' (query.flatMap escaped ++ ['%']) text = true
      ↔ query.map Char.toLower <+: text.map Char.toLower := by
  induction query generalizing text with
  | nil =>
    rw [List.flatMap_nil, List.nil_append, likeEscape_percent, List.map_nil]
    exact iff_of_true ⟨[], List.nil_suffix, rfl⟩ List.nil_prefix
  | cons c query ih =>
    rw [List.flatMap_cons, List.append_assoc, likeEscape_escaped]
    cases text with
    | nil => simp
    | cons d rest => simp [sameLetter, ih, List.cons_prefix_cons]

theorem likeEscape_infix (query text : List Char) :
    likeEscape '\\' ('%' :: query.flatMap escaped ++ ['%']) text = true
      ↔ query.map Char.toLower <:+: text.map Char.toLower := by
  rw [List.cons_append, likeEscape_percent]
  simp only [likeEscape_starts]
  constructor
  · intro ⟨rest, suffix, starts⟩
    exact starts.isInfix.trans (suffix.map Char.toLower).isInfix
  · intro stands
    obtain ⟨folded, starts, suffix⟩ := List.infix_iff_prefix_suffix.mp stands
    obtain ⟨rest, behind, rfl⟩ := List.suffix_map_iff.mp suffix
    exact ⟨rest, behind, starts⟩

theorem finds_iff (query username : String) :
    finds query username = true
      ↔ query.toList.map Char.toLower <:+: username.toList.map Char.toLower := by
  rw [finds, likePattern, String.toList_ofList]
  exact likeEscape_infix query.toList username.toList

theorem mem_escaped {c d : Char} (member : d ∈ escaped c) : d = '\\' ∨ d = c := by
  unfold escaped at member
  split at member
  · simpa using member
  · exact .inr (List.mem_singleton.mp member)

theorem pattern_clean {query : List Char} (clean : '\x00' ∉ query) :
    '\x00' ∉ '%' :: query.flatMap escaped ++ ['%'] := by
  have inside : '\x00' ∉ query.flatMap escaped := by
    intro nul
    obtain ⟨c, member, nul⟩ := List.mem_flatMap.mp nul
    rcases mem_escaped nul with backslash | same
    · cases backslash
    · exact clean (same ▸ member)
  simp [inside]

theorem matched_iff {query : String} (clean : '\x00' ∉ query.toList) (username : String) :
    matched query username = true
      ↔ query.toList.map Char.toLower <:+: (upToNul username.toList).map Char.toLower := by
  rw [matched, likePattern, String.toList_ofList, upToNul_of_clean (pattern_clean clean)]
  exact likeEscape_infix query.toList (upToNul username.toList)

end Friends

end BitDemon
