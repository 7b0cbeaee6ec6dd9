import BitDemon.Library.Search

set_option autoImplicit false

/-!
# Objects of strings in JSON

How an object is written whose members are strings, and the places that stand
behind a quote in its text.
-/

namespace Json

def isControl (c : Char) : Bool := c.toNat < 0x20

def isBlank (c : Char) : Bool := c == ' ' || c == '\t' || c == '\n' || c == '\r'

def shortEscape : Char → Option Char
  | '\x08' => some 'b'
  | '\t' => some 't'
  | '\n' => some 'n'
  | '\x0c' => some 'f'
  | '\r' => some 'r'
  | _ => none

def hexDigit (c : Char) : Option Nat :=
  if c.isDigit then some (c.toNat - '0'.toNat)
  else if 'a' ≤ c ∧ c ≤ 'f' then some (c.toNat - 'a'.toNat + 10)
  else if 'A' ≤ c ∧ c ≤ 'F' then some (c.toNat - 'A'.toNat + 10)
  else none

/-- What may stand behind the backslash in place of a control character. -/
inductive EscapeOf (c : Char) : List Char → Prop
  | short {letter : Char} : shortEscape c = some letter → EscapeOf c [letter]
  | code {first second : Char} {high low : Nat} : hexDigit first = some high →
      hexDigit second = some low → c.toNat = 16 * high + low →
      EscapeOf c ['u', '0', '0', first, second]

-- no character that has a meaning of its own in an object
def plain (c : Char) : Bool := c != '"' && c != '\\' && c != ':'

theorem plain_iff {c : Char} : plain c = true ↔ c ≠ '"' ∧ c ≠ '\\' ∧ c ≠ ':' := by
  simp [plain, and_assoc]

theorem plain_of_hexDigit {c : Char} {n : Nat} (digit : hexDigit c = some n) : plain c = true := by
  rw [plain_iff]
  refine ⟨?_, ?_, ?_⟩
  all_goals
    intro other
    subst other
    cases digit

theorem plain_of_shortEscape {c letter : Char} (short : shortEscape c = some letter) :
    plain letter = true := by
  unfold shortEscape at short
  split at short
  all_goals cases short
  all_goals rfl

theorem EscapeOf.plain {c : Char} {letters : List Char} (escape : EscapeOf c letters) :
    ∀ d ∈ letters, Json.plain d = true := by
  cases escape with
  | short short => simpa using plain_of_shortEscape short
  | code high low _ =>
    simp [plain_of_hexDigit high, plain_of_hexDigit low]
    decide

theorem EscapeOf.ne_nil {c : Char} {letters : List Char} (escape : EscapeOf c letters) :
    letters ≠ [] := by
  cases escape with
  | short _ => simp
  | code _ _ _ => simp

theorem plain_of_isBlank {c : Char} (blank : isBlank c = true) : plain c = true := by
  have cases : c = ' ' ∨ c = '\t' ∨ c = '\n' ∨ c = '\r' := by simpa [isBlank, or_assoc] using blank
  rcases cases with rfl | rfl | rfl | rfl
  all_goals rfl

-- between which marks of an object there may be blanks
inductive Gap
  | afterBrace | beforeColon | afterColon | beforeComma | afterComma | beforeBrace
  deriving DecidableEq

/-- A way to write objects: how control characters are escaped, and where blanks stand. -/
structure Writer where
  escape : Char → List Char
  escapes : ∀ c, isControl c = true → EscapeOf c (escape c)
  blanks : Gap → List Char
  isBlank : ∀ gap, ∀ c ∈ blanks gap, isBlank c = true

namespace Writer

variable (w : Writer)

def char (c : Char) : List Char :=
  if c = '"' ∨ c = '\\' then ['\\', c] else if isControl c then '\\' :: w.escape c else [c]

def letters (s : List Char) : List Char := s.flatMap w.char

def opening : List Char := '\x7b' :: w.blanks .afterBrace

def colon : List Char := w.blanks .beforeColon ++ ':' :: w.blanks .afterColon

def comma : List Char := w.blanks .beforeComma ++ ',' :: w.blanks .afterComma

def closing : List Char := w.blanks .beforeBrace ++ ['\x7d']

def string (s rest : List Char) : List Char := w.letters s ++ '"' :: rest

def behindValue : List (String × String) → List Char
  | [] => w.closing
  | (name, value) :: rest =>
    w.comma ++ '"' :: w.string name.toList
      (w.colon ++ '"' :: w.string value.toList (behindValue rest))

def behindName (value : String) (rest : List (String × String)) : List Char :=
  w.colon ++ '"' :: w.string value.toList (w.behindValue rest)

def object : List (String × String) → List Char
  | [] => w.opening ++ w.closing
  | (name, value) :: rest => w.opening ++ '"' :: w.string name.toList (w.behindName value rest)

@[simp] theorem letters_nil : w.letters [] = [] := rfl

@[simp] theorem letters_cons (c : Char) (s : List Char) :
    w.letters (c :: s) = w.char c ++ w.letters s := by
  simp [letters]

@[simp] theorem letters_append (s t : List Char) :
    w.letters (s ++ t) = w.letters s ++ w.letters t := by
  simp [letters]

theorem not_mem_blanks {c : Char} (special : plain c = false) (gap : Gap) :
    c ∉ w.blanks gap := by
  intro member
  rw [plain_of_isBlank (w.isBlank gap c member)] at special
  cases special

theorem not_mem_opening {c : Char} (special : plain c = false) (other : c ≠ '\x7b') :
    c ∉ w.opening := by
  simp [opening, w.not_mem_blanks special, other]

theorem not_mem_colon {c : Char} (special : plain c = false) (other : c ≠ ':') : c ∉ w.colon := by
  simp [colon, w.not_mem_blanks special, other]

theorem not_mem_comma {c : Char} (special : plain c = false) (other : c ≠ ',') : c ∉ w.comma := by
  simp [comma, w.not_mem_blanks special, other]

theorem not_mem_closing {c : Char} (special : plain c = false) (other : c ≠ '\x7d') :
    c ∉ w.closing := by
  simp [closing, w.not_mem_blanks special, other]

theorem char_cases (c : Char) :
    ((c = '"' ∨ c = '\\') ∧ w.char c = ['\\', c])
      ∨ (c ≠ '"' ∧ isControl c = true ∧ EscapeOf c (w.escape c) ∧ w.char c = '\\' :: w.escape c)
      ∨ (c ≠ '"' ∧ c ≠ '\\' ∧ isControl c = false ∧ w.char c = [c]) := by
  unfold char
  by_cases marked : c = '"' ∨ c = '\\'
  next => exact .inl ⟨marked, if_pos marked⟩
  next =>
    rw [if_neg marked]
    obtain ⟨quote, backslash⟩ := not_or.mp marked
    by_cases control : isControl c = true
    next => exact .inr (.inl ⟨quote, control, w.escapes c control, if_pos control⟩)
    next => exact .inr (.inr ⟨quote, backslash, by simpa using control, if_neg control⟩)

theorem not_mem_char {c d : Char} (special : plain d = false) (backslash : d ≠ '\\')
    (other : c ≠ d) : d ∉ w.char c := by
  obtain ⟨_, written⟩ | ⟨_, _, escape, written⟩ | ⟨_, _, _, written⟩ := w.char_cases c
  · rw [written]
    simp [backslash, Ne.symm other]
  · rw [written]
    have absent : d ∉ w.escape c := by
      intro member
      rw [escape.plain d member] at special
      cases special
    simp [backslash, absent]
  · rw [written]
    simp [Ne.symm other]

end Writer

def hexLetter (n : Nat) : Char := if n < 10 then Char.ofNat (n + 48) else Char.ofNat (n + 87)

theorem hexDigit_hexLetter : ∀ n < 16, hexDigit (hexLetter n) = some n := by
  decide

def Writer.compact : Writer where
  escape c := ((shortEscape c).map fun letter => [letter]).getD
    ['u', '0', '0', hexLetter (c.toNat / 16), hexLetter (c.toNat % 16)]
  escapes c control := by
    have low : c.toNat < 32 := by simpa [isControl] using control
    cases short : shortEscape c with
    | some letter => exact .short short
    | none =>
      exact .code (hexDigit_hexLetter _ (by omega)) (hexDigit_hexLetter _ (by omega)) (by omega)
  blanks _ := []
  isBlank _ c member := by cases member

/-- What is left of an object behind one of the quotes in its text. -/
inductive Place
  | inName (left : List Char) (value : String) (rest : List (String × String))
  | behindName (value : String) (rest : List (String × String))
  | inValue (left : List Char) (rest : List (String × String))
  | behindValue (rest : List (String × String))

def Place.text (w : Writer) : Place → List Char
  | inName left value rest => w.string left (w.behindName value rest)
  | behindName value rest => w.behindName value rest
  | inValue left rest => w.string left (w.behindValue rest)
  | behindValue rest => w.behindValue rest

section

variable {w : Writer}

theorem split_skip {text rest front back : List Char} (absent : '"' ∉ text)
    (split : text ++ rest = front ++ '"' :: back) : ∃ later, rest = later ++ '"' :: back := by
  obtain ⟨later, rfl, whole⟩ | ⟨later, rfl, whole⟩ := List.append_eq_append_iff.mp split
  · exact ⟨later, whole⟩
  · cases later with
    | nil => exact ⟨[], by simpa using whole.symm⟩
    | cons c later =>
      obtain ⟨rfl, _⟩ := List.cons.inj whole
      exact absurd (by simp) absent

theorem string_split {s rest front back : List Char}
    (split : w.string s rest = front ++ '"' :: back) :
    (∃ left, back = w.string left rest) ∨ back = rest
      ∨ ∃ later, rest = later ++ '"' :: back := by
  induction s generalizing front with
  | nil =>
    cases front with
    | nil => exact .inr (.inl (List.cons.inj split).2.symm)
    | cons c front => exact .inr (.inr ⟨front, (List.cons.inj split).2⟩)
  | cons c s ih =>
    have grouped : w.char c ++ w.string s rest = front ++ '"' :: back := by
      rw [← split]
      simp [Writer.string]
    by_cases quote : c = '"'
    next =>
      subst quote
      rw [show w.char '"' = ['\\'] ++ ['"'] from rfl, List.append_assoc] at grouped
      obtain ⟨later, whole⟩ := split_skip (by decide) grouped
      cases later with
      | nil => exact .inl ⟨s, (List.cons.inj whole).2.symm⟩
      | cons d later => exact ih (List.cons.inj whole).2
    next =>
      obtain ⟨later, whole⟩ := split_skip (w.not_mem_char (by decide) (by decide) quote) grouped
      exact ih whole

theorem opening_split {text rest front back : List Char} (absent : '"' ∉ text)
    (split : text ++ '"' :: rest = front ++ '"' :: back) :
    back = rest ∨ ∃ later, rest = later ++ '"' :: back := by
  obtain ⟨later, whole⟩ := split_skip absent split
  cases later with
  | nil => exact .inl (List.cons.inj whole).2.symm
  | cons c later => exact .inr ⟨later, (List.cons.inj whole).2⟩

theorem exists_place_behindName {value : String} {rest : List (String × String)}
    {front back : List Char} (split : w.behindName value rest = front ++ '"' :: back)
    (behind : ∀ front, w.behindValue rest = front ++ '"' :: back → ∃ p : Place, back = p.text w) :
    ∃ p : Place, back = p.text w := by
  obtain rfl | ⟨later, split⟩ := opening_split (w.not_mem_colon rfl (by decide)) split
  · exact ⟨.inValue value.toList rest, rfl⟩
  · obtain ⟨left, rfl⟩ | rfl | ⟨front, split⟩ := string_split split
    · exact ⟨.inValue left rest, rfl⟩
    · exact ⟨.behindValue rest, rfl⟩
    · exact behind front split

theorem exists_place_member {name value : String} {rest : List (String × String)}
    {text front back : List Char} (absent : '"' ∉ text)
    (split : text ++ '"' :: w.string name.toList (w.behindName value rest) = front ++ '"' :: back)
    (behind : ∀ front, w.behindValue rest = front ++ '"' :: back → ∃ p : Place, back = p.text w) :
    ∃ p : Place, back = p.text w := by
  obtain rfl | ⟨later, split⟩ := opening_split absent split
  · exact ⟨.inName name.toList value rest, rfl⟩
  · obtain ⟨left, rfl⟩ | rfl | ⟨front, split⟩ := string_split split
    · exact ⟨.inName left value rest, rfl⟩
    · exact ⟨.behindName value rest, rfl⟩
    · exact exists_place_behindName split behind

theorem exists_place_behindValue {rest : List (String × String)} {front back : List Char}
    (split : w.behindValue rest = front ++ '"' :: back) : ∃ p : Place, back = p.text w := by
  induction rest generalizing front with
  | nil =>
    have absent : '"' ∉ w.behindValue [] := w.not_mem_closing rfl (by decide)
    rw [split] at absent
    exact absurd (by simp) absent
  | cons member rest ih => exact exists_place_member (w.not_mem_comma rfl (by decide)) split fun _ => ih

/-- Behind each quote in the text of an object stands one of the places. -/
theorem exists_place {members : List (String × String)} {front back : List Char}
    (split : w.object members = front ++ '"' :: back) : ∃ p : Place, back = p.text w := by
  cases members with
  | nil =>
    have absent : '"' ∉ w.object [] := fun member =>
      (List.mem_append.mp member).elim (w.not_mem_opening rfl (by decide))
        (w.not_mem_closing rfl (by decide))
    rw [split] at absent
    exact absurd (by simp) absent
  | cons member rest =>
    exact exists_place_member (w.not_mem_opening rfl (by decide)) split fun _ => exists_place_behindValue

end

end Json
