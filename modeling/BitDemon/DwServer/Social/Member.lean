import BitDemon.Library.Json

set_option autoImplicit false

/-!
# Looking up a member of a request

The bodies of requests are JSON, but no reader of JSON looks at them: a name is
searched for in quotes, and the next string behind the next colon is its value.
-/

namespace BitDemon

open Search Json

namespace Routes

def unescape (out : List Char) : List Char → Option (List Char)
  | [] => none
  | '"' :: _ => some out
  | ['\\'] => none
  | '\\' :: n :: chars => unescape (out ++ [n]) chars
  | c :: chars => unescape (out ++ [c]) chars

def scan (rest : List Char) : Option (List Char) := do
  let rest ← after [':'] rest
  let rest ← after ['"'] rest
  unescape [] rest

def quoted (key : String) : List Char := '"' :: key.toList ++ ['"']

def member (body key : String) : Option String := do
  let rest ← after (quoted key) body.toList
  let out ← scan rest
  return String.ofList out

theorem unescape_plain {c : Char} (out chars : List Char) (quote : c ≠ '"') (backslash : c ≠ '\\') :
    unescape out (c :: chars) = unescape (out ++ [c]) chars := by
  rw [unescape]
  · exact quote
  · exact fun none => absurd none backslash
  · exact fun _ _ same => absurd same backslash

theorem unescape_run {text : List Char} (out chars : List Char)
    (simple : ∀ c ∈ text, c ≠ '"' ∧ c ≠ '\\') :
    unescape out (text ++ chars) = unescape (out ++ text) chars := by
  induction text generalizing out with
  | nil => simp
  | cons c text ih =>
    obtain ⟨quote, backslash⟩ := simple c List.mem_cons_self
    rw [List.cons_append, unescape_plain _ _ quote backslash,
      ih _ fun d member => simple d (List.mem_cons_of_mem c member)]
    simp

section

variable (w : Writer)

def heard (s : List Char) : List Char :=
  s.flatMap fun c => if isControl c then w.escape c else [c]

theorem unescape_char (out chars : List Char) (c : Char) :
    unescape out (w.char c ++ chars)
      = unescape (out ++ if isControl c then w.escape c else [c]) chars := by
  obtain ⟨marked, written⟩ | ⟨_, control, escape, written⟩ | ⟨quote, backslash, none, written⟩ :=
    w.char_cases c
  · have none : isControl c = false := by
      rcases marked with rfl | rfl
      all_goals rfl
    rw [written, none]
    rfl
  · have simple : ∀ d ∈ w.escape c, d ≠ '"' ∧ d ≠ '\\' := by
      intro d member
      obtain ⟨quote, backslash, _⟩ := plain_iff.mp (escape.plain d member)
      exact ⟨quote, backslash⟩
    obtain ⟨letter, more, split⟩ := List.exists_cons_of_ne_nil escape.ne_nil
    rw [written, if_pos control, split]
    rw [split] at simple
    rw [List.cons_append, List.cons_append, unescape,
      unescape_run _ _ fun d member => simple d (List.mem_cons_of_mem letter member)]
    simp
  · rw [written, none]
    exact unescape_plain out chars quote backslash

theorem unescape_string (out s rest : List Char) :
    unescape out (w.string s rest) = some (out ++ heard w s) := by
  induction s generalizing out with
  | nil => simp [Writer.string, heard, unescape]
  | cons c s ih =>
    have grouped : w.string (c :: s) rest = w.char c ++ w.string s rest := by
      simp [Writer.string]
    rw [grouped, unescape_char, ih]
    simp [heard]

theorem not_mem_letters {c : Char} {s : List Char} (absent : c ∉ s)
    (only : ∀ d, d ≠ c → c ∉ w.char d) : c ∉ w.letters s := by
  intro member
  obtain ⟨d, from', here⟩ := List.mem_flatMap.mp member
  by_cases same : d = c
  next => exact absent (same ▸ from')
  next => exact only d same here

/--
What is read where the search goes on in a string: if there is a colon in it,
the rest behind its next quote, or what separates it from the next string.
-/
def inside (left : List Char) (separator next : Option (List Char)) : Option (List Char) :=
  match after [':'] left with
  | none => next
  | some later =>
    match after ['"'] later with
    | none => separator
    | some tail => some (heard w tail)

theorem scan_string (left rest : List Char) :
    scan (w.string left rest) = inside w left (unescape [] rest) (scan rest) := by
  have quoteOnly : ∀ d, d ≠ '"' → '"' ∉ w.char d := fun _ other =>
    w.not_mem_char (by decide) (by decide) other
  have colonOnly : ∀ d, d ≠ ':' → ':' ∉ w.char d := fun _ other =>
    w.not_mem_char (by decide) (by decide) other
  rw [inside]
  cases first : after [':'] left with
  | none =>
    have absent : ':' ∉ w.letters left :=
      not_mem_letters w (after_char_eq_none_iff.mp first) colonOnly
    rw [scan, Writer.string, after_char_skip _ absent]
    rw [show after [':'] ('"' :: rest) = after [':'] rest from
      @after_char_skip _ _ ':' ['"'] rest (by decide)]
    rfl
  | some later =>
    obtain ⟨front, absent, rfl⟩ := after_char_eq_some_iff.mp first
    have found : after [':'] (w.string (front ++ ':' :: later) rest) = some (w.string later rest) := by
      rw [Writer.string, Writer.letters_append, Writer.letters_cons, List.append_assoc]
      exact after_char _ (not_mem_letters w absent colonOnly)
    simp only [scan, found, Option.bind_eq_bind, Option.bind_some]
    cases second : after ['"'] later with
    | none =>
      have absent : '"' ∉ w.letters later :=
        not_mem_letters w (after_char_eq_none_iff.mp second) quoteOnly
      rw [Writer.string, after_char rest absent]
      rfl
    | some tail =>
      obtain ⟨before, absent, rfl⟩ := after_char_eq_some_iff.mp second
      have split : w.string (before ++ '"' :: tail) rest
          = (w.letters before ++ ['\\']) ++ '"' :: w.string tail rest := by
        simp [Writer.string, Writer.char]
      have unquoted : '"' ∉ w.letters before ++ ['\\'] := by
        simp [not_mem_letters w absent quoteOnly]
      rw [split, after_char _ unquoted]
      exact unescape_string w [] tail rest

theorem scan_behindName (value : String) (rest : List (String × String)) :
    scan (w.behindName value rest) = some (heard w value.toList) := by
  have split : w.behindName value rest = w.blanks .beforeColon
      ++ ':' :: (w.blanks .afterColon ++ '"' :: w.string value.toList (w.behindValue rest)) := by
    simp [Writer.behindName, Writer.colon]
  simp only [scan, split, after_char _ (w.not_mem_blanks (c := ':') rfl _), Option.bind_eq_bind,
    Option.bind_some, after_char _ (w.not_mem_blanks (c := '"') rfl _)]
  exact unescape_string w [] value.toList _

theorem unescape_separator {text : List Char} (rest : List Char) (quote : '"' ∉ text)
    (backslash : '\\' ∉ text) : unescape [] (text ++ '"' :: rest) = some text := by
  rw [unescape_run [] ('"' :: rest) fun c member =>
    ⟨fun same => quote (same ▸ member), fun same => backslash (same ▸ member)⟩]
  rfl

theorem unescape_closing : unescape [] w.closing = none := by
  have read := unescape_run [] [] fun c member =>
    ⟨fun same => w.not_mem_closing (c := '"') rfl (by decide) (same ▸ member),
      fun same => w.not_mem_closing (c := '\\') rfl (by decide) (same ▸ member)⟩
  rw [List.append_nil] at read
  exact read

theorem unescape_behindName (value : String) (rest : List (String × String)) :
    unescape [] (w.behindName value rest) = some w.colon :=
  unescape_separator _ (w.not_mem_colon rfl (by decide)) (w.not_mem_colon rfl (by decide))

-- what is read from the end of a value on
def separatorBehind : List (String × String) → Option (List Char)
  | [] => none
  | _ :: _ => some w.comma

theorem unescape_behindValue (rest : List (String × String)) :
    unescape [] (w.behindValue rest) = separatorBehind w rest := by
  cases rest with
  | nil => exact unescape_closing w
  | cons member rest =>
    exact unescape_separator _ (w.not_mem_comma rfl (by decide)) (w.not_mem_comma rfl (by decide))

-- the string that is come to from the end of a value
def nextBehind : List (String × String) → Option (List Char)
  | [] => none
  | (name, value) :: _ => inside w name.toList (some w.colon) (some (heard w value.toList))

theorem scan_behindValue (rest : List (String × String)) :
    scan (w.behindValue rest) = nextBehind w rest := by
  cases rest with
  | nil =>
    have absent : ':' ∉ w.behindValue [] := w.not_mem_closing rfl (by decide)
    rw [scan, after_char_none absent]
    rfl
  | cons next rest =>
    obtain ⟨name, value⟩ := next
    have absent : ':' ∉ w.comma ++ ['"'] := by
      simp [w.not_mem_comma (c := ':') rfl (by decide)]
    have split : w.behindValue ((name, value) :: rest)
        = (w.comma ++ ['"']) ++ w.string name.toList (w.behindName value rest) := by
      simp [Writer.behindValue, Writer.behindName]
    have skipped : scan (w.behindValue ((name, value) :: rest))
        = scan (w.string name.toList (w.behindName value rest)) := by
      rw [scan, split, after_char_skip _ absent, scan]
    rw [skipped, scan_string, unescape_behindName, scan_behindName, nextBehind]

def comesTo : Place → Option (List Char)
  | .inName left value _ => inside w left (some w.colon) (some (heard w value.toList))
  | .behindName value _ => some (heard w value.toList)
  | .inValue left rest => inside w left (separatorBehind w rest) (nextBehind w rest)
  | .behindValue rest => nextBehind w rest

theorem scan_place (p : Place) : scan (p.text w) = comesTo w p := by
  cases p with
  | inName left value rest =>
    rw [Place.text, scan_string, unescape_behindName, scan_behindName, comesTo]
  | behindName value rest => exact scan_behindName w value rest
  | inValue left rest =>
    rw [Place.text, scan_string, unescape_behindValue, scan_behindValue, comesTo]
  | behindValue rest => exact scan_behindValue w rest

def body (members : List (String × String)) : String := String.ofList (w.object members)

def FindsMember (members : List (String × String)) (key : String) : Prop :=
  member (body w members) key = members.lookup key

def StandsFirst (members : List (String × String)) (key : String) (p : Place) : Prop :=
  FirstAt (quoted key) (w.object members) (p.text w)

theorem exists_standsFirst {members : List (String × String)} {key : String} {rest : List Char}
    (first : FirstAt (quoted key) (w.object members) rest) :
    ∃ p : Place, rest = p.text w := by
  obtain ⟨front, split, _⟩ := first
  have closed : w.object members = (front ++ '"' :: key.toList) ++ '"' :: rest := by
    rw [split, quoted]
    simp
  exact exists_place closed

theorem comesTo_standsFirst {members : List (String × String)} {key : String} {p q : Place}
    (here : StandsFirst w members key p) (there : StandsFirst w members key q) :
    comesTo w p = comesTo w q := by
  have same : some (p.text w) = some (q.text w) := by
    rw [← after_eq_some_iff.mpr here, ← after_eq_some_iff.mpr there]
  rw [← scan_place, ← scan_place, Option.some.inj same]

theorem member_at {members : List (String × String)} {key : String} {p : Place}
    (stands : StandsFirst w members key p) :
    member (body w members) key = (comesTo w p).map String.ofList := by
  have found : after (quoted key) (body w members).toList = some (p.text w) := by
    rw [body, String.toList_ofList]
    exact after_eq_some_iff.mpr stands
  rw [member, found, Option.bind_eq_bind, Option.bind_some, scan_place]
  cases comesTo w p with
  | none => rfl
  | some out => rfl

theorem heard_plain {s : List Char} (plain : ∀ c ∈ s, isControl c = false) : heard w s = s := by
  have single : ∀ c ∈ s, (if isControl c then w.escape c else [c]) = [c] := by
    intro c member
    rw [plain c member]
    rfl
  rw [heard, List.flatMap_congr single, List.flatMap_singleton']

/--
The lookup is right if the name in quotes stands first at the end of the name itself,
and no character of its value is escaped by a letter.
-/
theorem member_found {members rest : List (String × String)} {key value : String}
    (own : members.lookup key = some value)
    (first : StandsFirst w members key (.behindName value rest))
    (plain : ∀ c ∈ value.toList, isControl c = false) : FindsMember w members key := by
  rw [FindsMember, member_at w first, comesTo, heard_plain w plain, own, Option.map_some,
    String.ofList_toList]

theorem member_nowhere {members : List (String × String)} {key : String}
    (nowhere : ∀ p, ¬StandsFirst w members key p) : member (body w members) key = none := by
  have missing : after (quoted key) (body w members).toList = none := by
    rw [body, String.toList_ofList]
    by_contra found
    obtain ⟨rest, some⟩ := Option.ne_none_iff_exists'.mp found
    have first := after_eq_some_iff.mp some
    obtain ⟨p, rfl⟩ := exists_standsFirst w first
    exact nowhere p first
  rw [member, missing]
  rfl

end

/--
When the lookup is right: if a member has the name, then the name in quotes
stands in the text and the string that is come to from its first place is the
member's value; if none has, there is no such place or nothing is come to from it.
-/
theorem member_found_iff (w : Writer) (members : List (String × String)) (key : String) :
    FindsMember w members key
      ↔ (∀ value, members.lookup key = some value →
          ∃ p, StandsFirst w members key p ∧ comesTo w p = some value.toList)
        ∧ (members.lookup key = none → ∀ p, StandsFirst w members key p → comesTo w p = none) := by
  rw [FindsMember]
  by_cases somewhere : ∃ p, StandsFirst w members key p
  next =>
    obtain ⟨p, stands⟩ := somewhere
    have each {out : Option (List Char)} :
        (∃ q, StandsFirst w members key q ∧ comesTo w q = out) ↔ comesTo w p = out :=
      ⟨fun ⟨q, there, comes⟩ => (comesTo_standsFirst w stands there).trans comes,
        fun comes => ⟨p, stands, comes⟩⟩
    have every : (∀ q, StandsFirst w members key q → comesTo w q = none) ↔ comesTo w p = none :=
      ⟨fun all => all p stands, fun comes q there => (comesTo_standsFirst w there stands).trans comes⟩
    rw [member_at w stands, every]
    simp only [each]
    cases members.lookup key with
    | none => simp
    | some value =>
      rw [Option.map_eq_some_iff]
      constructor
      · intro ⟨out, comes, same⟩
        refine ⟨fun other equal => ?_, fun none => by cases none⟩
        rw [comes, ← Option.some.inj equal, ← same, String.toList_ofList]
      · intro ⟨comes, _⟩
        exact ⟨value.toList, comes value rfl, String.ofList_toList⟩
  next =>
    rw [member_nowhere w (not_exists.mp somewhere)]
    constructor
    · intro none
      rw [← none]
      constructor
      · intro value found
        cases found
      · exact fun _ p stands => absurd ⟨p, stands⟩ somewhere
    · intro ⟨found, _⟩
      cases looked : members.lookup key with
      | none => rfl
      | some value =>
        obtain ⟨p, stands, _⟩ := found value looked
        exact absurd ⟨p, stands⟩ somewhere

theorem value_mistaken_for_name :
    (([("a", "k"), ("b", "x"), ("k", "v")] : List (String × String)).map Prod.fst).count "k" ≤ 1
      ∧ member (body Writer.compact [("a", "k"), ("b", "x"), ("k", "v")]) "k" = some "x"
      ∧ ¬FindsMember Writer.compact [("a", "k"), ("b", "x"), ("k", "v")] "k" := by
  have found : member (body Writer.compact [("a", "k"), ("b", "x"), ("k", "v")]) "k" = some "x" := by
    decide
  refine ⟨by decide, found, fun right => ?_⟩
  rw [FindsMember, found] at right
  exact absurd right (by decide)

end Routes

end BitDemon
