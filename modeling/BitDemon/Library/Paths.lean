import Mathlib.Data.List.Induction

set_option autoImplicit false

/-!
# Paths

A path is walked name by name, and only through directories. An empty name and `.`
stay where they are, `..` goes up; there are no links.
-/

namespace Paths

abbrev Name := List Char

-- the names from the root down
abbrev Place := List Name

inductive Node where
  | file (content : List UInt8)
  | directory
  deriving DecidableEq

/-- A name that something in a directory can have. -/
structure Plain (name : Name) : Prop where
  filled : name ≠ []
  notHere : name ≠ ['.']
  notUp : name ≠ ['.', '.']
  single : '/' ∉ name
  text : '\x00' ∉ name

instance (name : Name) : Decidable (Plain name) :=
  decidable_of_iff (name ≠ [] ∧ name ≠ ['.'] ∧ name ≠ ['.', '.'] ∧ '/' ∉ name ∧ '\x00' ∉ name)
    ⟨fun ⟨filled, notHere, notUp, single, text⟩ => ⟨filled, notHere, notUp, single, text⟩,
      fun ⟨filled, notHere, notUp, single, text⟩ => ⟨filled, notHere, notUp, single, text⟩⟩

structure Tree where
  node : Place → Option Node
  plain : ∀ place name, (node (place ++ [name])).isSome = true → Plain name
  parent : ∀ place name, (node (place ++ [name])).isSome = true → node place = some .directory

def names (path : List Char) : List Name := path.splitOn '/'

-- it stays where it is
def idle (name : Name) : Bool := name = [] || name = ['.']

def enter (tree : Tree) (place : Place) (name : Name) : Option Place :=
  if tree.node place = some .directory then
    if idle name then some place
    else if name = ['.', '.'] then some place.dropLast
    else some (place ++ [name])
  else none

def walk (tree : Tree) : Place → List Name → Option Place
  | place, [] => some place
  | place, name :: rest => (enter tree place name).bind fun next => walk tree next rest

def resolve (tree : Tree) (workingDirectory : Place) (path : List Char) : Option Place :=
  if path = [] ∨ '\x00' ∈ path then none
  else if path.head? = some '/' then walk tree [] (names path)
  else walk tree workingDirectory (names path)

def read (tree : Tree) (workingDirectory : Place) (path : List Char) : Option (List UInt8) :=
  match (resolve tree workingDirectory path).bind tree.node with
  | some (.file content) => some content
  | _ => none

variable {tree : Tree} {place there workingDirectory : Place} {name : Name} {rest : List Name}
  {path : List Char} {content : List UInt8}

theorem names_append (front back : List Char) :
    names (front ++ '/' :: back) = names front ++ names back :=
  List.splitOn_append_cons_self front back

theorem names_ne_nil (path : List Char) : names path ≠ [] := List.splitOn_ne_nil '/' path

theorem names_joined {parts : List Name} (single : ∀ name ∈ parts, '/' ∉ name) (some : parts ≠ []) :
    names (['/'].intercalate parts) = parts :=
  List.splitOn_intercalate '/' single some

theorem not_mem_joined {parts : List Name} {c : Char} (apart : c ≠ '/')
    (absent : ∀ name ∈ parts, c ∉ name) : c ∉ ['/'].intercalate parts := by
  induction parts with
  | nil => simp
  | cons name rest ih =>
    have first := absent name List.mem_cons_self
    have later := ih fun other member => absent other (List.mem_cons_of_mem _ member)
    cases rest with
    | nil => simpa using first
    | cons second rest =>
      rw [List.intercalate_cons_cons]
      simp only [List.mem_append, List.mem_singleton, not_or]
      exact ⟨⟨first, apart⟩, later⟩

theorem enter_plain (plain : Plain name) (here : tree.node place = some .directory) :
    enter tree place name = some (place ++ [name]) := by
  rw [enter, if_pos here, if_neg (by simp [idle, plain.filled, plain.notHere]), if_neg plain.notUp]

theorem walk_append (first later : List Name) :
    walk tree place (first ++ later)
      = (walk tree place first).bind fun next => walk tree next later := by
  induction first generalizing place with
  | nil => rfl
  | cons name rest ih =>
    rw [List.cons_append, walk, walk]
    cases enter tree place name with
    | none => rfl
    | some next => exact ih

theorem Tree.below (tree : Tree) (there : (tree.node (place ++ name :: rest)).isSome = true) :
    Plain name ∧ tree.node place = some .directory := by
  induction rest using List.reverseRecOn with
  | nil => exact ⟨tree.plain place name there, tree.parent place name there⟩
  | append_singleton rest last ih =>
    refine ih ?_
    have inner : (tree.node ((place ++ name :: rest) ++ [last])).isSome = true := by
      simpa using there
    rw [tree.parent _ _ inner]
    rfl

theorem Tree.plain_below (tree : Tree) (there : (tree.node (place ++ rest)).isSome = true) :
    ∀ name ∈ rest, Plain name := by
  induction rest generalizing place with
  | nil => simp
  | cons name rest ih =>
    have later : (tree.node ((place ++ [name]) ++ rest)).isSome = true := by simpa using there
    exact List.forall_mem_cons.mpr ⟨(tree.below there).1, ih later⟩

theorem walk_to (there : (tree.node (place ++ rest)).isSome = true) :
    walk tree place rest = some (place ++ rest) := by
  induction rest generalizing place with
  | nil => rw [walk, List.append_nil]
  | cons name rest ih =>
    obtain ⟨plain, here⟩ := tree.below there
    have step : place ++ name :: rest = (place ++ [name]) ++ rest := by simp
    rw [step] at there ⊢
    rw [walk, enter_plain plain here, Option.bind_some, ih there]

theorem walk_down (down : ['.', '.'] ∉ rest) (walked : walk tree place rest = some there) :
    there = place ++ rest.filter fun name => !idle name := by
  induction rest generalizing place with
  | nil =>
    rw [walk] at walked
    rw [← Option.some.inj walked, List.filter_nil, List.append_nil]
  | cons name rest ih =>
    obtain ⟨apart, down⟩ := not_or.mp (List.mem_cons.not.mp down)
    rw [walk] at walked
    obtain ⟨next, entered, walked⟩ := Option.bind_eq_some_iff.mp walked
    rw [enter] at entered
    split at entered
    next =>
      split at entered
      next stays =>
        obtain rfl := Option.some.inj entered
        rw [ih down walked, List.filter_cons_of_neg (by simp [stays])]
      next leads =>
        rw [if_neg (Ne.symm apart)] at entered
        obtain rfl := Option.some.inj entered
        rw [ih down walked, List.filter_cons_of_pos (by simp [leads]), List.append_assoc]
        rfl
    next => cases entered

theorem directory_of_walk (walked : walk tree place (name :: rest) = some there) :
    tree.node place = some .directory := by
  rw [walk, enter] at walked
  split at walked
  next here => exact here
  next => cases walked

theorem read_eq_some_iff :
    read tree workingDirectory path = some content
      ↔ ∃ there, resolve tree workingDirectory path = some there
        ∧ tree.node there = some (.file content) := by
  rw [read]
  constructor
  · intro found
    split at found
    next content' led =>
      obtain rfl := Option.some.inj found
      exact Option.bind_eq_some_iff.mp led
    next => cases found
  · rintro ⟨there, resolved, held⟩
    rw [resolved, Option.bind_some, held]

def Tree.single (path : Place) (plain : ∀ name ∈ path, Plain name) (content : List UInt8) : Tree where
  node place :=
    if place = path then some (.file content)
    else if place <+: path then some .directory
    else none
  plain place name there := by
    split at there
    next same => exact plain name (same ▸ List.mem_append_right _ (List.mem_singleton.mpr rfl))
    next =>
      split at there
      next front =>
        exact plain name (front.subset (List.mem_append_right _ (List.mem_singleton.mpr rfl)))
      next => cases there
  parent place name there := by
    have front : place ++ [name] <+: path := by
      split at there
      next same => exact same ▸ List.prefix_refl _
      next =>
        split at there
        next front => exact front
        next => cases there
    have shorter : place ≠ path := by
      intro same
      have longer := front.length_le
      rw [same, List.length_append, List.length_singleton] at longer
      exact absurd longer (Nat.not_succ_le_self _)
    rw [if_neg shorter, if_pos ((List.prefix_append place [name]).trans front)]

inductive Component where
  | rootDir | curDir | parentDir
  | normal (name : Name)
  deriving DecidableEq

def component (name : Name) : Option Component :=
  if idle name then none
  else if name = ['.', '.'] then some .parentDir
  else some (.normal name)

/-- `Path::components`: only at the front a `.` counts. -/
def components (path : List Char) : List Component :=
  (if path.head? = some '/' then [.rootDir]
    else if (names path).head? = some ['.'] then [.curDir] else [])
    ++ (names path).filterMap component

theorem parentDir_mem_iff : .parentDir ∈ components path ↔ ['.', '.'] ∈ names path := by
  have front : Component.parentDir ∉ (if path.head? = some '/' then [Component.rootDir]
      else if (names path).head? = some ['.'] then [.curDir] else []) := by
    split
    · simp
    · split <;> simp
  rw [components, List.mem_append, or_iff_right front, List.mem_filterMap]
  constructor
  · rintro ⟨name, present, goes⟩
    rw [component] at goes
    split at goes
    next => cases goes
    next =>
      split at goes
      next up => exact up ▸ present
      next => cases goes
  · exact fun present => ⟨_, present, rfl⟩

end Paths
