import BitDemon.Library.Table

set_option autoImplicit false

/-!
# Files in a directory

A name stands for a file. What has opened a file goes on with it when its name
is taken away or given to another one.
-/

namespace Directory

abbrev FileId := Nat

structure Files (κ : Type) [DecidableEq κ] where
  names : Table κ FileId
  content : FileId → List UInt8
  -- files from here on were not created yet
  fresh : FileId
  bound : ∀ name file, names.get name = some file → file < fresh
  -- there are no links
  single : ∀ name other file, names.get name = some file → names.get other = some file → name = other

variable {κ : Type} [DecidableEq κ]

namespace Files

def empty : Files κ where
  names := ∅
  content := fun _ => []
  fresh := 0
  bound := fun name file found => by simp at found
  single := fun name other file found => by simp at found

def read (files : Files κ) (name : κ) : Option (List UInt8) := (files.names.get name).map files.content

def setContent (files : Files κ) (file : FileId) (content : List UInt8) : Files κ :=
  { files with content := Function.update files.content file content }

-- what was there before is kept around the new bytes, and a gap is filled with zeros
def writtenAt (old : List UInt8) (offset : Nat) (bytes : List UInt8) : List UInt8 :=
  old.take offset ++ List.replicate (offset - old.length) 0 ++ bytes ++ old.drop (offset + bytes.length)

def write (files : Files κ) (file : FileId) (offset : Nat) (bytes : List UInt8) : Files κ :=
  files.setContent file (writtenAt (files.content file) offset bytes)

/-- A file of that name is emptied if there is one. -/
def create (files : Files κ) (name : κ) : FileId × Files κ :=
  match found : files.names.get name with
  | some file => (file, files.setContent file [])
  | none =>
    (files.fresh,
      { names := files.names.put name files.fresh
        content := Function.update files.content files.fresh []
        fresh := files.fresh + 1
        bound := by
          intro other file held
          rw [Table.get_put] at held
          split at held
          next => exact Option.some.inj held ▸ Nat.lt_succ_self _
          next => exact Nat.lt_succ_of_lt (files.bound other file held)
        single := by
          intro a b file first second
          rw [Table.get_put] at first second
          split at first <;> split at second
          next here there => rw [here, there]
          next =>
            obtain rfl := Option.some.inj first
            exact absurd (files.bound b _ second) (Nat.lt_irrefl _)
          next =>
            obtain rfl := Option.some.inj second
            exact absurd (files.bound a _ first) (Nat.lt_irrefl _)
          next => exact files.single a b file first second })

def remove (files : Files κ) (name : κ) : Files κ :=
  { files with
    names := files.names.remove name
    bound := by
      intro other file held
      rw [Table.get_remove] at held
      split at held
      next => cases held
      next => exact files.bound other file held
    single := by
      intro a b file first second
      rw [Table.get_remove] at first second
      split at first <;> split at second
      next => cases first
      next => cases first
      next => cases second
      next => exact files.single a b file first second }

/-- A file that had the new name loses it; `none` if there is no file of the old name. -/
def rename (files : Files κ) (name other : κ) : Option (Files κ) :=
  match found : files.names.get name with
  | none => none
  | some file =>
    some
      { files with
        names := (files.names.remove name).put other file
        bound := by
          intro target held given
          rw [Table.get_put] at given
          split at given
          next => exact Option.some.inj given ▸ files.bound name file found
          next => exact (files.remove name).bound target held given
        single := by
          -- the file has no name left when it is given the new one
          have nameless {target : κ} (kept : (files.names.remove name).get target = some file) : False := by
            rw [Table.get_remove] at kept
            split at kept
            next => cases kept
            next apart => exact apart (files.single target name file kept found)
          intro a b held first second
          rw [Table.get_put] at first second
          split at first <;> split at second
          next here there => rw [here, there]
          next =>
            obtain rfl := Option.some.inj first
            exact (nameless second).elim
          next =>
            obtain rfl := Option.some.inj second
            exact (nameless first).elim
          next => exact (files.remove name).single a b held first second }

variable {files : Files κ} {name other : κ} {file : FileId} {offset : Nat} {bytes : List UInt8}

theorem writtenAt_end (old bytes : List UInt8) : writtenAt old old.length bytes = old ++ bytes := by
  have beyond : old.drop (old.length + bytes.length) = [] := List.drop_eq_nil_of_le (by omega)
  rw [writtenAt, beyond, List.take_length, Nat.sub_self, List.replicate_zero, List.append_nil,
    List.append_nil]

@[simp] theorem names_write : (files.write file offset bytes).names = files.names := rfl

theorem content_write_self :
    (files.write file offset bytes).content file = writtenAt (files.content file) offset bytes :=
  Function.update_self _ _ _

theorem content_write_of_ne {apart : FileId} (ne : apart ≠ file) :
    (files.write file offset bytes).content apart = files.content apart :=
  Function.update_of_ne ne _ _

theorem get_create_self : (files.create name).2.names.get name = some (files.create name).1 := by
  rw [create]
  split
  next file found => exact found
  next => exact Table.get_put_self _ _ _

theorem get_create_of_ne (apart : other ≠ name) :
    (files.create name).2.names.get other = files.names.get other := by
  rw [create]
  split
  next => rfl
  next => exact Table.get_put_of_ne _ _ apart

theorem content_create_self : (files.create name).2.content (files.create name).1 = [] := by
  rw [create]
  split
  next => exact Function.update_self _ _ _
  next => exact Function.update_self _ _ _

theorem content_create_of_named {held : FileId} (apart : other ≠ name)
    (named : files.names.get other = some held) :
    (files.create name).2.content held = files.content held := by
  rw [create]
  split
  next file found =>
    refine Function.update_of_ne ?_ _ _
    rintro rfl
    exact apart (files.single other name held named found)
  next =>
    refine Function.update_of_ne ?_ _ _
    exact Nat.ne_of_lt (files.bound other held named)

theorem get_remove_of_ne (apart : other ≠ name) :
    (files.remove name).names.get other = files.names.get other :=
  Table.get_remove_of_ne _ apart

@[simp] theorem read_remove_self : (files.remove name).read name = none := by
  rw [read, remove, Table.get_remove_self]
  rfl

variable {next : Files κ} {new : κ}

theorem names_rename (moved : files.rename name new = some next) :
    ∃ file, files.names.get name = some file ∧ next.names = (files.names.remove name).put new file
      ∧ next.content = files.content := by
  rw [rename] at moved
  split at moved
  next => cases moved
  next file found =>
    obtain rfl := Option.some.inj moved
    exact ⟨file, found, rfl, rfl⟩

theorem get_rename_of_ne (moved : files.rename name new = some next) (apart : other ≠ name)
    (apart' : other ≠ new) : next.names.get other = files.names.get other := by
  obtain ⟨file, _, names, _⟩ := names_rename moved
  rw [names, Table.get_put_of_ne _ _ apart', Table.get_remove_of_ne _ apart]

theorem read_rename_new (moved : files.rename name new = some next) :
    next.read new = files.read name := by
  obtain ⟨file, found, names, content⟩ := names_rename moved
  rw [read, read, names, Table.get_put_self, found, content]

theorem read_rename_old (moved : files.rename name new = some next) (apart : name ≠ new) :
    next.read name = none := by
  obtain ⟨file, _, names, _⟩ := names_rename moved
  rw [read, names, Table.get_put_of_ne _ _ apart, Table.get_remove_self]
  rfl

end Files

structure Keeps (own : κ → Prop) (files next : Files κ) : Prop where
  names : ∀ name, ¬own name → next.names.get name = files.names.get name
  content : ∀ name file, ¬own name → files.names.get name = some file →
    next.content file = files.content file

section Keeps

variable {own : κ → Prop} {files next : Files κ} {name new : κ} {file : FileId} {offset : Nat}
  {bytes : List UInt8}

theorem Keeps.refl (own : κ → Prop) (files : Files κ) : Keeps own files files :=
  ⟨fun _ _ => rfl, fun _ _ _ _ => rfl⟩

theorem Keeps.read (keeps : Keeps own files next) (other : ¬own name) :
    next.read name = files.read name := by
  rw [Files.read, Files.read, keeps.names name other]
  cases held : files.names.get name with
  | none => rfl
  | some file => rw [Option.map_some, Option.map_some, keeps.content name file other held]

theorem keeps_create : Keeps (· = name) files (files.create name).2 where
  names _ apart := Files.get_create_of_ne apart
  content _ _ apart held := Files.content_create_of_named apart held

theorem keeps_write (named : files.names.get name = some file) :
    Keeps (· = name) files (files.write file offset bytes) where
  names _ _ := rfl
  content other held apart found := by
    refine Files.content_write_of_ne ?_
    rintro rfl
    exact apart (files.single other name held found named)

theorem keeps_remove : Keeps (· = name) files (files.remove name) where
  names _ apart := Files.get_remove_of_ne apart
  content _ _ _ _ := rfl

theorem keeps_rename (moved : files.rename name new = some next) :
    Keeps (fun other => other = name ∨ other = new) files next where
  names other apart := by
    obtain ⟨first, second⟩ := not_or.mp apart
    exact Files.get_rename_of_ne moved first second
  content _ _ _ _ := by
    obtain ⟨_, _, _, content⟩ := Files.names_rename moved
    rw [content]

end Keeps

end Directory
