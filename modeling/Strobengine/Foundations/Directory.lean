import Mathlib.Order.Interval.Finset.Nat

/-!
# A directory of files

A directory gives names to files. A file that is open is written through its number, not
through its name: it may have been renamed since, or another name may have taken its place.
-/

namespace Strobengine.Foundations

universe u v

structure Directory (Name : Type u) (Item : Type v) where
  entries : Name → Option Nat
  files : List (List Item)
  linked : ∀ name file, entries name = some file → file < files.length
  single :
    ∀ first second file, entries first = some file → entries second = some file → first = second

namespace Directory

variable {Name : Type u} {Item : Type v}

def empty : Directory Name Item where
  entries := fun _ => none
  files := []
  linked := by simp
  single := by simp

def read (directory : Directory Name Item) (name : Name) : Option (List Item) :=
  (directory.entries name).bind (directory.files[·]?)

/-- A write beyond the end of a file leaves a hole. -/
def overwrite (hole : Item) (content : List Item) (offset : Nat) (chunk : List Item) : List Item :=
  content.take offset ++ List.replicate (offset - content.length) hole ++ chunk ++
    content.drop (offset + chunk.length)

def write (directory : Directory Name Item) (hole : Item) (file offset : Nat)
    (chunk : List Item) : Directory Name Item where
  entries := directory.entries
  files := directory.files.modify file (overwrite hole · offset chunk)
  linked := by
    intro name other named
    rw [List.length_modify]
    exact directory.linked name other named
  single := directory.single

section Naming

variable [DecidableEq Name]

/-- Give a name to a new file, which is empty. -/
def add (directory : Directory Name Item) (name : Name) : Directory Name Item where
  entries := Function.update directory.entries name (some directory.files.length)
  files := directory.files ++ [[]]
  linked := by
    intro other file named
    rw [List.length_append, List.length_singleton]
    rw [Function.update_apply] at named
    split at named
    · cases named
      exact Nat.lt_succ_self _
    · exact Nat.lt_succ_of_lt (directory.linked other file named)
  single := by
    intro first second file firstNamed secondNamed
    rw [Function.update_apply] at firstNamed secondNamed
    -- the new file has a number that no name had
    split at firstNamed <;> split at secondNamed
    · rename_i isFirst isSecond
      rw [isFirst, isSecond]
    · cases firstNamed
      exact absurd (directory.linked second _ secondNamed) (Nat.lt_irrefl _)
    · cases secondNamed
      exact absurd (directory.linked first _ firstNamed) (Nat.lt_irrefl _)
    · exact directory.single first second file firstNamed secondNamed

/-- Open a file for writing: it is made empty, or created. -/
def openTruncated (directory : Directory Name Item) (name : Name) : Directory Name Item × Nat :=
  match directory.entries name with
  | some file =>
    ({ entries := directory.entries
       files := directory.files.set file []
       linked := by
         intro other number named
         rw [List.length_set]
         exact directory.linked other number named
       single := directory.single }, file)
  | none => (directory.add name, directory.files.length)

def remove (directory : Directory Name Item) (name : Name) : Directory Name Item where
  entries := Function.update directory.entries name none
  files := directory.files
  linked := by
    intro other file named
    rw [Function.update_apply] at named
    split at named
    · cases named
    · exact directory.linked other file named
  single := by
    intro first second file firstNamed secondNamed
    rw [Function.update_apply] at firstNamed secondNamed
    split at firstNamed
    · cases firstNamed
    · split at secondNamed
      · cases secondNamed
      · exact directory.single first second file firstNamed secondNamed

/-- Move a file from one name to another, whose own file is gone; it fails when there is no
file to move. -/
def rename (directory : Directory Name Item) (source target : Name) :
    Option (Directory Name Item) :=
  match named : directory.entries source with
  | none => none
  | some file =>
    some
      { entries :=
          Function.update (Function.update directory.entries source none) target (some file)
        files := directory.files
        linked := by
          intro other number found
          rw [Function.update_apply] at found
          split at found
          · cases found
            exact directory.linked source file named
          · exact (directory.remove source).linked other number found
        single := by
          -- apart from the target no name has the file that is moved
          have alone :
              ∀ other, Function.update directory.entries source none other ≠ some file := by
            intro other found
            rw [Function.update_apply] at found
            split at found
            · cases found
            · rename_i different
              exact different (directory.single other source file found named)
          intro first second number firstNamed secondNamed
          rw [Function.update_apply] at firstNamed secondNamed
          split at firstNamed <;> split at secondNamed
          · rename_i isFirst isSecond
            rw [isFirst, isSecond]
          · cases firstNamed
            exact absurd secondNamed (alone second)
          · cases secondNamed
            exact absurd firstNamed (alone first)
          · exact (directory.remove source).single first second number firstNamed secondNamed }

end Naming

section Effects

variable {directory next : Directory Name Item} {name source target : Name} {file : Nat}

theorem entries_of_read_eq_none (missing : directory.read name = none) :
    directory.entries name = none := by
  cases named : directory.entries name with
  | none => rfl
  | some file =>
    have present := directory.linked name file named
    simp [read, named] at missing
    omega

theorem overwrite_end {content : List Item} {offset : Nat}
    (ends : content.length = offset) (hole : Item) (chunk : List Item) :
    overwrite hole content offset chunk = content ++ chunk := by
  subst ends
  simp [overwrite]

theorem read_write {content : List Item} {hole : Item} {offset : Nat} {chunk : List Item}
    (named : directory.entries name = some file) (found : directory.read name = some content) :
    (directory.write hole file offset chunk).read name =
      some (overwrite hole content offset chunk) := by
  rw [read, named, Option.bind_some] at found
  rw [read, write, named, Option.bind_some, List.getElem?_modify_eq, found]
  rfl

variable [DecidableEq Name]

theorem read_add : (directory.add name).read name = some [] := by
  simp [read, add]

theorem openTruncated_entry :
    (directory.openTruncated name).1.entries name = some (directory.openTruncated name).2 := by
  unfold openTruncated
  cases named : directory.entries name with
  | none => simp [add]
  | some => exact named

theorem read_openTruncated : (directory.openTruncated name).1.read name = some [] := by
  unfold openTruncated
  cases named : directory.entries name with
  | none => exact read_add
  | some file =>
    have present := directory.linked name file named
    simp [read, named, present]

theorem rename_ne_none {content : List Item} (found : directory.read source = some content)
    (target : Name) : directory.rename source target ≠ none := by
  unfold rename
  split
  · rename_i missing
    simp [read, missing] at found
  · simp

theorem read_target_of_rename (renamed : directory.rename source target = some next) :
    next.read target = directory.read source := by
  unfold rename at renamed
  split at renamed
  · cases renamed
  · rename_i file named
    cases renamed
    simp [read, named]

theorem read_source_of_rename (renamed : directory.rename source target = some next)
    (different : source ≠ target) : next.read source = none := by
  unfold rename at renamed
  split at renamed
  · cases renamed
  · cases renamed
    simp [read, different]

end Effects

/-! ## What it leaves alone -/

/-- A name has the same file with the same content. -/
structure Same (name : Name) (before after : Directory Name Item) : Prop where
  entry : after.entries name = before.entries name
  content : after.read name = before.read name

section Frames

variable {directory next : Directory Name Item} {name other source target : Name} {file : Nat}

theorem file_ne_of_name_ne {number : Nat} (named : directory.entries name = some file)
    (found : directory.entries other = some number) (different : other ≠ name) :
    file ≠ number := by
  rintro rfl
  exact different (directory.single other name file found named)

theorem same_write (named : directory.entries name = some file) (different : other ≠ name)
    (hole : Item) (offset : Nat) (chunk : List Item) :
    Same other directory (directory.write hole file offset chunk) := by
  refine ⟨rfl, ?_⟩
  unfold read write
  cases found : directory.entries other with
  | none => rfl
  | some => simp [List.getElem?_modify_ne, file_ne_of_name_ne named found different]

variable [DecidableEq Name]

theorem same_add (different : other ≠ name) : Same other directory (directory.add name) := by
  have entry : (directory.add name).entries other = directory.entries other := by
    simp [add, different]
  refine ⟨entry, ?_⟩
  unfold read
  rw [entry]
  cases found : directory.entries other with
  | none => rfl
  | some number =>
    have present := directory.linked other number found
    simp [add, List.getElem?_append_left present]

theorem same_openTruncated (different : other ≠ name) :
    Same other directory (directory.openTruncated name).1 := by
  unfold openTruncated
  cases named : directory.entries name with
  | none => exact same_add different
  | some =>
    refine ⟨rfl, ?_⟩
    unfold read
    cases found : directory.entries other with
    | none => rfl
    | some => simp [List.getElem?_set_ne (file_ne_of_name_ne named found different)]

theorem same_rename (renamed : directory.rename source target = some next)
    (notSource : other ≠ source) (notTarget : other ≠ target) :
    Same other directory next := by
  unfold rename at renamed
  split at renamed
  · cases renamed
  · cases renamed
    constructor <;> simp [read, notSource, notTarget]

end Frames

theorem finite_names (directory : Directory Name Item) :
    {name | (directory.entries name).isSome}.Finite := by
  apply Set.Finite.of_injOn (f := fun name => (directory.entries name).getD 0) ?_ ?_
    (Set.finite_Iio directory.files.length)
  · intro name taken
    obtain ⟨file, named⟩ := Option.isSome_iff_exists.mp taken
    have present := directory.linked name file named
    simpa [named] using present
  · intro first firstTaken second secondTaken same
    obtain ⟨file, firstNamed⟩ := Option.isSome_iff_exists.mp firstTaken
    obtain ⟨number, secondNamed⟩ := Option.isSome_iff_exists.mp secondTaken
    simp only [firstNamed, secondNamed, Option.getD_some] at same
    subst same
    exact directory.single first second file firstNamed secondNamed

end Directory

end Strobengine.Foundations
