import BulkSuppress.Path.Basic
import BulkSuppress.SystemError

/-
  A disk: a tree of directories, files, symbolic links and the null device, seen through its
  entries by location. `entryAt?_setContent` says that writing a file changes that file alone.
  Rights to read and to write are no part of it: every directory can be read.
-/

namespace BulkSuppress

/-- A place on the disk: the names on the way down from the root directory. -/
abbrev Location := List String

/-- What is found at a location. -/
inductive Entry where
  | file (content : ByteArray) (executable : Bool)
  | directory
  | link (target : Path)
  /-- Nothing is in it, and what is written to it is lost. -/
  | nullDevice

/-- The kind of an entry: what stays the same when a file is written. -/
inductive Kind where
  | file
  | directory
  | link (target : Path)
  | nullDevice
deriving DecidableEq, Repr

/-- The kind of an entry. -/
def Entry.kind : Entry → Kind
  | .file _ _ => .file
  | .directory => .directory
  | .link target => .link target
  | .nullDevice => .nullDevice

/-- The entry with other content, if it is a file. -/
def Entry.withContent (content : ByteArray) : Entry → Entry
  | .file _ executable => .file content executable
  | e => e

/-- The entries of a disk; the root directory is there without being listed. -/
structure Disk where
  entries : List (Location × Entry) := []
  /-- The directory that relative paths start from. -/
  workingDirectory : Location := []

namespace Disk

/-- What is found at a location, not following a link there. -/
def entryAt? (d : Disk) (loc : Location) : Option Entry :=
  if loc = [] then some .directory else d.entries.lookup loc

/-- What is found elsewhere than at the root is listed. -/
theorem mem_entries {d : Disk} {loc : Location} {e : Entry} (h : d.entryAt? loc = some e)
    (hne : loc ≠ []) : (loc, e) ∈ d.entries := by
  rw [entryAt?, if_neg hne] at h
  obtain ⟨l₁, l₂, hl, -⟩ := List.lookup_eq_some_iff.1 h
  rw [hl]
  exact List.mem_append_right _ (List.mem_cons_self ..)

/-- The kind of what is found at a location. -/
def kind? (d : Disk) (loc : Location) : Option Kind :=
  (d.entryAt? loc).map Entry.kind

/-- The location is a directory itself. -/
def isDirectoryAt (d : Disk) (loc : Location) : Bool :=
  d.kind? loc == some .directory

/-- The name of an entry at `loc`, if it lies directly in `dir`. -/
def childName? (dir loc : Location) : Option String :=
  match loc.getLast? with
  | some name => if loc.dropLast = dir then some name else none
  | none => none

/-- The names of the entries directly in `dir`, in order. -/
def children (d : Disk) (dir : Location) : List String :=
  (d.entries.filterMap fun e => childName? dir e.1).mergeSort fun a b => a ≤ b

/-- The disk with other content in the file at `loc`. -/
def setContent (d : Disk) (loc : Location) (content : ByteArray) : Disk :=
  { d with entries := d.entries.map fun e =>
      if e.1 = loc then (e.1, Entry.withContent content e.2) else e }

theorem lookup_map_at (entries : List (Location × Entry)) (loc at' : Location)
    (f : Entry → Entry) :
    (entries.map fun e => if e.1 = loc then (e.1, f e.2) else e).lookup at'
      = if at' = loc then (entries.lookup at').map f else entries.lookup at' := by
  induction entries with
  | nil => simp
  | cons e es ih =>
    obtain ⟨k, v⟩ := e
    by_cases hk : k = loc
    · subst hk
      by_cases ha : at' = k
      · subst ha; simp
      · have : (at' == k) = false := by simpa using ha
        simp [List.lookup_cons, this, ih, ha]
    · by_cases ha : at' = k
      · subst ha; simp [hk]
      · have : (at' == k) = false := by simpa using ha
        simp [List.lookup_cons, hk, this, ih]

/-- Writing a file changes what is found there, and nothing else. -/
theorem entryAt?_setContent (d : Disk) (loc at' : Location) (content : ByteArray) :
    (d.setContent loc content).entryAt? at'
      = if at' = loc then (d.entryAt? at').map (Entry.withContent content) else d.entryAt? at' := by
  unfold entryAt? setContent
  by_cases h : at' = []
  · subst h; by_cases hl : ([] : Location) = loc <;> simp [hl, Entry.withContent]
  · simp only [if_neg h, lookup_map_at]

/-- Writing a file leaves the kinds of all entries as they are. -/
@[simp] theorem kind?_setContent (d : Disk) (loc : Location) (content : ByteArray) :
    (d.setContent loc content).kind? = d.kind? := by
  funext at'
  unfold kind?
  rw [entryAt?_setContent]
  by_cases h : at' = loc
  · subst h
    cases d.entryAt? at' with
    | none => simp
    | some e => cases e <;> simp [Entry.withContent, Entry.kind]
  · simp [h]

/-! ## Building a disk -/

/-- The disk with a further entry, in place of one at the same location. -/
def insert (d : Disk) (loc : Location) (e : Entry) : Disk :=
  { d with entries := (d.entries.filter fun x => x.1 ≠ loc) ++ [(loc, e)] }

/-- The disk with directories at every location above `loc` that has nothing yet. -/
def makeParents (d : Disk) (loc : Location) : Disk :=
  (List.range loc.length).foldl (fun d k =>
    let dir := loc.take k
    if (d.entryAt? dir).isSome then d else d.insert dir .directory) d

/-- The disk with the entry, in directories that are made as needed. -/
def place (d : Disk) (loc : Location) (e : Entry) : Disk :=
  (d.makeParents loc).insert loc e

/-- The files of a disk with their content, links apart. -/
def files (d : Disk) : List (Location × ByteArray) :=
  d.entries.filterMap fun e => match e.2 with
    | .file content _ => some (e.1, content)
    | _ => none

end Disk
end BulkSuppress
