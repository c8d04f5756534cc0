import BulkSuppress.Disk.Change

/-
  What a system knows of files apart from what is in them: the rights, the times of the last access
  and change, and which names stand for one and the same file. Only what differs from the usual is
  kept, by location; what is no longer on the disk is forgotten.
-/

namespace BulkSuppress.Shell

/-- The times of something on the disk, in nanoseconds from the start of 1970 on. -/
structure Stamp where
  access : Int
  change : Int
deriving DecidableEq, Repr

/-- What is known of files. -/
structure Attributes where
  modes : List (Location × Nat) := []
  stamps : List (Location × Stamp) := []
  /-- Numbers of files that have more than one name. -/
  twins : List (Location × Nat) := []

namespace Attributes

/-- What is known without some locations. -/
def without (a : Attributes) (gone : Location → Bool) : Attributes where
  modes := a.modes.filter fun x => !gone x.1
  stamps := a.stamps.filter fun x => !gone x.1
  twins := a.twins.filter fun x => !gone x.1

/-- What is known after something has got another place, where it replaces what was there. -/
def moved (a : Attributes) (source target : Location) : Attributes :=
  let place (loc : Location) : Location :=
    if source.isPrefixOf loc then target ++ loc.drop source.length else loc
  let a := a.without fun loc => target.isPrefixOf loc && !source.isPrefixOf loc
  { modes := a.modes.map fun x => (place x.1, x.2)
    stamps := a.stamps.map fun x => (place x.1, x.2)
    twins := a.twins.map fun x => (place x.1, x.2) }

/-- All locations of the file at a location. -/
def namesOf (a : Attributes) (loc : Location) : List Location :=
  match a.twins.lookup loc with
  | some number => (a.twins.filter fun x => x.2 = number).map (·.1)
  | none => [loc]

/-- What is known after a file has got another name. -/
def joined (a : Attributes) (loc other : Location) : Attributes :=
  let free := (a.twins.map (·.2)).foldl max 0 + 1
  let number := (a.twins.lookup loc).getD free
  let twins := if (a.twins.lookup loc).isSome then a.twins else (loc, number) :: a.twins
  let known := a.without (· = other)
  { modes := (a.modes.lookup loc).elim known.modes fun mode => (other, mode) :: known.modes
    stamps := (a.stamps.lookup loc).elim known.stamps fun s => (other, s) :: known.stamps
    twins := (other, number) :: twins.filter fun x => x.1 ≠ other }

end Attributes
end BulkSuppress.Shell
