import BulkSuppress.Disk.Resolve
import BulkSuppress.Exclusion.Filter
import BulkSuppress.Exclusion.IgnoreList
import BulkSuppress.Path.Order

/-
  Discovery: the files below a base directory that a selection pattern picks and the exclusion
  filter leaves in. The pattern is matched against a path as seen from the base; the filter sees
  it from the project root, or from the base when it lies outside the project. Directories that
  the filter excludes are not entered as long as nothing could take their files back in.

  Every directory of a disk can be read, so the walk itself never fails. Where a system keeps a
  directory from being read, discovery fails as well, with a discovery failure for the base; that
  is not covered.
-/

namespace BulkSuppress

/-- Whether a piece of a pattern is kept: `.` is dropped everywhere, nothing behind the front. -/
def Glob.keepsPiece (index : Nat) (piece : List Char) : Bool :=
  piece != ['.'] && !(index != 0 && piece.isEmpty)

/-- The pattern without the pieces that paths do not have. -/
def Glob.normalizeSource (pattern : String) : String :=
  Path.unpieces <|
    ((Text.pieces '/' pattern.toList).zipIdx.filter fun p => Glob.keepsPiece p.2 p.1).map (·.1)

/-- What to discover. -/
structure Discoverer where
  /-- The directory whose files are considered. -/
  base : Path
  /-- The directory that exclusions are relative to. -/
  projectRoot : Path
  /-- The selection pattern, relative to the base. -/
  selection : Glob
  filter : Exclusion.Filter
deriving DecidableEq, Repr

namespace Discoverer

/-- The base directory seen from the project root; an absolute base stands for itself. -/
def resolveBase (projectRoot base : Path) : Path :=
  (base.components.filter (· ≠ .current)).foldl (fun p c => p.join c.toPath) projectRoot

/-- The discoverer of a base, a selection pattern, a project root and the ignored patterns. -/
def make (base : Path) (pattern : String) (projectRoot : Path) (ignore : List String) :
    Except Failure (Logged Discoverer) :=
  match Glob.parse (Glob.normalizeSource pattern) with
  | .error e => .error (.pattern (.invalid pattern e))
  | .ok selection => .ok do
    let filter ← Exclusion.Filter.default.addValid ignore
    return { base := resolveBase projectRoot base, projectRoot, selection, filter }

variable (s : Discoverer)

/-- The path as the exclusion filter sees it, where `fromBase` is the path seen from the base. -/
def exclusionPath (p fromBase : Path) : Path :=
  (p.stripPrefix? s.projectRoot).getD fromBase

/-- A path below the base is picked by the selection pattern and not excluded. -/
def selects (p : Path) : Bool :=
  match p.stripPrefix? s.base with
  | none => false
  | some fromBase =>
    s.selection.isMatch true (Path.slashed fromBase.names) &&
      !s.filter.excludes (s.exclusionPath p fromBase)

/-- The events of deciding about a path: for a picked path that is excluded, why. -/
def decisionEvents (p : Path) : List Event :=
  match p.stripPrefix? s.base with
  | none => []
  | some fromBase =>
    let relative := s.exclusionPath p fromBase
    if s.selection.isMatch true (Path.slashed fromBase.names) && s.filter.excludes relative then
      (s.filter.explain relative).map fun line => .trace (relative.text ++ ": " ++ line)
    else []

/-- The name of a file that no directory is expected to hold. -/
def probe : String := "__probe__"

/--
Everything in a directory is excluded: a probe file in it is, and not for its own name's sake.
-/
def excludesDirectory (dir : Path) : Bool :=
  match dir.stripPrefix? s.base with
  | none => false
  | some fromBase =>
    s.filter.excludes ((s.exclusionPath dir fromBase).child probe) && !s.filter.excludes ⟨probe⟩

/-- A directory below the base that need not be entered. -/
def prunes (dir : Path) : Bool :=
  !s.filter.hasNegations && s.excludesDirectory dir

/--
The paths of all entries below the directory at `loc`, which is reached by the path `dir`: each
entry before those inside it, the entries of a directory by name. Directories that `skip` tells
are left out with all they hold.
-/
def walk (d : Disk) (skip : Path → Bool) : Nat → Location → Path → List Path
  | 0, _, _ => []
  | depth + 1, loc, dir =>
    (d.children loc).flatMap fun name =>
      let here := dir.child name
      if d.isDirectoryAt (loc ++ [name]) then
        if skip here then [] else here :: walk d skip depth (loc ++ [name]) here
      else [here]

/-- The number of names of the deepest location on a disk. -/
def depth (d : Disk) : Nat :=
  (d.entries.map (·.1.length)).foldl max 0

/-- The paths below the base that are considered, the base itself first. -/
def candidates (d : Disk) (loc : Location) : List Path :=
  s.base :: walk d s.prunes (depth d) loc s.base

/-- The selected files, in the order of the walk. -/
def discover (d : Disk) : Logged (Except Failure (List Path)) := do
  Logged.report (.debug ("Searching in directory: " ++ s.base.text ++ " with pattern: " ++
    s.selection.source))
  match d.resolve s.base with
  | .error _ => return .error (.discovery s.base .missing)
  | .ok loc =>
    if !d.isDirectoryAt loc then return .error (.discovery s.base .notDirectory)
    else
      let files := (s.candidates d loc).filter d.isFile
      let selected := files.filter s.selects
      (⟨(), files.flatMap s.decisionEvents⟩ : Logged Unit)
      Logged.report (.debug ("Discovered " ++ toString selected.length ++ " file(s)"))
      return .ok selected

end Discoverer
end BulkSuppress
