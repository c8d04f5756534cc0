import BulkSuppress.Shell.Utility.Names
import BulkSuppress.Shell.Test

/-
  Putting things in place: what copying and moving have in common. The last operand is the place, or
  a directory in which each of the others gets its place; and what is in the place already is asked
  about, kept under another name, or in the way.
-/

namespace BulkSuppress.Shell.Utility

/-- Which links are followed. -/
inductive Following where
  | never
  /-- Those that are operands. -/
  | operands
  | always
deriving DecidableEq, Repr

/-- What is done about something that is in the place already. -/
inductive Overwriting where
  | unsaid
  | never
  | asked
deriving DecidableEq, Repr

/-- How things are put in place. -/
structure Placing where
  utility : String
  /-- Things are moved there, not copied. -/
  moves : Bool := false
  recursive : Bool := false
  follows : Option Following := none
  overwriting : Overwriting := .unsaid
  /-- Only what is older is replaced. -/
  updates : Bool := false
  verbose : Bool := false
  /-- What cannot be opened for writing is removed. -/
  forces : Bool := false
  /-- What is in the place is removed first. -/
  clears : Bool := false
  /-- Links are made in place of copies. -/
  hardLinks : Bool := false
  softLinks : Bool := false
  keeping : Keeping := .nothing
  suffix : Octets := ['~']
  /-- Copies get the rights and the times as well. -/
  keepsMode : Bool := false
  keepsTimes : Bool := false
  /-- Copies get no content. -/
  withoutContent : Bool := false
  /-- Paths are put below the place as a whole. -/
  parents : Bool := false

namespace Placing

/-- The links that are followed, if nothing else is said. -/
def following (q : Placing) : Following :=
  q.follows.getD (if q.recursive && !q.hardLinks then .never else .always)

/-- Complain, and tell that something went wrong. -/
def refuse (q : Placing) (cs : Octets) : Run Bool := do
  complain q.utility cs
  return false

/-- Complain for a reason that the system gives. -/
def refuseFor (q : Placing) (cs : Octets) (e : SystemError) : Run Bool :=
  q.refuse (cs ++ ": ".toList ++ (reasonOf e).toList)

/-- Two paths in quotes with words between them. -/
def both (a : Octets) (between : String) (b : Octets) : Octets :=
  shellQuoted a ++ between.toList ++ shellQuoted b

/-- Tell what has been put in place, and what has been kept. -/
def tell (first : String) (source target : Octets) (kept : Option Octets) : Run Unit := do
  let backup := kept.elim [] fun cs => " (backup: ".toList ++ shellQuoted cs ++ [')']
  Run.write (first.toList ++ both source " -> " target ++ backup ++ ['\n'])

/-- What has been done for the operands so far. -/
structure Past where
  /-- The locations of the operands. -/
  sources : List Location := []
  /-- The locations at which something has been put. -/
  targets : List Location := []

/-- What is to be put in place. -/
structure Thing where
  path : Octets
  location : Location
  entry : Entry
  /-- It is an operand, and not inside one. -/
  isOperand : Bool := true

/-- Whether something gets its place. -/
inductive Permission where
  /-- It does; what was there is kept under another name. -/
  | granted (isNew : Bool) (kept : Option Octets)
  /-- It does not, and that may be all right. -/
  | denied (isFine : Bool)

/-- The location of a place as the system finds it, following a link there or not. -/
def lookAt (m : Machine) (staysOnLink : Bool) (path : Octets) :
    Except SystemError (Location × Entry) := do
  let loc ← if staysOnLink then m.disk.locateSelf (pathOf path) else m.disk.resolve (pathOf path)
  match m.disk.entryAt? loc with
  | some e => return (loc, e)
  | none => .error .notFound

/-- A link is at a location. -/
def isLinkAt (m : Machine) (loc : Location) : Bool := m.disk.entryAt? loc matches some (.link _)

/-- What putting something in a place that it may itself be in comes to. -/
inductive Sameness where
  | fine
  | same
  /-- There is nothing left to do. -/
  | done
deriving DecidableEq, Repr

/-- Whether the source is in the place already. -/
def sameness (q : Placing) (m : Machine) (s : Thing) (target : Octets) (place : Location) :
    Sameness := Id.run do
  let d := m.disk
  let isOne (a b : Location) : Bool := (m.attributes.namesOf a).contains b
  let own := (d.locateSelf (pathOf s.path)).toOption.getD s.location
  let there := (d.locateSelf (pathOf target)).toOption.getD place
  let areSame := isOne s.location place
  let areSameSelves := isOne own there
  if areSame && q.hardLinks then return .done
  if q.following = .never then
    if (s.entry matches .link _) && isLinkAt m place then
      if own = there then return .same
      else if q.keeping = .nothing && areSameSelves then return if q.moves then .same else .done
      else return .fine
  else
    if !areSame then return .fine
    if isLinkAt m own && isLinkAt m there && q.clears then return .fine
  if q.keeping ≠ .nothing then
    if !areSameSelves then
      if !q.moves && q.following ≠ .never && isLinkAt m own && !isLinkAt m there then return .same
      else return .fine
    else return if own = there then .same else .fine
  if q.moves || q.clears then
    if isLinkAt m there then return .fine
    if areSameSelves && own ≠ there then return if q.moves then .same else .fine
  if !isLinkAt m own && !isLinkAt m there then
    if !areSameSelves then return .fine
    if q.hardLinks then return .done
  if q.softLinks && isLinkAt m there then return .fine
  if q.following = .never then
    let led (loc : Location) : Option Location :=
      if isLinkAt m loc then (d.resolve ⟨"/" ++ Path.slashed loc⟩).toOption else some loc
    match led own, led there with
    | some a, some b => if !isOne a b then return .fine
    | _, _ => return .fine
    if q.hardLinks then return if isLinkAt m there then .fine else .done
  return .same

/-- Keep what is in a place under another name. -/
def keep (q : Placing) (s : Thing) (target : Octets) (place : Location) : Run Permission := do
  let m ← get
  let name := q.keeping.nameFor q.suffix m.disk target
  let isSource := q.keeping ≠ .numbered &&
    (lastName s.path = lastName target ++ q.suffix) &&
    ((lookAt m true (target ++ q.suffix)).toOption.any fun x => x.1 = s.location)
  if isSource then
    let _ ← q.refuse ("backing up ".toList ++ shellQuoted target ++ " might destroy source;  ".toList ++
      shellQuoted s.path ++ (if q.moves then " not moved" else " not copied").toList)
    return .denied false
  else
    match m.rename ⟨"/" ++ Path.slashed place⟩ (pathOf name) with
    | .ok m =>
      set m
      return .granted true (some name)
    | .error e => return .denied (← q.refuseFor ("cannot backup ".toList ++ shellQuoted target) e)

/-- Find out whether something gets a place in which there is something already. -/
def permission (q : Placing) (past : Past) (s : Thing) (target : Octets) (place : Location)
    (there : Entry) : Run Permission := do
  let m ← get
  let isDirectory := s.entry matches .directory
  let hasDirectory := there matches .directory
  let sameness := q.sameness m s target place
  let refuse (cs : Octets) : Run Permission := return .denied (← q.refuse cs)
  if q.overwriting ≠ .never && sameness = .same then
    return ← refuse (both s.path " and " target ++ " are the same file".toList)
  if q.updates && !isDirectory && (m.stampAt place).change ≥ (m.stampAt s.location).change then
    return .denied true
  if q.moves || !isDirectory then
    if q.overwriting = .never then return .denied true
    if q.overwriting = .asked then
      if !(← asks q.utility ("overwrite ".toList ++ shellQuoted target)) then return .denied true
  if sameness = .done then return .denied true
  if !hasDirectory then
    if isDirectory && !(q.moves && q.keeping ≠ .nothing) then
      return ← refuse ("cannot overwrite non-directory ".toList ++
        both target " with directory " s.path)
    if s.isOperand && q.keeping ≠ .numbered && past.targets.contains place then
      return ← refuse ("will not overwrite just-created ".toList ++ both target " with " s.path)
  else if !isDirectory && !(q.moves && q.keeping ≠ .nothing) then
    return ← refuse ("cannot overwrite directory ".toList ++ shellQuoted target ++
      " with non-directory".toList)
  if q.keeping ≠ .nothing && !endsInDots s.path && (q.moves || !hasDirectory) then
    q.keep s target place
  else if !hasDirectory && !q.moves &&
      (q.clears || (q.following = .never && s.entry matches .link _)) then
    set ((← get).without place)
    if q.verbose then Run.write ("removed ".toList ++ shellQuoted target ++ ['\n'])
    return .granted true none
  else return .granted false none

/-! ## Operands -/

/-- Where operands are to be put. -/
inductive Destination where
  /-- In a directory. -/
  | directory (path : Octets)
  /-- In a place of its own. -/
  | place (path : Octets)

/-- Why a path leads to no directory. -/
def directoryProblem? (d : Disk) (path : Octets) : Option SystemError :=
  match d.resolve (pathOf path) with
  | .error e => some e
  | .ok loc => if d.isDirectoryAt loc then none else some .notDirectory

/-- The operands that are put somewhere, and where; if that is not clear, there is a complaint. -/
def destination (q : Placing) (choices : List Choice) (operands : List Octets) :
    Run (Except Nat (List Octets × Destination)) := do
  let complainWith (cs : Octets) (hints : Bool) : Run (Except Nat (List Octets × Destination)) := do
    complain q.utility cs
    if hints then hint q.utility
    return .error 1
  let d := (← get).disk
  let directories := (choices.filter fun c => c.letter = 't').map (·.value)
  let isPlace := chosen choices "T"
  if 1 < directories.length then
    return ← complainWith "multiple target directories specified".toList false
  match operands, directories with
  | [], _ => complainWith "missing file operand".toList true
  | [first], [] =>
    complainWith ("missing destination file operand after ".toList ++ shellQuoted first) true
  | operands, dir :: _ =>
    if isPlace then
      complainWith
        "cannot combine --target-directory (-t) and --no-target-directory (-T)".toList false
    else
      match directoryProblem? d dir with
      | some e =>
        complainWith ("target directory ".toList ++ shellQuoted dir ++ ": ".toList ++
          (reasonOf e).toList) false
      | none => return .ok (operands, .directory dir)
  | first :: second :: more, [] =>
    let last := (second :: more).getLast?.getD second
    if isPlace then
      match more with
      | extra :: _ => complainWith ("extra operand ".toList ++ shellQuoted extra) true
      | [] => return .ok ([first], .place second)
    else
      match directoryProblem? d last with
      | none => return .ok ((first :: second :: more).dropLast, .directory last)
      | some e =>
        if more.isEmpty then return .ok ([first], .place second)
        else
          complainWith ("target ".toList ++ shellQuoted last ++ ": ".toList ++
            (reasonOf e).toList) false

end Placing
end BulkSuppress.Shell.Utility
