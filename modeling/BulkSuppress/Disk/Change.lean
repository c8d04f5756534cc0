import BulkSuppress.Disk.Resolve

/-
  Making, removing and renaming what a disk holds. Each operation is named by paths and either
  refuses, with the reason, or gives the disk as it is afterwards.
-/

namespace BulkSuppress

/-- Why something cannot be made where something is. -/
def SystemError.alreadyExists : SystemError := .code 17

/-- Why a directory that holds something cannot be removed. -/
def SystemError.notEmpty : SystemError := .code 39

/-- Why a path cannot be named in an operation. -/
def SystemError.invalid : SystemError := .code 22

namespace Disk

/-- The disk without the entries at a location and below it. -/
def erase (d : Disk) (loc : Location) : Disk :=
  { d with entries := d.entries.filter fun e => !loc.isPrefixOf e.1 }

/-- The location of what a path names itself; a link at its end is not followed. -/
def locateSelf (d : Disk) (p : Path) : Except SystemError Location :=
  d.locate { staysOnLink := true } p

/-- The path without slashes at its end. -/
def unslashed (p : Path) : Path :=
  let cs := (p.text.toList.reverse.dropWhile (· = '/')).reverse
  if cs.isEmpty then p else ⟨String.ofList cs⟩

/-- The location that something new gets, which must not be taken. -/
def locateNew (d : Disk) (p : Path) : Except SystemError Location := do
  let loc ← d.locate { mayBeNew := true, staysOnLink := true } (unslashed p)
  if (d.entryAt? loc).isSome then .error .alreadyExists else return loc

/-- What a path names itself. -/
def selfAt? (d : Disk) (p : Path) : Option Entry :=
  match d.locateSelf p with
  | .ok loc => d.entryAt? loc
  | .error _ => none

/--
The location of a file that is opened for writing, and the disk, on which the file is made if it
was not there. Links are followed, also one that leads to nothing yet.
-/
def openFile (d : Disk) (p : Path) : Except SystemError (Location × Disk) := do
  if p.text.toList.getLast? = some '/' && !d.isDirectory p then .error .isDirectory
  let loc ← d.locate { mayBeNew := true } p
  match d.entryAt? loc with
  | none => return (loc, d.insert loc (.file .empty false))
  | some .directory => .error .isDirectory
  | some _ => return (loc, d)

/-- The disk with a file of the content, made or written anew. -/
def writeFile (d : Disk) (p : Path) (content : ByteArray) : Except SystemError Disk := do
  let (loc, d) ← d.openFile p
  return d.setContent loc content

/-- The disk with a new directory. -/
def makeDirectory (d : Disk) (p : Path) : Except SystemError Disk := do
  return d.insert (← d.locateNew p) .directory

/-- The paths of the directories above a path and of itself, outermost first. -/
def ancestors (p : Path) : List Path :=
  let cs := p.text.toList
  let ends := (List.range cs.length).filter fun n => 0 < n && cs[n]? = some '/'
  (ends.map fun n => ⟨String.ofList (cs.take n)⟩) ++ [p]

/-- The disk with a directory, in directories that are made as needed. -/
def makeDirectories (d : Disk) (p : Path) : Except SystemError Disk :=
  (ancestors p).foldlM (fun d dir => if d.isDirectory dir then .ok d else d.makeDirectory dir) d

/-- The disk without an empty directory. -/
def removeDirectory (d : Disk) (p : Path) : Except SystemError Disk := do
  let loc ← d.locateSelf p
  if !d.isDirectoryAt loc then .error .notDirectory
  else if !(d.children loc).isEmpty then .error .notEmpty
  else return d.erase loc

/-- The entries at a location and below it, put at another location. -/
def moved (d : Disk) (source target : Location) : List (Location × Entry) :=
  (d.entries.filter fun e => source.isPrefixOf e.1).map fun e =>
    (target ++ e.1.drop source.length, e.2)

/-- The path ends in a slash. -/
def endsInSlash (p : Path) : Bool := p.text.toList.getLast? = some '/'

/-- The path ends in one or two dots, and so in no name of its own. -/
def endsInDots (p : Path) : Bool :=
  let cs := p.text.toList.reverse.takeWhile (· ≠ '/')
  cs = ['.'] || cs = ['.', '.']

/-- The location that a file that is no directory gets, which must not be taken. -/
def locateNewFile (d : Disk) (p : Path) : Except SystemError Location := do
  let loc ← d.locateNew p
  if endsInSlash p then .error .notFound else return loc

/-- The disk with a new link. -/
def makeLink (d : Disk) (p target : Path) : Except SystemError Disk := do
  return d.insert (← d.locateNewFile p) (.link target)

/-- The disk with something at another place, where it replaces what is there. -/
def rename (d : Disk) (source target : Path) : Except SystemError Disk := do
  let old ← d.locateSelf source
  let new ← d.locate { mayBeNew := true, staysOnLink := true } (unslashed target)
  if endsInDots source || endsInDots target then .error (.code 16)
  if endsInSlash target && !d.isDirectoryAt old then .error .notDirectory
  if old = new then return d
  else if old.isPrefixOf new then .error .invalid
  else
    match d.isDirectoryAt old, d.entryAt? new with
    | true, some .directory => if !(d.children new).isEmpty then .error .notEmpty
    | true, some _ => .error .notDirectory
    | false, some .directory => .error .isDirectory
    | _, _ => pure ()
    let entries := ((d.erase old).erase new).entries ++ d.moved old new
    return { d with entries }

/-- The disk with a file that can be run, or that cannot. -/
def setExecutable (d : Disk) (loc : Location) (executable : Bool) : Disk :=
  match d.entryAt? loc with
  | some (.file content _) => d.insert loc (.file content executable)
  | _ => d

end Disk
end BulkSuppress
