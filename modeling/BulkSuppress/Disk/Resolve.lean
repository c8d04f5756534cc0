import BulkSuppress.Disk.Basic
import BulkSuppress.Text.Utf8

/-
  From paths to what they name. A path is walked piece by piece; links on the way are followed,
  a bounded number of them; a trailing slash asks for a directory. Resolving looks at names,
  directories and links only, so that `resolve_setContent` holds: writing files never changes
  where a path leads.
-/

namespace BulkSuppress.Disk

/-- The number of links that one path may lead through. -/
def linkLimit : Nat := 40

/-- The length of the longest name, in bytes. -/
def nameLimit : Nat := 255

/-- The length of the longest path, in bytes. -/
def pathLimit : Nat := 4095

/-- The pieces of a path's text, and the location that the first piece is looked up in. -/
def startOf (here : Location) (p : Path) : Location :=
  if p.isAbsolute then [] else here

/-- The pieces between the slashes of a path. -/
def piecesOf (p : Path) : List (List Char) :=
  Text.pieces '/' p.text.toList

/-- What the last piece of a path may be. -/
structure LastPiece where
  /-- A name that nothing has yet. -/
  mayBeNew : Bool := false
  /-- A link, which is not followed. -/
  staysOnLink : Bool := false

/--
The location that the pieces lead to from `loc`, through at most `links` links, where `kind`
tells what is found at a location. A piece that is empty or `.` stays, in a directory; `..` goes
up; a name goes down or follows a link.
-/
def walk (kind : Location → Option Kind) (last : LastPiece) (links : Nat) (loc : Location) :
    List (List Char) → Except SystemError Location
  | [] => .ok loc
  | piece :: rest =>
    if kind loc ≠ some .directory then .error .notDirectory
    else match Component.ofPiece? piece with
      | none => walk kind last links loc rest
      | some (.name n) =>
        if nameLimit < n.utf8ByteSize then .error .nameTooLong
        else match kind (loc ++ [n]) with
          | none => if last.mayBeNew && rest.isEmpty then .ok (loc ++ [n]) else .error .notFound
          | some (.link target) =>
            if last.staysOnLink && rest.isEmpty then .ok (loc ++ [n])
            else match links with
            | 0 => .error .tooManyLinks
            | links + 1 =>
              if target.text.isEmpty then .error .notFound
              else walk kind last links (startOf loc target) (piecesOf target ++ rest)
          | some _ => walk kind last links (loc ++ [n]) rest
      | some _ => walk kind last links loc.dropLast rest
termination_by pieces => (links, pieces.length)

/-- The location that a path leads to, whose last piece may be what `last` says. -/
def locate (d : Disk) (last : LastPiece) (p : Path) : Except SystemError Location :=
  if p.text.isEmpty then .error .notFound
  else if p.text.toList.contains '\x00' then .error .nulInPath
  else if pathLimit < p.text.utf8ByteSize then .error .nameTooLong
  else walk d.kind? last linkLimit (startOf d.workingDirectory p) (piecesOf p)

/-- The location that a path leads to, following links to the end. -/
def resolve (d : Disk) (p : Path) : Except SystemError Location :=
  d.locate {} p

/-- Writing a file never changes where a path leads. -/
@[simp] theorem resolve_setContent (d : Disk) (loc : Location) (content : ByteArray) (p : Path) :
    (d.setContent loc content).resolve p = d.resolve p := by
  unfold resolve locate
  rw [kind?_setContent]
  rfl

/-- What a path leads to. -/
def stat? (d : Disk) (p : Path) : Option Entry :=
  match d.resolve p with
  | .ok loc => d.entryAt? loc
  | .error _ => none

/-- The path leads to something. -/
def exists? (d : Disk) (p : Path) : Bool :=
  (d.stat? p).isSome

/-- The path leads to a directory. -/
def isDirectory (d : Disk) (p : Path) : Bool :=
  d.stat? p matches some .directory

/-- The path leads to a file. -/
def isFile (d : Disk) (p : Path) : Bool :=
  d.stat? p matches some (.file ..)

/-- The location and the bytes of the file that a path leads to; the null device has none. -/
def readFile (d : Disk) (p : Path) : Except SystemError (Location × ByteArray) :=
  match d.resolve p with
  | .error e => .error e
  | .ok loc =>
    match d.entryAt? loc with
    | some (.file content _) => .ok (loc, content)
    | some .nullDevice => .ok (loc, .empty)
    | _ => .error .isDirectory

/-- The bytes of a file. -/
def readBytes (d : Disk) (p : Path) : Except SystemError ByteArray :=
  (d.readFile p).map (·.2)

/-- The text of a file. -/
def readText (d : Disk) (p : Path) : Except SystemError String :=
  match d.readBytes p with
  | .error e => .error e
  | .ok bytes =>
    match Utf8.decode? bytes with
    | some text => .ok text
    | none => .error .notText

/-- The disk with other bytes in the file that a path leads to. -/
def writeBytes (d : Disk) (p : Path) (content : ByteArray) : Except SystemError Disk :=
  (d.readFile p).map fun r => d.setContent r.1 content

end BulkSuppress.Disk
