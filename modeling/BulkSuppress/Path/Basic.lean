import BulkSuppress.Text.Lines

/-
  Paths. A path keeps the text it was written with and is read through its components: repeated
  and trailing slashes vanish, `.` counts only at the very front, `..` is a component of its own
  and is not resolved.
-/

namespace BulkSuppress

/-- One step of a path. -/
inductive Component where
  /-- The root directory, in front of an absolute path. -/
  | root
  /-- A `.` at the front of a relative path. -/
  | current
  /-- A `..`. -/
  | parent
  /-- A named entry. -/
  | name (n : String)
deriving DecidableEq, Repr, Inhabited

/-- A path as it was written. -/
structure Path where
  /-- The text, shown unchanged in messages. -/
  text : String
deriving DecidableEq, Repr, Inhabited

namespace Component

/-- The component that a piece between slashes stands for; an empty piece or `.` is none. -/
def ofPiece? (piece : List Char) : Option Component :=
  if piece = [] || piece = ['.'] then none
  else if piece = ['.', '.'] then some .parent
  else some (.name (String.ofList piece))

/-- The component as a path of its own. -/
def toPath : Component → Path
  | .root => ⟨"/"⟩
  | .current => ⟨"."⟩
  | .parent => ⟨".."⟩
  | .name n => ⟨n⟩

/-- The name of a named entry. -/
def name? : Component → Option String
  | .name n => some n
  | _ => none

end Component

namespace Path

/-- The pieces of a path's text: what stands at its front, and the pieces of the rest. -/
structure Anatomy where
  /-- `root` or `current`, if the path starts with one. -/
  front : Option Component
  /-- The pieces between the slashes after the front. -/
  body : List (List Char)

/-- The front and the body of a text. -/
def anatomy (cs : List Char) : Anatomy :=
  match Text.pieces '/' cs with
  | [] => ⟨none, []⟩
  | [[]] => ⟨none, []⟩
  | [] :: body => ⟨some .root, body⟩
  | ['.'] :: body => ⟨some .current, body⟩
  | body => ⟨none, body⟩

/-- The components of a text. -/
def componentsOf (cs : List Char) : List Component :=
  (anatomy cs).front.toList ++ (anatomy cs).body.filterMap Component.ofPiece?

/-- The components of a path, front first. -/
def components (p : Path) : List Component :=
  componentsOf p.text.toList

/-- A path that starts at the root directory. -/
def isAbsolute (p : Path) : Bool :=
  p.text.toList.head? == some '/'

/-- The path `p` seen from the directory `base`; an absolute `p` stands for itself. -/
def join (base p : Path) : Path :=
  if p.isAbsolute || base.text.isEmpty then p
  else if base.text.toList.getLast? == some '/' then ⟨base.text ++ p.text⟩
  else ⟨base.text ++ "/" ++ p.text⟩

/-- The entry `n` of the directory `base`. -/
def child (base : Path) (n : String) : Path :=
  base.join ⟨n⟩

/-- The names of the named components, in order. -/
def names (p : Path) : List String :=
  p.components.filterMap Component.name?

/-- A piece that stands for no component. -/
def isIdle (piece : List Char) : Bool :=
  (Component.ofPiece? piece).isNone

/-- The pieces after the first `n` that stand for components. -/
def dropPieces : Nat → List (List Char) → List (List Char)
  | 0, body => body
  | _ + 1, [] => []
  | n + 1, piece :: body => if isIdle piece then dropPieces (n + 1) body else dropPieces n body

/-- The pieces without the idle ones at the end. -/
def trimPieces (body : List (List Char)) : List (List Char) :=
  (body.reverse.dropWhile isIdle).reverse

/-- The text of pieces with slashes between them. -/
def unpieces (body : List (List Char)) : String :=
  String.ofList (['/'].intercalate body)

/-- The names with slashes between them: the text that patterns are matched against. -/
def slashed (names : List String) : String :=
  unpieces (names.map String.toList)

/-- The text of a path without idle pieces at its end. -/
def trimmedText (p : Path) : String :=
  let a := anatomy p.text.toList
  let body := unpieces (trimPieces a.body)
  match a.front with
  | none => body
  | some .root => "/" ++ body
  | some c => if (trimPieces a.body).isEmpty then c.toPath.text else c.toPath.text ++ "/" ++ body

/--
The rest of `p` below `base`, if the components of `base` are the first components of `p`. The
text between the remaining components is kept; idle pieces around them are dropped.
-/
def stripPrefix? (p base : Path) : Option Path :=
  let above := base.components
  if above.isPrefixOf p.components then
    let a := anatomy p.text.toList
    match above.length with
    | 0 => some ⟨p.trimmedText⟩
    | n + 1 =>
      let named := if a.front.isSome then n else n + 1
      some ⟨unpieces (trimPieces ((dropPieces named a.body).dropWhile isIdle))⟩
  else none

/-- The last component, if it is named. -/
def fileName? (p : Path) : Option String :=
  p.components.getLast?.bind Component.name?

/-- The part of a file name after its last dot; a name that only starts with a dot has none. -/
def extensionOf? (name : List Char) : Option (List Char) :=
  match (Text.pieces '.' name).reverse with
  | [] | [_] => none
  | [_, []] => none
  | ext :: _ => some ext

/-- The extension of the last component's name. -/
def extension? (p : Path) : Option String :=
  p.fileName?.bind fun n => (extensionOf? n.toList).map String.ofList

end Path
end BulkSuppress
