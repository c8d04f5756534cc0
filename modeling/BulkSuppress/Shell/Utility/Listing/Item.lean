import BulkSuppress.Disk.Resolve
import BulkSuppress.Shell.Octets
import BulkSuppress.Shell.Utility.Mode
import BulkSuppress.Shell.Utility.Quoting
import BulkSuppress.Shell.Version

/-
  The items of directory listings: what a listing tells about a file, the order of items, and how
  they are laid out on lines: in columns, downwards or across, or one after the other with commas. A
  layout takes the width of each item as it is seen.
-/

namespace BulkSuppress.Shell.Utility.Listing

/-- What is at a name. -/
structure Item where
  name : Octets
  /-- Where it is; nothing is there if a link leads nowhere and is to be followed. -/
  location : Location
  entry : Entry
  /-- The rights of what is there. -/
  mode : Nat
  /-- The time by which it is listed. -/
  time : Int
  /-- What a link leads to. -/
  linked : Option Entry := none

namespace Item

/-- The item is a directory. -/
def isDirectory (i : Item) : Bool := i.entry.kind == .directory

/-- The number of octets that something takes. -/
def sizeOf : Entry → Nat
  | .file content _ => content.size
  | .directory => 4096
  | .link target => (Octets.ofText target.text).length
  | .nullDevice => 0

/-- The number of octets that the item takes. -/
def size (i : Item) : Nat := sizeOf i.entry

/-- The octets of the disk that the item occupies, which come in blocks. -/
def occupied (i : Item) : Nat :=
  match i.entry with
  | .file content _ => (content.size + 4095) / 4096 * 4096
  | .directory => 4096
  | _ => 0

/-- The suffix of the name, with its dot. -/
def suffix (i : Item) : Octets :=
  if i.name.contains '.' then (i.name.reverse.takeWhile (· ≠ '.')).reverse else []

end Item

/-! ## Order -/

/-- What items are ordered by. -/
inductive Order where
  | name
  | unordered
  | time
  | size
  | suffix
  | version
  | width
deriving DecidableEq, Repr

/-- The order of octets. -/
def byOctets (a b : Octets) : Ordering := List.compareLex (fun c d => compare c.toNat d.toNat) a b

/-- The order of two items. -/
def Order.compare (o : Order) (a b : Item) : Ordering :=
  let names := byOctets a.name b.name
  match o with
  | .name => names
  | .unordered => .eq
  | .time => (Ord.compare b.time a.time).then names
  | .size => (Ord.compare b.size a.size).then names
  | .suffix =>
    let rank (i : Item) : Octets := if i.name.contains '.' then '.' :: i.suffix else []
    (byOctets (rank a) (rank b)).then names
  | .version => (Version.order a.name b.name).then names
  | .width => (Ord.compare a.name.length b.name.length).then names

/-- Items in order. -/
def Order.sorted (o : Order) (reversed directoriesFirst : Bool) (items : List Item) : List Item :=
  let items := items.mergeSort fun a b => (o.compare a b).isLE
  let items := if reversed then items.reverse else items
  if directoriesFirst then
    let isFirst (i : Item) : Bool := i.isDirectory || i.linked.any (·.kind == .directory)
    items.filter isFirst ++ items.filter fun i => !isFirst i
  else items

/-- The letter of a kind of entry. -/
def kindLetter : Entry → Char
  | .file .. => '-'
  | .directory => 'd'
  | .link _ => 'l'
  | .nullDevice => 'c'

/-! ## Sizes -/

/-- The unit of sizes. -/
inductive SizeUnit where
  | octets (count : Nat)
  /-- The largest power of a base that is not too large. -/
  | human (base : Nat)
deriving DecidableEq, Repr

/-- The letters of the powers of a unit. -/
def powerLetters (base : Nat) : List Char :=
  if base = 1000 then ['k', 'M', 'G', 'T', 'P', 'E'] else ['K', 'M', 'G', 'T', 'P', 'E']

/-- A size with a letter, rounded up to two digits at least. -/
def humanSize (base n : Nat) : List Char → (power : Nat) → Octets
  | [], _ => (toString n).toList
  | letter :: letters, power =>
    let unit := base ^ power
    let tenths := (10 * n + unit - 1) / unit
    let whole := (n + unit - 1) / unit
    if tenths < 100 then
      (toString (tenths / 10) ++ "." ++ toString (tenths % 10)).toList ++ [letter]
    else if whole < base || letters.isEmpty then (toString whole).toList ++ [letter]
    else humanSize base n letters (power + 1)

/-- A size in a unit, rounded up. -/
def SizeUnit.show (u : SizeUnit) (n : Nat) : Octets :=
  match u with
  | .octets count => (toString ((n + count - 1) / max 1 count)).toList
  | .human base =>
    if n < base then (toString n).toList else humanSize base n (powerLetters base) 1

/-! ## Layout -/

/-- An item of a list. -/
structure Cell where
  text : Octets
  width : Nat

/-- The space that a layout has. -/
structure Page where
  /-- The width of lines; zero stands for no limit. -/
  width : Nat := 80
  /-- The width of tabs; zero stands for no tabs. -/
  tab : Nat := 8
  lineEnd : Char := '\n'

/-! ## Commas -/

/-- Items one after the other with commas. -/
def withCommas (p : Page) (cells : List Cell) : Octets :=
  let step (s : Octets × Nat × Bool) (c : Cell) : Octets × Nat × Bool :=
    let (text, at', isFirst) := s
    if isFirst then (c.text, c.width, false)
    else if p.width = 0 || at' + c.width + 2 < p.width then
      (text ++ [',', ' '] ++ c.text, at' + 2 + c.width, false)
    else (text ++ [',', p.lineEnd] ++ c.text, c.width, false)
  (cells.foldl step ([], 0, true)).1 ++ [p.lineEnd]

/-! ## Columns -/

/-- The least width of a column. -/
def leastColumn : Nat := 3

/-- The column of an item, if there are so many columns and items. -/
def columnOf (downwards : Bool) (columns count place : Nat) : Nat :=
  if downwards then place / ((count + columns - 1) / columns) else place % columns

/-- The widths of columns that hold all items, with space between them. -/
def columnWidths (downwards : Bool) (columns : Nat) (cells : List Cell) : List Nat :=
  let own := cells.zipIdx.map fun (c, i) =>
    let column := columnOf downwards columns cells.length i
    (column, c.width + if column + 1 = columns then 0 else 2)
  (List.range columns).map fun k =>
    (own.filter fun x => x.1 = k).foldl (fun width x => max width x.2) leastColumn

/-- The largest number of columns of a page that holds all items side by side. -/
def columnCount (p : Page) (downwards : Bool) (cells : List Cell) : Nat :=
  let most := if p.width = 0 then cells.length
    else min cells.length ((p.width + leastColumn - 1) / leastColumn)
  let fits (n : Nat) : Bool := p.width = 0 || total (columnWidths downwards n cells) < p.width
  (((List.range most).reverse.map (· + 1)).find? fun n => n = 1 || fits n).getD 1

/-- Space from one place of a line to another, with tabs where they reach. -/
def spaceTo (tab : Nat) (start finish : Nat) : Octets :=
  go (finish - start) start
where
  /-- The space, of which so much is left at most. -/
  go : Nat → Nat → Octets
    | 0, _ => []
    | n + 1, at' =>
      if finish ≤ at' then []
      else if tab ≠ 0 && (at' + 1) / tab < finish / tab then
        '\t' :: go n (at' + (tab - at' % tab))
      else ' ' :: go n (at' + 1)

/-- The items of a line, each from the start of its column on. -/
def columnLine (p : Page) : List (Cell × Nat) → (start : Nat) → Octets
  | [], _ => [p.lineEnd]
  | [(c, _)], _ => c.text ++ [p.lineEnd]
  | (c, width) :: rest, start =>
    c.text ++ spaceTo p.tab (start + c.width) (start + width) ++ columnLine p rest (start + width)

/-- Items in columns. -/
def inColumns (p : Page) (downwards : Bool) (cells : List Cell) : Octets :=
  let columns := columnCount p downwards cells
  let widths := columnWidths downwards columns cells
  let rows := (cells.length + columns - 1) / columns
  (List.range rows).flatMap fun row =>
    let own := cells.zipIdx.filter fun (_, i) =>
      if downwards then i % rows = row else i / columns = row
    columnLine p ((own.map (·.1)).zip widths) 0

end BulkSuppress.Shell.Utility.Listing
