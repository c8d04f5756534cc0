import BulkSuppress.Shell.Calendar
import BulkSuppress.Shell.Utility.Arguments
import BulkSuppress.Shell.Utility.Listing.Item

/-
  Writing what directories hold, in the forms that options ask for.
-/

namespace BulkSuppress.Shell.Utility.Listing

/-! ## Requests -/

/-- How items are laid out. -/
inductive Form where
  | lines
  | columns
  | across
  | commas
  | long
deriving DecidableEq, Repr

/-- Which items get a sign behind their names that tells their kind. -/
inductive Signs where
  | none
  | directories
  | kinds
  /-- Programs too. -/
  | all
deriving DecidableEq, Repr

/-- Which links are followed. -/
inductive Following where
  /-- Operands that lead to directories, unless the form is about links themselves. -/
  | byForm
  | directories
  | operands
  | all
deriving DecidableEq, Repr

/-- What is written about which files. -/
structure Request where
  form : Form := .lines
  signs : Signs := .none
  following : Following := .byForm
  style : QuotingStyle := .literal
  /-- What cannot be seen is shown by question marks. -/
  hidesUnseen : Bool := false
  /-- Names that start with a dot are shown, and those of the directory itself and its parent. -/
  dotted : Bool := false
  special : Bool := false
  skipsBackups : Bool := false
  /-- Patterns of names that are never shown, and of those that are not shown by themselves. -/
  ignored : List Octets := []
  hidden : List Octets := []
  order : Order := .name
  reversed : Bool := false
  directoriesFirst : Bool := false
  recursive : Bool := false
  itself : Bool := false
  blocks : Bool := false
  numbers : Bool := false
  owner : Bool := true
  group : Bool := true
  /-- Files are listed by the time of the last access. -/
  byAccess : Bool := false
  /-- The formats of times in the last half year, and of all others. -/
  recentTimes : Octets := "%b %e %H:%M".toList
  otherTimes : Octets := "%b %e  %Y".toList
  author : Bool := false
  numeric : Bool := false
  context : Bool := false
  colored : Bool := false
  /-- The unit of sizes, and of what is occupied. -/
  unit : SizeUnit := .octets 1
  blockUnit : SizeUnit := .octets 1024
  page : Page := {}

/-- The names of forms. -/
def Form.names : List (List String × Form) :=
  [(["verbose"], .long), (["long"], .long), (["commas"], .commas), (["horizontal"], .across),
    (["across"], .across), (["vertical"], .columns), (["single-column"], .lines)]

/-- The names of orders. -/
def Order.names : List (List String × Order) :=
  [(["none"], .unordered), (["time"], .time), (["size"], .size), (["extension"], .suffix),
    (["version"], .version), (["width"], .width)]

/-- The names of ways to give signs. -/
def Signs.names : List (List String × Signs) :=
  [(["none"], .none), (["slash"], .directories), (["file-type"], .kinds), (["classify"], .all)]

/-- The names of times of files. -/
def timeNames : List (List String × Nat) :=
  [(["atime", "access", "use"], 0), (["ctime", "status"], 1), (["mtime", "modification"], 2),
    (["birth", "creation"], 3)]

/-- Names for when something is done; the output is no terminal. -/
def whenNames : List (List String × Bool) :=
  [(["always", "yes", "force"], true), (["never", "no", "none"], false),
    (["auto", "tty", "if-tty"], false)]

namespace Request

/-- The format of times in full. -/
def fullTimes : Octets := "%Y-%m-%d %H:%M:%S.%N %z".toList

/-- The order that times of access and of status come to, unless another one is asked for. -/
def orderByTime (q : Request) : Order := if q.order = .name then .time else q.order

/-- The request with times in a style, if it is one. -/
def withTimes? (q : Request) (style : Octets) : Option Request :=
  let posix : Octets := "posix-".toList
  let style := if posix.isPrefixOf style then style.drop posix.length else style
  let both (format : String) : Request :=
    { q with recentTimes := format.toList, otherTimes := format.toList }
  match String.ofList style with
  | "full-iso" => some { q with recentTimes := fullTimes, otherTimes := fullTimes }
  | "long-iso" => some (both "%Y-%m-%d %H:%M")
  | "iso" => some { q with recentTimes := "%m-%d %H:%M".toList, otherTimes := "%Y-%m-%d ".toList }
  | "locale" => some q
  | _ =>
    match style with
    | '+' :: format =>
      match Text.pieces '\n' format with
      | [other, recent] => some { q with recentTimes := recent, otherTimes := other }
      | _ => some { q with recentTimes := format, otherTimes := format }
    | _ => none

/-- The request with what an option without a value asks for. -/
def withLetter (q : Request) (letter : Char) : Request :=
  match letter with
  | 'a' => { q with dotted := true, special := true }
  | 'A' => { q with dotted := true, special := false }
  | 'b' => { q with style := .escaped }
  | 'B' => { q with skipsBackups := true }
  | 'c' => { q with byAccess := false, order := q.orderByTime }
  | 'u' => { q with byAccess := true, order := q.orderByTime }
  | 'C' => { q with form := .columns }
  | 'd' => { q with itself := true }
  | 'f' => { q with
      dotted := true, special := true, order := .unordered, colored := false, blocks := false
      form := if q.form = .long then .lines else q.form }
  | 'F' => { q with signs := .all }
  | 'g' => { q with form := .long, owner := false }
  | 'G' => { q with group := false }
  | 'h' => { q with unit := .human 1024, blockUnit := .human 1024 }
  | 'η' => { q with unit := .human 1000, blockUnit := .human 1000 }
  | 'H' => { q with following := .operands }
  | 'δ' => { q with following := .directories }
  | 'i' => { q with numbers := true }
  | 'k' => { q with blockUnit := .octets 1024 }
  | 'l' => { q with form := .long }
  | 'ε' => { q with form := .long, recentTimes := fullTimes, otherTimes := fullTimes }
  | 'L' => { q with following := .all }
  | 'm' => { q with form := .commas }
  | 'n' => { q with form := .long, numeric := true }
  | 'N' => { q with style := .literal }
  | 'o' => { q with form := .long, group := false }
  | 'p' => { q with signs := .directories }
  | 'φ' => { q with signs := .kinds }
  | 'q' => { q with hidesUnseen := true }
  | 'Q' => { q with style := .double true }
  | 'r' => { q with reversed := true }
  | 'R' => { q with recursive := true }
  | 's' => { q with blocks := true }
  | 'S' => { q with order := .size }
  | 't' => { q with order := .time }
  | 'U' => { q with order := .unordered }
  | 'v' => { q with order := .version }
  | 'x' => { q with form := .across }
  | 'X' => { q with order := .suffix }
  | 'Z' => { q with context := true }
  | '1' => { q with form := if q.form = .long then .long else .lines }
  | 'α' => { q with author := true }
  | 'γ' => { q with directoriesFirst := true }
  | 'θ' => { q with hidesUnseen := false }
  | 'ζ' => { q with
      form := if q.form = .long then .long else .lines, style := .literal, hidesUnseen := false
      colored := false, page := { q.page with lineEnd := '\x00' } }
  | _ => q

end Request

/-- The size that a text spells for the unit of blocks. -/
def blockUnit? (cs : Octets) : Option SizeUnit :=
  if cs = "human-readable".toList then some (.human 1024)
  else if cs = "si".toList then some (.human 1000)
  else
    match sized countUnits (if cs.head?.any isDigit then cs else '1' :: cs) with
    | .ok n => if n = 0 then none else some (.octets n)
    | .error _ => none

/-- The request with what an option asks for, or how the listing ends because of it. -/
def withChoice (q : Request) (c : Choice) : Run (Except Nat Request) := do
  let named {α : Type} [BEq α] (option : String) (table : List (List String × α))
      (f : α → Request) : Run (Except Nat Request) := do
    match ← namedValue? "ls" option table c.value with
    | some x => return .ok (f x)
    | none => return .error 1
  let number (what : String) (f : Nat → Request) : Run (Except Nat Request) := do
    match sized countUnits c.value with
    | .ok n => return .ok (f n)
    | .error _ =>
      complain "ls" (("invalid " ++ what ++ ": ").toList ++ quoted c.value)
      return .error 2
  match c.letter with
  | 'ω' =>
    if c.value.isEmpty then return .ok { q with signs := .all }
    else named "--classify" whenNames fun b => if b then { q with signs := .all } else q
  | 'κ' =>
    if c.value.isEmpty then return .ok { q with colored := true }
    else named "--color" whenNames fun b => { q with colored := b }
  | 'ο' => named "--sort" Order.names fun o => { q with order := o }
  | 'Φ' => named "--format" Form.names fun f => { q with form := f }
  | 'Ψ' => named "--quoting-style" QuotingStyle.names fun s => { q with style := s }
  | 'Ι' => named "--indicator-style" Signs.names fun s => { q with signs := s }
  | 'τ' => named "--time" timeNames fun n =>
      { q with byAccess := n = 0, order := q.orderByTime }
  | 'Τ' =>
    match q.withTimes? c.value with
    | some q => return .ok q
    | none =>
      complain "ls" ("invalid argument ".toList ++ quoted c.value ++ " for 'time style'".toList)
      for l in ["Valid arguments are:", "  - [posix-]full-iso", "  - [posix-]long-iso",
          "  - [posix-]iso", "  - [posix-]locale",
          "  - +FORMAT (e.g., +%H:%M) for a 'date'-style format"] do
        Run.complain l.toList
      hint "ls"
      return .error 2
  | 'I' => return .ok { q with ignored := q.ignored ++ [c.value] }
  | 'ι' => return .ok { q with hidden := q.hidden ++ [c.value] }
  | 'w' => number "line width" fun n => { q with page := { q.page with width := n } }
  | 'T' => number "tab size" fun n => { q with page := { q.page with tab := n } }
  | 'β' =>
    match blockUnit? c.value with
    | some u => return .ok { q with unit := u, blockUnit := u }
    | none =>
      complain "ls" ("invalid --block-size argument ".toList ++ quoted c.value)
      return .error 2
  | letter => return .ok (q.withLetter letter)

/-- The request of options. -/
def requested (q : Request) : List Choice → Run (Except Nat Request)
  | [] => return .ok q
  | c :: rest => do
    match ← withChoice q c with
    | .ok q => requested q rest
    | .error status => return .error status

/-! ## Items -/

/-- The pattern matches the name. A dot at the front only matches a dot. -/
def fits (pattern name : Octets) : Bool :=
  (name.head? ≠ some '.' || pattern.head? = some '.') && isMatch (textParts pattern) name

/-- The name is shown in a listing of its directory. -/
def Request.shows (q : Request) (name : Octets) : Bool :=
  (q.dotted || (name.head? ≠ some '.' && !q.hidden.any (fits · name))) &&
    !q.ignored.any (fits · name) &&
    !(q.skipsBackups && name.getLast? = some '~')

/-- What is at a name, with links followed or not. -/
def itemAt (m : Machine) (byAccess follows : Bool) (name : Octets) (loc : Location) :
    Option Item :=
  let timeOf (loc : Location) : Int :=
    let s := m.stampAt loc
    if byAccess then s.access else s.change
  match m.disk.entryAt? loc with
  | none => none
  | some entry =>
    let target := match entry with
      | .link _ =>
        ((m.disk.resolve ⟨"/" ++ "/".intercalate loc⟩).toOption).bind fun t =>
          (m.disk.entryAt? t).map fun e => (t, e)
      | _ => none
    match target with
    | some (t, e) =>
      if follows then
        some { name, location := t, entry := e, mode := m.modeAt t, time := timeOf t }
      else
        some { name, location := loc, entry, mode := m.modeAt loc, time := timeOf loc
               linked := some e }
    | none => some { name, location := loc, entry, mode := m.modeAt loc, time := timeOf loc }

/-- The items of a directory, in no order. -/
def itemsOf (m : Machine) (q : Request) (dir : Location) : List Item :=
  let names := m.disk.entries.filterMap fun e => Disk.childName? dir e.1
  let own := names.filterMap fun n =>
    let name := Octets.ofText n
    if q.shows name then itemAt m q.byAccess (q.following = .all) name (dir ++ [n])
    else none
  let special := if q.special then
      [(['.'], dir), (['.', '.'], dir.dropLast)].filterMap fun (n, loc) =>
        if q.ignored.any fun p => fits p n then none else itemAt m q.byAccess false n loc
    else []
  special ++ own

/-! ## Writing -/

/-- The name of an item as it is shown. -/
def Request.shownName (q : Request) (name : Octets) : Octets :=
  let shown := q.style.show name
  if q.hidesUnseen then shown.map fun c => if (unseen? c).isSome then '?' else c else shown

/-- The sign behind a name that tells a kind. -/
def Request.sign (q : Request) (entry : Entry) (mode : Nat) : Octets :=
  match entry, q.signs with
  | _, .none => []
  | .directory, _ => ['/']
  | _, .directories => []
  | .link _, _ => ['@']
  | .file .., .all => if mode &&& 73 ≠ 0 then ['*'] else []
  | _, _ => []

/-- The numbers of a color for a kind of file. -/
def colorOf (entry : Entry) (mode : Nat) : Option String :=
  match entry with
  | .directory =>
    some (if mode &&& 514 = 514 then "30;42" else if mode &&& 2 ≠ 0 then "34;42"
      else if mode &&& 512 ≠ 0 then "37;44" else "01;34")
  | .link _ => some "01;36"
  | .nullDevice => some "40;33;01"
  | .file .. =>
    if mode &&& 2048 ≠ 0 then some "37;41" else if mode &&& 1024 ≠ 0 then some "30;43"
    else if mode &&& 73 ≠ 0 then some "01;32" else none

/-- The sign that starts a color. -/
def colorStart (numbers : String) : Octets := '\x1b' :: '[' :: numbers.toList ++ ['m']

/-- A text in the color of a kind of file, if colors are asked for. -/
def Request.paint (q : Request) (entry : Entry) (mode : Nat) (cs : Octets) : Octets :=
  match if q.colored then colorOf entry mode else none with
  | some numbers => colorStart numbers ++ cs ++ colorStart "0"
  | none => cs

/-- The widths of what stands in front of names. -/
structure Fronts where
  number : Nat := 0
  blocks : Nat := 0
  links : Nat := 0
  size : Nat := 0

/-- A number that stands for the place of an item on the disk. -/
def placeNumber (m : Machine) (i : Item) : Nat :=
  let names := m.attributes.namesOf i.location
  (m.disk.entries.findIdx fun e => names.contains e.1) + 1

/-- The number of names that lead to an item. -/
def linkCount (m : Machine) (i : Item) : Nat :=
  if i.isDirectory then
    2 + (m.disk.entries.filter fun e =>
      e.2.kind == .directory && (Disk.childName? i.location e.1).isSome).length
  else (m.attributes.namesOf i.location).length

/-- The owner of all files, as it is shown. -/
def Request.ownerName (q : Request) : Octets := if q.numeric then ['0'] else "root".toList

/-- The size of an item, or the numbers of a device. -/
def Request.sizeText (q : Request) (i : Item) : Octets :=
  match i.entry with
  | .nullDevice => "1, 3".toList
  | _ => q.unit.show i.size

/-- The widths of what stands in front of the names of items. -/
def frontsOf (m : Machine) (q : Request) (items : List Item) : Fronts :=
  let widest (f : Item → Octets) : Nat := items.foldl (fun w i => max w (f i).length) 0
  if q.form = .commas then {}
  else
    { number := widest fun i => decimal (placeNumber m i)
      blocks := widest fun i => q.blockUnit.show i.occupied
      links := widest fun i => decimal (linkCount m i)
      size := widest q.sizeText }

/-- The time of an item as it is shown. -/
def shownTime (m : Machine) (q : Request) (i : Item) : Octets :=
  let now := m.now
  let isRecent := now - 15778476 * 1000000000 < i.time && i.time ≤ now
  (Moment.ofNanoseconds i.time).format true (if isRecent then q.recentTimes else q.otherTimes)

/-- What stands in front of a name in any form. -/
def front (m : Machine) (q : Request) (f : Fronts) (i : Item) : Octets :=
  (if q.numbers then padLeft f.number (decimal (placeNumber m i)) ++ [' '] else []) ++
  (if q.blocks then padLeft f.blocks (q.blockUnit.show i.occupied) ++ [' '] else []) ++
  (if q.context && q.form ≠ .long then "? ".toList else [])

/-- An item with its sign; in the long form with what a link leads to. -/
def named (q : Request) (i : Item) : Octets :=
  let name := q.paint i.entry i.mode (q.shownName i.name)
  match q.form, i.entry, i.linked with
  | .long, .link target, linked =>
    name ++ " -> ".toList ++ q.shownName (Octets.ofText target.text) ++ (match linked with
      | some e => q.sign e (Machine.usualMode e)
      | none => [])
  | _, _, _ => name ++ q.sign i.entry i.mode

/-- A line of the long form. -/
def longLine (m : Machine) (q : Request) (f : Fronts) (i : Item) : Octets :=
  let column (shown : Bool) (cs : Octets) : Octets := if shown then cs ++ [' '] else []
  front m q f i ++ kindLetter i.entry :: rights i.mode ++ [' '] ++
    padLeft f.links (decimal (linkCount m i)) ++ [' '] ++ column q.owner q.ownerName ++
    column q.group q.ownerName ++ column q.author q.ownerName ++ column q.context ['?'] ++
    padLeft f.size (q.sizeText i) ++ [' '] ++ shownTime m q i ++ [' '] ++ named q i ++ [q.page.lineEnd]

/-- The width of a text, of which only what can be seen counts. -/
def shownWidth (cs : Octets) : Nat := (cs.filter fun c => c = ' ' || isGraphic c).length

/-- Items in the form that is asked for. -/
def laidOut (m : Machine) (q : Request) (items : List Item) : Octets :=
  let f := frontsOf m q items
  let cells := items.map fun i =>
    ({ text := front m q f i ++ named q i
       width := (front m q f i).length + shownWidth (q.shownName i.name) +
         (q.sign i.entry i.mode).length } : Cell)
  match q.form with
  | .long => items.flatMap (longLine m q f)
  | .lines => cells.flatMap fun c => c.text ++ [q.page.lineEnd]
  | .commas => withCommas q.page cells
  | .columns => if cells.isEmpty then [] else inColumns q.page true cells
  | .across => if cells.isEmpty then [] else inColumns q.page false cells

/-- The text with the color in front that takes back all others, if it has colors. -/
def uncoloredFirst (cs : Octets) : Octets :=
  let before := cs.takeWhile (· ≠ '\x1b')
  if before.length = cs.length then cs
  else before ++ colorStart "0" ++ cs.drop before.length

/-- A directory with its items, under its name or not, and the directories that are below it. -/
def directoryText (m : Machine) (q : Request) (titled : Bool) :
    Nat → (name : Octets) → Location → List Octets
  | 0, _, _ => []
  | n + 1, name, dir =>
    let items := q.order.sorted q.reversed q.directoriesFirst (itemsOf m q dir)
    let title := if titled then q.shownName name ++ [':', '\n'] else []
    let total := if q.form = .long || q.blocks then
        "total ".toList ++ q.blockUnit.show (total (items.map Item.occupied)) ++ [q.page.lineEnd]
      else []
    let below := if q.recursive then
        items.filter fun i => i.isDirectory && i.name ≠ ['.'] && i.name ≠ ['.', '.']
      else []
    let inside (i : Item) : Octets :=
      if name.getLast? = some '/' then name ++ i.name else name ++ '/' :: i.name
    (title ++ total ++ laidOut m q items) ::
      below.flatMap fun i => directoryText m q titled n (inside i) i.location

/-- A bound on the depth of directories. -/
def depthLimit : Nat := 1000

/-- Links among operands are followed. -/
def Request.followsOperand (q : Request) (isDirectory : Bool) : Bool :=
  match q.following with
  | .all | .operands => true
  | .directories => isDirectory
  | .byForm => isDirectory && !(q.itself || q.signs = .all || q.form = .long)

/-- What an operand names, or why that cannot be told. -/
def operandItem (m : Machine) (q : Request) (cs : Octets) : Except SystemError Item := do
  let path : Path := ⟨Octets.toText cs⟩
  let target := m.disk.resolve path
  let self := m.disk.locate { staysOnLink := true } path
  let isDirectory := target.toOption.any m.disk.isDirectoryAt
  let loc ← if q.followsOperand isDirectory && target.toOption.isSome then target
    else if q.following = .all then target else self
  match itemAt m q.byAccess false cs loc with
  | some i => return i
  | none => throw .notFound

/-- Write what directories hold, behind the given settings. -/
def listing (q : Request) (operands : List Octets) : Run Nat := do
  let m ← get
  let mut status := 0
  let mut items : List Item := []
  for cs in if operands.isEmpty then [['.']] else operands do
    match operandItem m q cs with
    | .ok i => items := items ++ [i]
    | .error e =>
      complain "ls" ("cannot access ".toList ++ quoted cs ++ ": ".toList ++ (reasonOf e).toList)
      status := 2
  let sorted := q.order.sorted q.reversed q.directoriesFirst items
  let (directories, files) := sorted.partition fun i => i.isDirectory && !q.itself
  let titled := q.recursive || 1 < operands.length
  let parts := directories.flatMap fun i => directoryText m q titled depthLimit i.name i.location
  let parts := if files.isEmpty then parts else laidOut m q files :: parts
  Run.write (uncoloredFirst (Octets.join ['\n'] parts))
  return status

/-- The options; those without a letter of ASCII have long names only. -/
def spec (name : String) : Options where
  name := name
  letters := "abcdfghiklmnopqrstuvw:xABCDFω::GHI:LNQRST:UXZ1εγφηδι:Ι:Ψ:θΦ:ο:τ:Τ:ζκ::λ::β:α"
  failure := 2
  longs := [("all", 'a'), ("escape", 'b'), ("directory", 'd'), ("dired", 'D'),
    ("full-time", 'ε'), ("group-directories-first", 'γ'), ("human-readable", 'h'), ("inode", 'i'),
    ("kibibytes", 'k'), ("numeric-uid-gid", 'n'), ("no-group", 'G'), ("hide-control-chars", 'q'),
    ("reverse", 'r'), ("size", 's'), ("width", 'w'), ("almost-all", 'A'), ("ignore-backups", 'B'),
    ("classify", 'ω'), ("file-type", 'φ'), ("si", 'η'), ("dereference-command-line", 'H'),
    ("dereference-command-line-symlink-to-dir", 'δ'), ("hide", 'ι'), ("ignore", 'I'),
    ("indicator-style", 'Ι'), ("dereference", 'L'), ("literal", 'N'), ("quote-name", 'Q'),
    ("quoting-style", 'Ψ'), ("recursive", 'R'), ("format", 'Φ'), ("show-control-chars", 'θ'),
    ("sort", 'ο'), ("tabsize", 'T'), ("time", 'τ'), ("time-style", 'Τ'), ("zero", 'ζ'),
    ("color", 'κ'), ("hyperlink", 'λ'), ("block-size", 'β'), ("context", 'Z'), ("author", 'α')]

/-- Write what directories hold, in a form by default. -/
def run (name : String) (initial : Request) : Action := fun args =>
  withOptions (spec name) args fun choices operands => do
    let columns := ((← get).value? "COLUMNS").bind decimal?
    let isLong := choices.any fun c => "lgnoε".toList.contains c.letter
    let isOrdered := choices.any fun c => "tSUXvfο".toList.contains c.letter
    let start := { initial with page := { width := columns.getD 80 } }
    match ← requested start choices with
    | .ok q =>
      let q := if isLong && !isOrdered && q.order = .time then { q with order := .name } else q
      let terminal := ((← get).environment.lookup "TERM").getD []
      let knows := !terminal.isEmpty && terminal ≠ "dumb".toList
      listing { q with colored := q.colored && knows } operands
    | .error status => return status

end BulkSuppress.Shell.Utility.Listing
