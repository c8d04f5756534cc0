import BulkSuppress.Shell.Utility.Output

/-
  How much is in files: lines, words, octets and the length of the longest line as it is shown.
  The width of the columns comes from the sizes of the files, before anything is read.
-/

namespace BulkSuppress.Shell.Utility

/-- What has been counted of a text. -/
structure Counts where
  lines : Nat := 0
  words : Nat := 0
  octets : Nat := 0
  /-- The length of the longest line. -/
  longest : Nat := 0
  /-- The length of the line that has begun. -/
  column : Nat := 0
  /-- A word has begun. -/
  inWord : Bool := false

namespace Counts

/-- The counts with a word ended. -/
def endWord (n : Counts) : Counts :=
  { n with words := n.words + (if n.inWord then 1 else 0), inWord := false }

/-- The counts with a line ended. -/
def endLine (n : Counts) : Counts := { n with longest := max n.longest n.column, column := 0 }

/-- The counts with one octet more. -/
def step (n : Counts) (c : Char) : Counts :=
  let n := { n with octets := n.octets + 1 }
  match c with
  | '\n' => { n.endLine.endWord with lines := n.lines + 1 }
  | '\r' | '\x0c' => n.endLine.endWord
  | '\t' => { n.endWord with column := n.column + 8 - n.column % 8 }
  | ' ' => { n.endWord with column := n.column + 1 }
  | '\x0b' => n.endWord
  | c => if isGraphic c then { n with column := n.column + 1, inWord := true } else n

/-- The counts of a text. -/
def ofText (cs : Octets) : Counts := (cs.foldl step {}).endLine.endWord

/-- The counts of two texts together. -/
def add (a b : Counts) : Counts where
  lines := a.lines + b.lines
  words := a.words + b.words
  octets := a.octets + b.octets
  longest := max a.longest b.longest

/-- The counts that letters ask for. -/
def picked (letters : List Char) (n : Counts) : List Nat :=
  [('l', n.lines), ('w', n.words), ('m', n.octets), ('c', n.octets), ('L', n.longest)].filterMap
    fun x => if letters.contains x.1 then some x.2 else none

end Counts

/-- What is known of the size of an input before it is read. -/
inductive KnownSize where
  | regular (size : Nat)
  /-- It can only be read to find out. -/
  | other
  | missing

/-- What is known of the size of the file at a location. -/
def knownSizeAt (m : Machine) (loc : Location) : KnownSize :=
  match m.disk.entryAt? loc with
  | some (.file content _) => .regular content.size
  | some _ => .other
  | none => .missing

/-- What is known of the size of a file, or of the input. -/
def knownSize (m : Machine) (file : Octets) : KnownSize :=
  if file = ['-'] then
    match m.channel? 0 with
    | some (_, .file loc _ _) => knownSizeAt m loc
    | some _ => .other
    | none => .missing
  else
    match m.disk.resolve ⟨Octets.toText file⟩ with
    | .ok loc => knownSizeAt m loc
    | .error _ => .missing

/-- The width of columns for inputs. -/
def columnWidth (sizes : List KnownSize) : Nat :=
  let total := sizes.foldl (fun n s => match s with
    | .regular size => n + size
    | _ => n) 0
  let least := if sizes.any (· matches .other) then 7 else 1
  max (decimal total).length least

/-- Write a row of counts with the name of a file. -/
def writeRow (width : Nat) (ns : List Nat) (file : Option Octets) : Run Unit := do
  let numbers := Octets.join [' '] (ns.map fun n => padLeft width (decimal n))
  let name := file.elim [] fun f => ' ' :: if f.contains '\n' then shownName f else f
  Run.write (numbers ++ name ++ ['\n'])

/-- The names that a file holds, each with an end, and whether the file is a regular one. -/
def listedNames (choices : List Choice) (files : List Octets) :
    Run (Except (List Octets) (List Octets × Bool)) := do
  match valueOf? choices "φ" with
  | none => return .ok (if files.isEmpty then [['-']] else files, true)
  | some source =>
    match files.head? with
    | some file =>
      return .error ["extra operand ".toList ++ quoted file,
        "file operands cannot be combined with --files0-from".toList]
    | none =>
      let isRegular := knownSize (← get) source matches .regular _
      match ← contentOf source with
      | .error e =>
        return .error ["cannot open ".toList ++ shellQuoted source ++ " for reading: ".toList ++
          (reasonOf e).toList]
      | .ok cs =>
        let names := Text.pieces '\x00' cs
        return .ok (if names.getLast? = some [] then names.dropLast else names, isRegular)

/-- Write how much is in each file. -/
def wc : Action := fun args =>
  withOptions { name := "wc", letters := "lwmcLφ:"
                longs := [("bytes", 'c'), ("chars", 'm'), ("lines", 'l'), ("words", 'w'),
                  ("files0-from", 'φ'), ("max-line-length", 'L')] } args fun choices operands => do
    let letters := "lwmcL".toList.filter fun c => chosen choices (String.singleton c)
    let letters := if letters.isEmpty then ['l', 'w', 'c'] else letters
    match ← listedNames choices operands with
    | .error (why :: more) =>
      complain "wc" why
      for l in more do Run.complain l
      if !more.isEmpty then hint "wc"
      return 1
    | .error [] => return 1
    | .ok (files, isKnown) =>
      let m ← get
      let width :=
        if !isKnown || (letters.length = 1 && files.length = 1) then 1
        else columnWidth (files.map (knownSize m))
      let isNamed := !operands.isEmpty || (valueOf? choices "φ").isSome
      let mut total : Counts := {}
      let mut status := 0
      for file in files do
        match ← input? "wc" file with
        | none =>
          status := 1
          if (← get).disk.resolve ⟨Octets.toText file⟩ matches .ok _ then
            writeRow width (Counts.picked letters {}) (some file)
        | some cs =>
          let n := Counts.ofText cs
          total := total.add n
          writeRow width (n.picked letters) (if isNamed then some file else none)
      if 1 < files.length then writeRow width (total.picked letters) (some "total".toList)
      return status

end BulkSuppress.Shell.Utility
