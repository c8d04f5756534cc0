import BulkSuppress.Glob.Match
import BulkSuppress.Path.Basic

/-
  Exclusion patterns, one line of an ignore file each. A leading `!` takes paths back in, a
  leading `/` or a slash inside ties the pattern to whole paths from the root, a trailing `/`
  restricts it to directories; without any slash it is tried on every name of a path. A pattern
  that matches a directory matches everything below it.
-/

namespace BulkSuppress.Exclusion

/-- One exclusion pattern. -/
structure Pattern where
  /-- The pattern as it was written. -/
  source : String
  /-- The glob, without the marks around it. -/
  glob : Glob
  /-- Paths that match are taken back in. -/
  negated : Bool
  /-- Only directories match. -/
  dirOnly : Bool
  /-- The glob is tried on paths from the root rather than on single names. -/
  wholePath : Bool
deriving DecidableEq, Repr

/-- The text without one mark at its front, and whether the mark was there. -/
def stripFront (mark : Char) : List Char → Bool × List Char
  | c :: cs => if c = mark then (true, cs) else (false, c :: cs)
  | [] => (false, [])

/-- The text without one mark at its end, and whether the mark was there. -/
def stripBack (mark : Char) (cs : List Char) : Bool × List Char :=
  if cs.getLast? = some mark then (true, cs.dropLast) else (false, cs)

namespace Pattern

/-- The pattern that a text spells. -/
def parse (source : String) : Except Glob.SyntaxError Pattern :=
  let (negated, afterBang) := stripFront '!' source.toList
  let (anchored, afterSlash) := stripFront '/' afterBang
  let (dirOnly, body) := stripBack '/' afterSlash
  (Glob.parse (String.ofList body)).map fun glob =>
    { source, glob, negated, dirOnly, wholePath := anchored || body.contains '/' }

/--
The texts that a pattern is tried on for a path with the given names, from the outermost
directory to the path itself.
-/
def subjects (wholePath : Bool) (names : List String) : List String :=
  if wholePath then (List.range names.length).map fun k => Path.slashed (names.take (k + 1))
  else names

/-- The pattern matches the path with the given names or a directory above it. -/
def isMatch (p : Pattern) (names : List String) : Bool :=
  let texts := subjects p.wholePath names
  (if p.dirOnly then texts.dropLast else texts).any (p.glob.isMatch false)

end Pattern
end BulkSuppress.Exclusion
