import BulkSuppress.Exclusion.Pattern
import BulkSuppress.Failure

/-
  The exclusion filter: patterns in order, of which the last that matches a path decides.
-/

namespace BulkSuppress.Exclusion

/-- Patterns in the order in which they were added. -/
structure Filter where
  patterns : List Pattern := []
deriving DecidableEq, Repr

namespace Filter

/-- The exclusions that every run starts with. -/
def defaultSources : List String := ["**/node_modules/**", "**/.git/**"]

/-- The filter with one more pattern at its end. -/
def add (f : Filter) (source : String) : Except Failure Filter :=
  match Pattern.parse source with
  | .ok p => .ok ⟨f.patterns ++ [p]⟩
  | .error e => .error (.pattern (.invalid source e))

/-- The filter of the patterns, all of which have to be valid. -/
def ofSources (sources : List String) : Except Failure Filter :=
  sources.foldlM add {}

/-- The filter with the valid ones of the patterns; the others are reported and left out. -/
def addValid (f : Filter) (sources : List String) : Logged Filter :=
  sources.foldlM (fun f source =>
    match f.add source with
    | .ok g => pure g
    | .error e => do
      Logged.report (.warn ("Ignoring invalid exclusion pattern: " ++ e.message))
      pure f) f

/-- The filter that every run starts with. -/
def default : Filter :=
  ⟨defaultSources.filterMap fun source => (Pattern.parse source).toOption⟩

/-- The last matching pattern excludes, rather than taking back in. -/
def excludesNames (f : Filter) (names : List String) : Bool :=
  f.patterns.foldl (fun excluded p => if p.isMatch names then !p.negated else excluded) false

/-- The path, seen from the project root, is excluded. -/
def excludes (f : Filter) (relative : Path) : Bool :=
  f.excludesNames relative.names

/-- Some pattern can take paths back in. -/
def hasNegations (f : Filter) : Bool :=
  f.patterns.any (·.negated)

/-- A line for each pattern that tells whether it matches the path. -/
def explain (f : Filter) (relative : Path) : List String :=
  f.patterns.mapIdx fun i p =>
    "Pattern " ++ toString i ++ ": " ++ p.source ++ " -> " ++
      (if p.isMatch relative.names then "MATCH" else "no match")

end Filter
end BulkSuppress.Exclusion
