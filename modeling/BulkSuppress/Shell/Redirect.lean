import BulkSuppress.Shell.Expansion
import BulkSuppress.Shell.Machine
import BulkSuppress.Shell.Spelling

/-
  Redirections: where the descriptors of a command lead while it runs. In the extended dialect they
  are followed one after the other as they are expanded, and a target has to be a single word.
-/

namespace BulkSuppress.Shell

/-- What a redirection cannot do, as messages say it. -/
def openProblem (verb : String) (absent : String) (target : Octets) (e : SystemError) : Octets :=
  ("cannot " ++ verb ++ " ").toList ++ target ++ ": ".toList ++
    (if e = .notFound || e = .notDirectory then absent else reasonOf e).toList

/-- The file with some of the paths that stand for descriptors. -/
def descriptorOf? (target : Octets) : Option Nat :=
  match String.ofList target with
  | "/dev/stdin" => some 0
  | "/dev/stdout" => some 1
  | "/dev/stderr" => some 2
  | _ => if "/dev/fd/".toList.isPrefixOf target then decimal? (target.drop 8) else none

/-- Have a descriptor lead where another one leads. -/
def duplicate (descriptor : Nat) (target : Octets) : Run Bool := do
  if target = ['-'] then
    modify (·.withDescriptor descriptor none)
    return true
  else
    let moves := (← get).dialect = .extended && target.getLast? = some '-'
    match decimal? (if moves then target.dropLast else target) with
    | none => Run.fail "Bad fd number".toList
    | some n =>
      let m ← get
      match m.descriptors.lookup n with
      | some file =>
        let m := m.withDescriptor descriptor (some file)
        set (if moves && n ≠ descriptor then m.withDescriptor n none else m)
        return true
      | none =>
        Run.warn ((toString n).toList ++ ": Bad file descriptor".toList)
        return false

/-- Follow a redirection to a file. -/
def openFile (descriptor : Nat) (opening : Opening) (target : Octets) : Run Bool := do
  match descriptorOf? target with
  | some n => duplicate descriptor (toString n).toList
  | none =>
    let m ← get
    let path : Path := ⟨Octets.toText target⟩
    let refuse (verb absent : String) (e : SystemError) : Run Bool := do
      match m.dialect with
      | .common => Run.warn (openProblem verb absent target e)
      | .extended =>
        let why := if e = .alreadyExists then "cannot overwrite existing file" else reasonOf e
        Run.warn (target ++ ": ".toList ++ why.toList)
      return false
    let openAt (verb : String) (m : Machine) (loc : Location) (appends : Bool) : Run Bool := do
      match Machine.channelAt m.disk loc appends with
      | .error e => refuse verb "" e
      | .ok channel =>
        set (m.opening descriptor channel)
        return true
    match opening with
    | .read =>
      match m.disk.resolve path with
      | .ok loc => openAt "open" m loc false
      | .error e => refuse "open" "No such file" e
    | _ =>
      match m.openFile path with
      | .error e => refuse "create" "Directory nonexistent" e
      | .ok (loc, opened) =>
        if opening = .write && m.has 'C' && m.disk.isFile path then
          refuse "create" "Directory nonexistent" .alreadyExists
        else
          let isAnew := opening = .write || opening = .overwrite
          openAt "create" (if isAnew then opened.withContent loc .empty else opened) loc
            (opening = .append)

section

variable (run : Command → Run Unit)

/-- Follow redirections for as long as something runs. -/
def redirected (act : Run Unit) : Run Unit :=
  Run.guarded act fun before => modify fun m => { m with descriptors := before.descriptors }

/-- What is asked of a descriptor, with the target expanded. -/
def expandedTarget : Redirection → Run (Nat × Opening × Octets)
  | .mk descriptor opening target => do
    match opening with
    | .document number =>
      let w := ((← get).documents.lookup number).getD []
      return (descriptor, opening, octetsOf (← layOut run { parts := false } w))
    | _ => return (descriptor, opening, ← textOf run target)

/-- Follow redirections; the first one that cannot be followed is the last. -/
def followed (rs : List Redirection) : Run Bool := do
  let targets ← rs.mapM (expandedTarget run)
  targets.allM fun (descriptor, opening, target) => do
    match opening with
    | .document _ =>
      modify (·.opening descriptor (.supply [(0, target)]))
      return true
    | .duplicate => duplicate descriptor target
    | _ => openFile descriptor opening target

/-- The target of a redirection, which has to be a single word. -/
def singleTarget? (w : Word) : Run (Option Octets) := do
  match ← fieldsOfWord run w with
  | [cs] => return some cs
  | _ =>
    Run.warn (spellWord w ++ ": ambiguous redirect".toList)
    return none

/-- Follow one redirection in the extended dialect. -/
def followedOne : Redirection → Run Bool
  | .mk descriptor opening target => do
    match opening with
    | .document _ =>
      let (_, _, text) ← expandedTarget run (.mk descriptor opening target)
      modify (·.opening descriptor (.supply [(0, text)]))
      return true
    | .text =>
      let text ← textOf run target
      modify (·.opening descriptor (.supply [(0, text ++ ['\n'])]))
      return true
    | .duplicate =>
      match ← singleTarget? run target with
      | none => return false
      | some cs =>
        if cs = ['-'] || (decimal? (if cs.getLast? = some '-' then cs.dropLast else cs)).isSome then
          duplicate descriptor cs
        else if descriptor = 1 then
          if ← openFile 1 .write cs then duplicate 2 ['1'] else return false
        else
          Run.warn (cs ++ ": ambiguous redirect".toList)
          return false
    | _ =>
      match ← singleTarget? run target with
      | none => return false
      | some cs => openFile descriptor opening cs

/-- Follow redirections in the dialect of the script. -/
def followedAll (rs : List Redirection) : Run Bool := do
  if (← get).dialect = .common then followed run rs else rs.allM (followedOne run)

end

end BulkSuppress.Shell
