import BulkSuppress.Yaml.Token.Flow

/-
  The tokens that start with a percent sign, an ampersand, an asterisk or an exclamation mark:
  directives, anchors, aliases and tags.
-/

namespace BulkSuppress.Yaml.Property

/-! ## Tags -/

/-- A character of a tag that needs no escape. -/
def isUriChar (brackets : Bool) (c : Char) : Bool :=
  isNameChar c || ";/?:@&=+$.!~*'()".toList.contains c ||
    (brackets && (c = ',' || c = '[' || c = ']'))

/-- The byte that an escape of a percent sign and two digits spells. -/
def uriOctet? : List Char → Option Nat
  | '%' :: a :: b :: _ => (Flow.hexNumber? 2 [a, b])
  | _ => none

/-- The number of bytes of a character, as its first byte tells. -/
def octets? (first : Nat) : Option Nat :=
  if first < 0x80 then some 1
  else if first / 0x20 = 0x06 then some 2
  else if first / 0x10 = 0x0E then some 3
  else if first / 0x08 = 0x1E then some 4
  else none

/-- The `n` escaped continuation bytes at the front. -/
def continuation? : Nat → List Char → Option (List Char)
  | 0, _ => some []
  | n + 1, cs => do
    let octet ← uriOctet? cs
    if octet / 0x40 ≠ 0x02 then none
    else return Char.ofNat octet :: (← continuation? n (cs.drop 3))

/-- The bytes of the character that escapes at the front spell; it may be spelled too long. -/
def uriEscape? (cs : List Char) : Option (List Char) := do
  let first ← uriOctet? cs
  let n ← octets? first
  return Char.ofNat first :: (← continuation? (n - 1) (cs.drop 3))

/--
The text of a tag at the front, a character for each byte, and the number of characters that spell
it.
-/
def uri (brackets : Bool) (cs : List Char) : Option (List Char × Nat) :=
  match cs with
  | [] => some ([], 0)
  | c :: rest =>
    if c = '%' then
      match uriEscape? (c :: rest) with
      | none => none
      | some bytes =>
        let n := 3 * bytes.length
        (uri brackets (rest.drop (n - 1))).map fun r => (bytes ++ r.1, n + r.2)
    else if isUriChar brackets c then
      (uri brackets rest).map fun r => (c :: r.1, 1 + r.2)
    else some ([], 0)
termination_by cs.length
decreasing_by all_goals simp only [List.length_drop, List.length_cons]; omega

/-- A handle at the cursor: an exclamation mark, a name and perhaps another exclamation mark. -/
def handle? (c : Cursor) : Option (List Char × Cursor) :=
  if !c.sees '!' then none
  else
    let (name, c1) := c.advance.span isNameChar
    if c1.sees '!' then some ('!' :: name ++ ['!'], c1.advance) else some ('!' :: name, c1)

/-- The handle is closed by an exclamation mark of its own. -/
def isClosed (handle : List Char) : Bool :=
  1 < handle.length && handle.getLast? = some '!'

/-- The text of a tag, or of its first part, as far as it counts: a NUL byte ends it. -/
def counted (text : List Char) : String := String.ofList (text.takeWhile (· ≠ '\x00'))

/-- The handle and the suffix of the tag at the cursor. -/
def tagParts (c : Cursor) : Option (String × String × Cursor) :=
  if c.sees '<' 1 then do
    let c := c.advance 2
    let (text, n) ← uri true c.rest
    let c := c.advance n
    if n = 0 || !c.sees '>' then none else return ("", counted text, c.advance)
  else do
    let (handle, c) ← handle? c
    let (text, n) ← uri false c.rest
    let c := c.advance n
    if isClosed handle then
      if n = 0 then none else return (String.ofList handle, counted text, c)
    else
      match counted (handle.drop 1 ++ text) with
      | "" => return ("", "!", c)
      | suffix => return ("!", suffix, c)

/-- The tag at the cursor. -/
def tag (inFlow : Bool) (c : Cursor) : Option (Token × Cursor) := do
  let (handle, suffix, c) ← tagParts c
  if (inFlow && c.sees ',') || c.seesOrEnd isGap then return (.tag handle suffix, c) else none

/-! ## Anchors and aliases -/

/-- A character that may follow the name of an anchor. -/
def endsName (c : Char) : Bool :=
  isGap c || "?:,]\x7d%@".toList.contains c || c = '\x60'

/-- The name of the anchor or alias whose mark stands at the cursor. -/
def anchorName (c : Cursor) : Option (String × Cursor) :=
  let (name, c) := c.advance.span isNameChar
  if name.isEmpty || !c.seesOrEnd endsName then none else some (String.ofList name, c)

/-! ## Directives -/

/-- A number of at most nine digits. -/
def number (c : Cursor) : Option (Nat × Cursor) :=
  let (digits, c) := c.span Char.isDigit
  if digits.isEmpty || 9 < digits.length then none
  else some (digits.foldl (fun n d => n * 10 + (d.toNat - '0'.toNat)) 0, c)

/-- The version behind the name of its directive. -/
def version (c : Cursor) : Option (Token × Cursor) := do
  let (major, c) ← number (c.skip isSpacing)
  if !c.sees '.' then none
  else
    let (minor, c) ← number c.advance
    return (.versionDirective major minor, c)

/-- The handle and what it stands for, behind the name of their directive. -/
def tagHandle (c : Cursor) : Option (Token × Cursor) := do
  let (handle, c) ← handle? (c.skip isSpacing)
  if !(isClosed handle || handle = ['!']) || !c.seesAny isSpacing then none
  else
    let c := c.skip isSpacing
    let (text, n) ← uri true c.rest
    let c := c.advance n
    if n = 0 || !c.seesOrEnd isGap then none
    else return (.tagDirective (String.ofList handle) (counted text), c)

/-- The directive at the cursor, and the cursor behind its line. -/
def directive (c : Cursor) : Option (Token × Mark × Cursor) := do
  let (name, c) := c.advance.span isNameChar
  if !c.seesOrEnd isGap then none
  else
    let (token, c) ← match String.ofList name with
      | "YAML" => version c
      | "TAG" => tagHandle c
      | _ => none
    return (token, c.mark, ← c.endOfLine?)

end BulkSuppress.Yaml.Property
