import BulkSuppress.Shell.Syntax

/-
  Words as a script spells them, for messages that show them before they are expanded.
-/

namespace BulkSuppress.Shell

/-- The signs between a parameter and the word that comes in for it. -/
def spellFallback (emptyCounts : Bool) (how : Fallback) : Octets :=
  (if emptyCounts then [] else [':']) ++ (match how with
    | .use => ['-']
    | .assign => ['=']
    | .complain => ['?']
    | .replace => ['+'])

mutual

/-- How a word is spelled. -/
def spellParts : List Part → Octets
  | [] => []
  | p :: rest => spellPart p ++ spellParts rest

/-- How a part of a word is spelled, between quotes or not. -/
def spellPart : Part → Octets
  | .text cs _ => cs
  | .parameter h use _ =>
    match h, use with
    | .named name, .value =>
      if isName name.toList || name.length = 1 then '$' :: name.toList
      else "$\x7b".toList ++ name.toList ++ ['\x7d']
    | h, use => "$\x7b".toList ++ spellHolder h ++ spellUse use ++ ['\x7d']
  | .output _ _ => "$(...)".toList
  | .sum body _ => "$((".toList ++ spellParts body ++ "))".toList
  | .pipe isRead _ => (if isRead then ['<'] else ['>']) ++ "(...)".toList
  | .assigned a => spellAssignment a
  | .items items => ['('] ++ spellItems items ++ [')']

/-- How what has a value is spelled. -/
def spellHolder : Holder → Octets
  | .named name => name.toList
  | .element name index => name.toList ++ ['['] ++ spellParts index ++ [']']
  | .elements name each => name.toList ++ (if each then "[@]" else "[*]").toList
  | .behind h => '!' :: spellHolder h

/-- How an assignment is spelled. -/
def spellAssignment : Assignment → Octets
  | .mk name index appends value =>
    name.toList ++ (match index with
      | some w => ['['] ++ spellParts w ++ [']']
      | none => []) ++
      (if name.isEmpty && index.isNone then [] else if appends then ['+', '='] else ['=']) ++
      spellParts value

/-- How the items of an array are spelled. -/
def spellItems : List Assignment → Octets
  | [] => []
  | [a] => spellAssignment a
  | a :: rest => spellAssignment a ++ [' '] ++ spellItems rest

/-- How what is taken from a parameter is spelled, behind its name. -/
def spellUse : Use → Octets
  | .value | .length | .places | .names _ | .unknown _ => []
  | .withFallback emptyCounts how word => spellFallback emptyCounts how ++ spellParts word
  | .trimmed suffix longest pattern =>
    let sign := if suffix then '%' else '#'
    (if longest then [sign, sign] else [sign]) ++ spellParts pattern
  | .sliced start length =>
    [':'] ++ spellParts start ++ (match length with
      | some w => ':' :: spellParts w
      | none => [])
  | .replaced site pattern word =>
    ['/'] ++ (match site with
      | .first => []
      | .all => ['/']
      | .front => ['#']
      | .back => ['%']) ++ spellParts pattern ++ ['/'] ++ spellParts word
  | .cased how isAll pattern =>
    let sign := match how with
      | .upper => '^'
      | .lower => ','
      | .swapped => '~'
    (if isAll then [sign, sign] else [sign]) ++ spellParts pattern
  | .formed letter => ['@', letter]

end

/-- A word with the quotes around those of its parts that have any. -/
def spellWord (w : Word) : Octets :=
  match w with
  | [] => []
  | .text cs true :: rest => ['"'] ++ cs ++ inQuotes rest
  | w => spellPlain w
where
  /-- The rest of a word behind an open quote. -/
  inQuotes : Word → Octets
    | [] => ['"']
    | .parameter h use true :: rest => spellPart (.parameter h use true) ++ inQuotes rest
    | .output c true :: rest => spellPart (.output c true) ++ inQuotes rest
    | .sum body true :: rest => spellPart (.sum body true) ++ inQuotes rest
    | .text cs true :: rest => cs ++ inQuotes rest
    | p :: rest => ['"'] ++ spellPart p ++ spellParts rest
  /-- A word that does not start with a quote. -/
  spellPlain : Word → Octets
    | [] => []
    | .text cs true :: rest => ['"'] ++ cs ++ inQuotes rest
    | p :: rest => spellPart p ++ spellPlain rest

end BulkSuppress.Shell
