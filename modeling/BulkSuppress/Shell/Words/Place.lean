import BulkSuppress.Shell.Syntax

/-
  Where parts of words stand. The place decides which characters stand for themselves, what can be
  escaped, and what ends the text there.
-/

namespace BulkSuppress.Shell.Words

/-- Where a part of a word stands. -/
inductive Place where
  /-- Outside quotes and braces: an operator or a blank ends the word. -/
  | bare
  /-- In the mark of a here-document, in which nothing is expanded. -/
  | mark
  /-- In braces outside quotes. -/
  | braced
  /-- In braces outside quotes, in front of a sign. -/
  | upTo (stop : Char)
  /-- Between double quotes. -/
  | quoted
  /-- In braces between double quotes, perhaps between further quotes there. -/
  | quotedBraced (inner : Bool)
  /-- In a here-document. -/
  | document
  /-- In a calculation, inside so many open parentheses. -/
  | sum (parentheses : Nat)
  /-- In the start or the length of a slice, inside so many open parentheses. -/
  | slice (isStart : Bool) (parentheses : Nat)
  /-- Between the brackets of an element, inside so many further ones. -/
  | subscript (brackets : Nat)
  /-- In a regular expression, inside so many parentheses. -/
  | regex (parentheses : Nat)
  /-- In a group of patterns, inside so many further parentheses. -/
  | group (parentheses : Nat)
deriving DecidableEq, Repr

/-- What stands there is quoted. -/
def Place.isQuoted : Place → Bool
  | .quoted | .quotedBraced _ | .document | .sum _ | .slice .. => true
  | _ => false

/-- A blank or an operator ends a word with a character. -/
def isMeta (c : Char) : Bool := " \t\n;&|()<>".toList.contains c

/-- A sign that names a parameter of its own. -/
def isSpecial (c : Char) : Bool := "#?$!-*@".toList.contains c || isDigit c

/-- A sign that starts a group of patterns, if a parenthesis follows. -/
def opensGroup (c : Char) : Bool := "?*+@!".toList.contains c

/-- A character that can be escaped where text is quoted. -/
def isEscapable (place : Place) (c : Char) : Bool :=
  "$\\".toList.contains c || c = '\x60' ||
    (c = '"' && place ≠ .document) || (c = '\x7d' && place matches .quotedBraced _)

/-- A character that stands for itself. -/
def isOrdinary (place : Place) (c : Char) : Bool :=
  match place with
  | .bare => !isMeta c && !"\\'\"$\x60".toList.contains c
  | .mark => !isMeta c && !"\\'\"".toList.contains c
  | .braced => !"\\'\"$\x60\x7d".toList.contains c
  | .upTo stop => !"\\'\"$\x60\x7d".toList.contains c && c ≠ stop
  | .quoted => !"\\\"$\x60".toList.contains c
  | .quotedBraced _ => !"\\\"$\x60\x7d".toList.contains c
  | .document => !"\\$\x60".toList.contains c
  | .sum _ => !"\\$\x60()\"".toList.contains c
  | .slice .. => !"\\$\x60()\":\x7d".toList.contains c
  | .subscript _ => !"\\'\"$\x60[]".toList.contains c
  | .regex n => !"\\'\"$\x60()".toList.contains c && (0 < n || c = '|' || !isMeta c)
  | .group _ => !"\\'\"$\x60()".toList.contains c

/-- The text at the front that stands for itself; it ends where a group of patterns can start. -/
def ordinaryText (place : Place) (groups : Bool) : Octets → Octets
  | [] => []
  | c :: rest =>
    if isOrdinary place c && !(groups && opensGroup c && rest.head? = some '(') then
      c :: ordinaryText place groups rest
    else []

/-- What a place makes of a sign that is special there: the place behind it, unless it ends there. -/
def Place.behind? (place : Place) (c : Char) (next : Option Char) : Option Place :=
  match place with
  | .quotedBraced true => some (.quotedBraced true)
  | .sum n =>
    if c = '(' then some (.sum (n + 1))
    else if 0 < n then some (.sum (n - 1))
    else if next = some ')' then none
    else some (.sum 0)
  | .slice isStart n =>
    if c = '(' then some (.slice isStart (n + 1))
    else if c = ')' then some (.slice isStart (n - 1))
    else if 0 < n || (c = ':' && !isStart) then some place
    else none
  | .subscript n =>
    if c = '[' then some (.subscript (n + 1)) else if 0 < n then some (.subscript (n - 1)) else none
  | .regex n =>
    if c = '(' then some (.regex (n + 1))
    else if c = ')' && 0 < n then some (.regex (n - 1))
    else none
  | .group n =>
    if c = '(' then some (.group (n + 1)) else if 0 < n then some (.group (n - 1)) else none
  | _ => none

end BulkSuppress.Shell.Words
