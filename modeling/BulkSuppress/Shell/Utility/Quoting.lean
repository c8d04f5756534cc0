import BulkSuppress.Shell.Octets
import BulkSuppress.Shell.Pattern

/-
  How utilities show texts that come from outside, and what they tell about themselves when they are
  asked for their version. A text is put in quotes either for the eye, with backslashes in front of
  what cannot be seen, or in such a way that a shell reads it back.
-/

namespace BulkSuppress.Shell.Utility

/-- The letters of the octets that have one behind a backslash. -/
def escapeLetters : List (Char × Char) :=
  [('\x07', 'a'), ('\x08', 'b'), ('\x0c', 'f'), ('\n', 'n'), ('\r', 'r'), ('\t', 't'),
    ('\x0b', 'v')]

/-- Three octal digits. -/
def octalDigits (c : Char) : Octets :=
  [c.toNat / 64, c.toNat / 8 % 8, c.toNat % 8].map fun d => Char.ofNat ('0'.toNat + d)

/-- What stands for an octet that cannot be seen, if there is something to see. -/
def unseen? (c : Char) : Option Octets :=
  match escapeLetters.lookup c with
  | some letter => some ['\\', letter]
  | none => if c = ' ' || isGraphic c then none else some ('\\' :: octalDigits c)

/-- A text between quotes of some kind, which have a backslash in front of them inside. -/
def betweenQuotes (mark : Char) (cs : Octets) : Octets :=
  let inside := cs.flatMap fun c =>
    if c = mark || c = '\\' then ['\\', c] else (unseen? c).getD [c]
  [mark] ++ inside ++ [mark]

/-- A text in quotes. -/
def quoted (cs : Octets) : Octets := betweenQuotes '\'' cs

/-- The octets of a text for a shell, inside quotes for what cannot be seen or not. -/
def shellText (isHidden : Bool) : Octets → Octets
  | [] => []
  | c :: cs =>
    if c = '\'' then "'\\''".toList ++ shellText false cs
    else
      match unseen? c with
      | some text => (if isHidden then [] else "'$'".toList) ++ text ++ shellText true cs
      | none => (if isHidden then "''".toList else []) ++ c :: shellText false cs

/--
A text in quotes, so that a shell reads it back. A text with a quote is written twice over, and the
second time begins as the first one ends.
-/
def shellQuoted (cs : Octets) : Octets :=
  let isPlain (c : Char) : Bool :=
    isLetter c || isDigit c || c = ' ' || "#%'+,-./:]_~\x7b\x7d".toList.contains c
  if cs.contains '\'' && cs.all isPlain then ['"'] ++ cs ++ ['"']
  else
    let ends := cs.contains '\'' && cs.getLast?.any fun c => (unseen? c).isSome
    ['\''] ++ shellText ends cs ++ ['\'']

/-- A shell would not read a text back as it is. -/
def needsQuotes (cs : Octets) : Bool :=
  match cs with
  | [] => true
  | [c] => "\x7b\x7d".toList.contains c || needsQuotesAt c
  | c :: rest => c = '#' || c = '~' || needsQuotesAt c || rest.any needsQuotesAt
where
  /-- An octet that means something to a shell anywhere. -/
  needsQuotesAt (c : Char) : Bool :=
    (unseen? c).isSome || " !\"$&()*;<=>[^`|?\\'".toList.contains c

/-- The name of a file, in quotes where a shell needs them. -/
def shownName (cs : Octets) : Octets := if needsQuotes cs then shellQuoted cs else cs

/-! ## Styles -/

/-- How a name is shown. -/
inductive QuotingStyle where
  | literal
  /-- As a shell reads it; `always` quotes every name, and `escapes` spells what cannot be seen. -/
  | shell (always escapes : Bool)
  /-- In double quotes, or only where these are needed. -/
  | double (always : Bool)
  | single
  /-- Without quotes. -/
  | escaped
deriving DecidableEq, Repr

/-- A text in quotes that a shell reads back, with everything in it as it is. -/
def shellPlain (cs : Octets) : Octets :=
  if cs.contains '\'' && shellQuoted cs = ['"'] ++ cs ++ ['"'] then ['"'] ++ cs ++ ['"']
  else ['\''] ++ (cs.flatMap fun c => if c = '\'' then "'\\''".toList else [c]) ++ ['\'']

/-- A name in a style. -/
def QuotingStyle.show (s : QuotingStyle) (cs : Octets) : Octets :=
  match s with
  | .literal => cs
  | .shell always true => if always || needsQuotes cs then shellQuoted cs else cs
  | .shell always false =>
    let seen := cs.filter fun c => (unseen? c).isNone
    let asks := cs.isEmpty || (!seen.isEmpty && needsQuotes seen) || cs.contains '\n' ||
      cs.contains '\t'
    if always || asks then shellPlain cs else cs
  | .double always =>
    let q := betweenQuotes '"' cs
    if always || q ≠ ['"'] ++ cs ++ ['"'] then q else cs
  | .single => quoted cs
  | .escaped => cs.flatMap fun c =>
      if c = '\\' || c = ' ' then ['\\', c] else (unseen? c).getD [c]

/-- The names of the styles. -/
def QuotingStyle.names : List (List String × QuotingStyle) :=
  [(["literal"], .literal), (["shell"], .shell false false), (["shell-always"], .shell true false),
    (["shell-escape"], .shell false true), (["shell-escape-always"], .shell true true),
    (["c"], .double true), (["c-maybe"], .double false), (["escape"], .escaped),
    (["locale"], .single), (["clocale"], .double true)]

/-! ## Versions -/

/-- Who wrote the utilities that belong together. -/
def writers : List (String × String) :=
  [("base64", "Simon Josefsson"), ("basename", "David MacKenzie"),
    ("b2sum", "Padraig Brady and Samuel Neves"),
    ("cat", "Torbjorn Granlund and Richard M. Stallman"),
    ("chmod", "David MacKenzie and Jim Meyering"), ("cksum", "Padraig Brady and Q. Frank Xia"),
    ("comm", "Richard M. Stallman and David MacKenzie"),
    ("cp", "Torbjorn Granlund, David MacKenzie, and Jim Meyering"),
    ("cut", "David M. Ihnat, David MacKenzie, and Jim Meyering"), ("date", "David MacKenzie"),
    ("dd", "Paul Rubin, David MacKenzie, and Stuart Kemp"),
    ("dirname", "David MacKenzie and Jim Meyering"),
    ("du", "Torbjorn Granlund, David MacKenzie, Paul Eggert,\nand Jim Meyering"),
    ("echo", "Brian Fox and Chet Ramey"),
    ("env", "Richard Mlynarik, David MacKenzie, and Assaf Gordon"),
    ("expand", "David MacKenzie"), ("expr", "Mike Parker, James Youngman, and Paul Eggert"),
    ("factor", "Paul Rubin, Torbjorn Granlund, and Niels Moller"), ("false", "Jim Meyering"),
    ("fmt", "Ross Paterson"), ("fold", "David MacKenzie"),
    ("head", "David MacKenzie and Jim Meyering"),
    ("id", "Arnold Robbins and David MacKenzie"), ("join", "Mike Haertel"),
    ("ln", "Mike Parker and David MacKenzie"),
    ("ls", "Richard M. Stallman and David MacKenzie"),
    ("md5sum", "Ulrich Drepper, Scott Miller, and David Madore"), ("mkdir", "David MacKenzie"),
    ("mkfifo", "David MacKenzie"), ("mktemp", "Jim Meyering and Eric Blake"),
    ("mv", "Mike Parker, David MacKenzie, and Jim Meyering"), ("nice", "David MacKenzie"),
    ("nl", "Scott Bartram and David MacKenzie"), ("nohup", "Jim Meyering"),
    ("nproc", "Giuseppe Scrivano"), ("numfmt", "Assaf Gordon"), ("od", "Jim Meyering"),
    ("paste", "David M. Ihnat and David MacKenzie"),
    ("printenv", "David MacKenzie and Richard Mlynarik"), ("printf", "David MacKenzie"),
    ("pwd", "Jim Meyering"), ("readlink", "Dmitry V. Levin"), ("realpath", "Padraig Brady"),
    ("rm", "Paul Rubin, David MacKenzie, Richard M. Stallman,\nand Jim Meyering"),
    ("rmdir", "David MacKenzie"), ("seq", "Ulrich Drepper"),
    ("sha1sum", "Ulrich Drepper, Scott Miller, and David Madore"),
    ("sha224sum", "Ulrich Drepper, Scott Miller, and David Madore"),
    ("sha256sum", "Ulrich Drepper, Scott Miller, and David Madore"),
    ("sha384sum", "Ulrich Drepper, Scott Miller, and David Madore"),
    ("sha512sum", "Ulrich Drepper, Scott Miller, and David Madore"), ("shuf", "Paul Eggert"),
    ("sleep", "Jim Meyering and Paul Eggert"), ("sort", "Mike Haertel and Paul Eggert"),
    ("split", "Torbjorn Granlund and Richard M. Stallman"), ("stat", "Michael Meskes"),
    ("stdbuf", "Padraig Brady"), ("sum", "Kayvan Aghaiepour and David MacKenzie"),
    ("sync", "Jim Meyering and Giuseppe Scrivano"), ("tac", "Jay Lepreau and David MacKenzie"),
    ("tail", "Paul Rubin, David MacKenzie, Ian Lance Taylor,\nand Jim Meyering"),
    ("tee", "Mike Parker, Richard M. Stallman, and David MacKenzie"),
    ("[", "Kevin Braunsdorf and Matthew Bradburn"), ("timeout", "Padraig Brady"),
    ("touch", "Paul Rubin, Arnold Robbins, Jim Kingdon,\nDavid MacKenzie, and Randy Smith"),
    ("tr", "Jim Meyering"), ("true", "Jim Meyering"), ("truncate", "Padraig Brady"),
    ("tsort", "Mark Kettenis"), ("tty", "David MacKenzie"), ("uname", "David MacKenzie"),
    ("unexpand", "David MacKenzie"), ("uniq", "Richard M. Stallman and David MacKenzie"),
    ("wc", "Paul Rubin and David MacKenzie"), ("whoami", "Richard Mlynarik"),
    ("yes", "David MacKenzie")]

/-- The terms that all of the larger utilities tell. -/
def terms : String :=
  "License GPLv3+: GNU GPL version 3 or later <https://gnu.org/licenses/gpl.html>.\n" ++
  "This is free software: you are free to change and redistribute it.\n" ++
  "There is NO WARRANTY, to the extent permitted by law.\n"

/-- A version, who holds the rights, the terms, and what follows them. -/
def aboutText (version rest : String) : String :=
  version ++ "\nCopyright (C) 2022 Free Software Foundation, Inc.\n" ++ terms ++ "\n" ++ rest

/-- What the editor of streams tells behind the terms. -/
def editorText : String :=
  "Written by Jay Fenlason, Tom Lord, Ken Pizzini,\n" ++
  "Paolo Bonzini, Jim Meyering, and Assaf Gordon.\n\n" ++
  "This sed program was built with SELinux support.\nSELinux is disabled on this system.\n\n" ++
  "GNU sed home page: <https://www.gnu.org/software/sed/>.\n" ++
  "General help using GNU software: <https://www.gnu.org/gethelp/>.\n" ++
  "E-mail bug reports to: <bug-sed@gnu.org>.\n"

/-- What a utility that was called by a name tells about itself, if it does. -/
def about? (name called : String) : Option String :=
  match name with
  | "sed" => some (aboutText (called ++ " (GNU sed) 4.9\nPackaged by Debian") editorText)
  | "grep" => some (aboutText "grep (GNU grep) 3.8"
      ("Written by Mike Haertel and others; see\n" ++
        "<https://git.sv.gnu.org/cgit/grep.git/tree/AUTHORS>.\n"))
  | "diff" => some (aboutText "diff (GNU diffutils) 3.8"
      ("Written by Paul Eggert, Mike Haertel, David Hayes,\n" ++
        "Richard Stallman, and Len Tower.\n"))
  | "cmp" => some (aboutText "cmp (GNU diffutils) 3.8"
      "Written by Torbjorn Granlund and David MacKenzie.\n")
  | "xargs" => some (aboutText "xargs (GNU findutils) 4.9.0"
      "Written by Mike Rendell, James Youngman and Eric Blake.\n")
  | "rev" => some (called ++ " from util-linux 2.38.1\n")
  | name => (writers.lookup name).map fun who =>
      aboutText (name ++ " (GNU coreutils) 9.1") ("Written by " ++ who ++ ".\n")

end BulkSuppress.Shell.Utility
