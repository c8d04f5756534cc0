import BulkSuppress.Yaml.Node
import BulkSuppress.Yaml.Token.Lexer

/-
  From the tokens of a text to its document. The functions that read nodes take a bound on the
  depth of their calls; each call that goes deeper is behind a token that was read, so that twice
  the number of tokens is always enough.
-/

namespace BulkSuppress.Yaml.Compose

/-- The tokens that are left, and what is known about handles and anchors. -/
structure State where
  lexemes : List Lexeme
  /-- What the handles of tags stand for. -/
  handles : List (String × String) := []
  /-- The slots of the anchors, last word first. -/
  names : List (String × Nat) := []
  slots : List (Nat × Nat) := []
  anchored : List (Nat × Node) := []
  /-- The number of anchors so far. -/
  serial : Nat := 0

/-- Reading that gives up on the first token that does not fit. -/
abbrev Reader := StateT State Option

/-- What does not fit. -/
def reject {α : Type} : Reader α := fun _ => none

/-- The next token with its place. -/
def peek : Reader Lexeme := do
  match (← get).lexemes with
  | [] => return ⟨.finish, {}, {}⟩
  | x :: _ => return x

/-- The next token. -/
def token : Reader Token := do return (← peek).token

/-- Go on behind the next token. -/
def shift : Reader Unit :=
  modify fun s => { s with lexemes := s.lexemes.drop 1 }

/-- The next token is one of these. -/
def seesOneOf (tokens : List Token) : Reader Bool := do return tokens.contains (← token)

/-! ## Properties -/

/-- The properties that can stand in front of a node. -/
structure Properties where
  anchor : Option String := none
  tag : Option String := none

/-- The name of a tag, whose handle has to be known. -/
def tagName (handle suffix : String) : Reader String := do
  if handle.isEmpty then return suffix
  else match (← get).handles.lookup handle with
    | some pre => return pre ++ suffix
    | none => reject

/-- An anchor, if one is next. -/
def anchor? : Reader (Option String) := do
  match ← token with
  | .anchor name => shift; return some name
  | _ => return none

/-- A tag, if one is next. -/
def tag? : Reader (Option (String × String)) := do
  match ← token with
  | .tag handle suffix => shift; return some (handle, suffix)
  | _ => return none

/-- An anchor and a tag in either order, as far as they are there. -/
def properties : Reader Properties := do
  let before ← anchor?
  let tag ← tag?
  let anchor ← if before.isSome || tag.isNone then pure before else anchor?
  match tag with
  | none => return { anchor }
  | some (handle, suffix) => return { anchor, tag := some (← tagName handle suffix) }

/--
Give an anchor a slot. A new slot has the number of names known before, so that after an anchor
has been given a new meaning the next one shares its slot.
-/
def openAnchor (name : Option String) : Reader (Option Nat) := do
  match name with
  | none => return none
  | some name =>
    let s ← get
    let slot := (s.names.map (·.1)).eraseDups.length
    set { s with
      names := (name, slot) :: s.names
      slots := (slot, s.serial) :: s.slots
      serial := s.serial + 1 }
    return some s.serial

/-- Note the node that was anchored. -/
def closeAnchor (serial : Option Nat) (n : Node) : Reader Node := do
  match serial with
  | none => return n
  | some serial =>
    modify fun s => { s with anchored := (serial, n) :: s.anchored }
    return n

/-- The empty scalar at a place. -/
def empty (m : Mark) : Node := .scalar m.position ⟨"", .plain, none⟩

/-! ## Nodes -/

mutual

/--
A node. Collections of the block style are allowed if `block`, a sequence without an indentation
of its own if `indentless`.
-/
def node (depth : Nat) (block indentless : Bool) : Reader Node :=
  match depth with
  | 0 => reject
  | depth + 1 => do
    let first ← peek
    match first.token with
    | .alias name =>
      match (← get).names.lookup name with
      | none => reject
      | some slot => shift; return .alias slot
    | _ =>
      let props ← properties
      let next ← peek
      match next.token with
      | .scalar text style =>
        let serial ← openAnchor props.anchor
        shift
        closeAnchor serial
          (.scalar first.start.position ⟨text, style, props.tag⟩)
      | .blockEntry =>
        if indentless then
          let serial ← openAnchor props.anchor
          closeAnchor serial (.sequence first.start.position (← indentlessItems depth))
        else bare props first.start
      | .flowSequenceStart =>
        let serial ← openAnchor props.anchor
        shift
        closeAnchor serial (.sequence first.start.position (← flowItems depth true))
      | .flowMappingStart =>
        let serial ← openAnchor props.anchor
        shift
        closeAnchor serial (.mapping first.start.position (← flowEntries depth true))
      | .blockSequenceStart =>
        if block then
          let serial ← openAnchor props.anchor
          shift
          closeAnchor serial (.sequence first.start.position (← blockItems depth))
        else bare props first.start
      | .blockMappingStart =>
        if block then
          let serial ← openAnchor props.anchor
          shift
          closeAnchor serial (.mapping first.start.position (← blockEntries depth))
        else bare props first.start
      | _ => bare props first.start
where
  /-- Properties without a node stand for an empty scalar. -/
  bare (props : Properties) (m : Mark) : Reader Node := do
    if props.anchor.isNone && props.tag.isNone then reject
    else
      let serial ← openAnchor props.anchor
      closeAnchor serial (.scalar m.position ⟨"", .plain, props.tag⟩)

/-- A node, or the empty scalar at `m` in front of one of the tokens. -/
def nodeUnless (depth : Nat) (block indentless : Bool) (m : Mark) (tokens : List Token) :
    Reader Node :=
  match depth with
  | 0 => reject
  | depth + 1 => do
    if ← seesOneOf tokens then return empty m else node depth block indentless

/-- The items of a block sequence, behind its start. -/
def blockItems (depth : Nat) : Reader (List Node) :=
  match depth with
  | 0 => reject
  | depth + 1 => do
    let dash ← peek
    match dash.token with
    | .blockEntry =>
      shift
      let n ← nodeUnless depth true false dash.stop [.blockEntry, .blockEnd]
      return n :: (← blockItems depth)
    | .blockEnd => shift; return []
    | _ => reject

/-- The items of a sequence in a mapping that has no indentation of its own. -/
def indentlessItems (depth : Nat) : Reader (List Node) :=
  match depth with
  | 0 => reject
  | depth + 1 => do
    let dash ← peek
    match dash.token with
    | .blockEntry =>
      shift
      let n ← nodeUnless depth true false dash.stop [.blockEntry, .key, .value, .blockEnd]
      return n :: (← indentlessItems depth)
    | _ => return []

/-- The entries of a block mapping, behind its start. -/
def blockEntries (depth : Nat) : Reader (List (Node × Node)) :=
  match depth with
  | 0 => reject
  | depth + 1 => do
    let mark ← peek
    match mark.token with
    | .key =>
      shift
      let k ← nodeUnless depth true true mark.stop [.key, .value, .blockEnd]
      let colon ← peek
      let v ← match colon.token with
        | .value => do
          shift
          nodeUnless depth true true colon.stop [.key, .value, .blockEnd]
        | _ => pure (empty colon.start)
      return (k, v) :: (← blockEntries depth)
    | .blockEnd => shift; return []
    | _ => reject

/-- The items of a flow sequence, behind its start. A key makes an item a mapping of its own. -/
def flowItems (depth : Nat) (isFirst : Bool) : Reader (List Node) :=
  match depth with
  | 0 => reject
  | depth + 1 => do
    if ← seesOneOf [.flowSequenceEnd] then shift; return []
    else
      if !isFirst then
        if ← seesOneOf [.flowEntry] then shift else reject
      let first ← peek
      match first.token with
      | .flowSequenceEnd => shift; return []
      | .key =>
        shift
        let entry ← flowPair depth
        return .mapping first.start.position [entry] :: (← flowItems depth false)
      | _ =>
        let n ← node depth false false
        return n :: (← flowItems depth false)

/-- The only entry of a mapping that is an item of a flow sequence, behind its key's mark. -/
def flowPair (depth : Nat) : Reader (Node × Node) :=
  match depth with
  | 0 => reject
  | depth + 1 => do
    let next ← peek
    let k ← if [Token.value, .flowEntry, .flowSequenceEnd].contains next.token then do
        -- An empty key takes the token behind it with it.
        shift
        pure (empty next.stop)
      else node depth false false
    let colon ← peek
    match colon.token with
    | .value =>
      shift
      let after ← peek
      let v ← nodeUnless depth false false after.start [.flowEntry, .flowSequenceEnd]
      return (k, v)
    | _ => return (k, empty colon.start)

/-- The entries of a flow mapping, behind its start. -/
def flowEntries (depth : Nat) (isFirst : Bool) : Reader (List (Node × Node)) :=
  match depth with
  | 0 => reject
  | depth + 1 => do
    if ← seesOneOf [.flowMappingEnd] then shift; return []
    else
      if !isFirst then
        if ← seesOneOf [.flowEntry] then shift else reject
      let first ← peek
      match first.token with
      | .flowMappingEnd => shift; return []
      | .key =>
        shift
        let next ← peek
        let k ← nodeUnless depth false false next.start [.value, .flowEntry, .flowMappingEnd]
        let colon ← peek
        let v ← match colon.token with
          | .value => do
            shift
            let after ← peek
            nodeUnless depth false false after.start [.flowEntry, .flowMappingEnd]
          | _ => pure (empty colon.start)
        return (k, v) :: (← flowEntries depth false)
      | _ =>
        let k ← node depth false false
        let after ← peek
        return (k, empty after.start) :: (← flowEntries depth false)

end

/-! ## Documents -/

/-- The handles that every document knows. -/
def defaultHandles : List (String × String) :=
  [("!", "!"), ("!!", "tag:yaml.org,2002:")]

/-- The directives in front of a document, with the handles that they define. -/
def directives (versioned : Bool) (handles : List (String × String)) :
    List Lexeme → Option (List (String × String) × List Lexeme)
  | [] => some (handles, [])
  | x :: rest =>
    match x.token with
    | .versionDirective major minor =>
      if versioned || major ≠ 1 || !(minor = 1 || minor = 2) then none
      else directives true handles rest
    | .tagDirective handle pre =>
      if (handles.lookup handle).isSome then none
      else directives versioned (handles ++ [(handle, pre)]) rest
    | _ => some (handles, x :: rest)

/-- A token that starts a document explicitly, or ends one. -/
def isOutside : Token → Bool
  | .versionDirective .. | .tagDirective .. | .documentStart | .documentEnd | .finish => true
  | _ => false

/-- The document of the tokens, behind which nothing but ends of documents may follow. -/
def documentOf (s : State) (read : Nat → Reader Node) : Option Document := do
  let (root, t) ← (read (2 * s.lexemes.length + 4)).run s
  if t.lexemes.all fun x => x.token = .documentEnd || x.token = .finish then
    return { root, slots := t.slots, anchored := t.anchored }
  else none

/-- The only document of the tokens; none if there is no document at all. -/
def document (lexemes : List Lexeme) : Option (Option Document) :=
  match lexemes with
  | [] => some none
  | x :: _ =>
    match x.token with
    | .finish => some none
    | .versionDirective .. | .tagDirective .. | .documentStart =>
      match directives false [] lexemes with
      | some (handles, start :: rest) =>
        if start.token = .documentStart then
          (documentOf { lexemes := rest, handles := handles ++ defaultHandles } fun depth => do
            let next ← peek
            if isOutside next.token then return empty next.start else node depth true false).map
            some
        else none
      | _ => none
    | _ =>
      (documentOf { lexemes, handles := defaultHandles } fun depth => node depth true false).map
        some

end Compose

/-- The only document of a text; nothing comes back if the text is not well-formed. -/
def Document.parse? (text : String) : Option (Option Document) :=
  (Lexer.scan text).bind Compose.document

end BulkSuppress.Yaml
