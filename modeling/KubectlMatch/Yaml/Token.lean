import KubectlMatch.Yaml.Scalar
/-!
# Tokens

A text is cut into scalars and the signs between them.  Two things about it are not local.
Indentation opens and closes blocks that no sign marks, so the lexer keeps the columns of the
open blocks.  And a scalar may turn out to be a key only at the colon after it, which stands on
the same line; so the lexer remembers where the last one that could be a key began, and puts the
sign for a key, and for the block that it opens, in front of it afterwards.
-/
namespace KubectlMatch.Yaml

inductive Token where
  | versionDirective (major minor : Nat)
  | tagDirective (handle start : String)
  | documentStart
  | documentEnd
  | blockSequenceStart
  | blockMappingStart
  | blockEnd
  | flowSequenceStart
  | flowSequenceEnd
  | flowMappingStart
  | flowMappingEnd
  | blockEntry
  | flowEntry
  | key
  | value
  | alias (name : String)
  | anchor (name : String)
  | tag (handle suffix : String)
  | scalar (text : String) (style : Style)
deriving DecidableEq

structure PendingKey where
  /-- How many tokens were before it. -/
  position : Nat
  /-- Whether it has to be a key, by its indentation. -/
  required : Bool
  index : Nat
  line : Nat
  column : Nat

structure Lexer where
  cursor : Cursor
  tokens : Array Token := #[]
  /-- The column of the innermost open block; negative outside all blocks. -/
  indent : Int := -1
  /-- The columns of the blocks around it. -/
  outerIndents : List Int := []
  /-- The possible key of each bracket that is open, and of the blocks around them. -/
  keys : List (Option PendingKey) := [none]
  /-- Whether a key can start here. -/
  keyAllowed : Bool := true

namespace Lexer

def inFlow (l : Lexer) : Bool := l.keys.length > 1

def emit (t : Token) (l : Lexer) : Lexer := { l with tokens := l.tokens.push t }

def skip (n : Nat) (l : Lexer) : Lexer := { l with cursor := l.cursor.advance n }

def allowKey (b : Bool) (l : Lexer) : Lexer := { l with keyAllowed := b }

/-! ## Possible keys -/

/-- The most bytes a key can be long if it has no sign in front. -/
def keyLimit : Nat := 1024

def isStale (c : Cursor) (k : PendingKey) : Bool :=
  k.line < c.line || k.index + keyLimit < c.index

def dropStale (l : Lexer) : Except Fault Lexer := do
  if l.keys.any fun k? => k?.any fun k => isStale l.cursor k && k.required then
    throw .missingColon
  return { l with keys := l.keys.map fun k? => k?.filter fun k => !isStale l.cursor k }

def dropKey (l : Lexer) : Except Fault Lexer :=
  match l.keys with
  | some k :: outer => if k.required then .error .missingColon else .ok { l with keys := none :: outer }
  | _ => .ok l

def noteKey (l : Lexer) : Except Fault Lexer := do
  if !l.keyAllowed then return l
  let c := l.cursor
  let required := !l.inFlow && l.indent == c.column
  let l ← l.dropKey
  return { l with keys := some ⟨l.tokens.size, required, c.index, c.line, c.column⟩ :: l.keys.tail }

/-! ## Blocks -/

/-- Opens a block at a column that is further in, with its sign at the given position. -/
def openBlock (column : Nat) (position : Nat) (t : Token) (l : Lexer) : Lexer :=
  if !l.inFlow && l.indent < column then
    { l with
      outerIndents := l.indent :: l.outerIndents
      indent := column
      tokens := l.tokens.insertIdxIfInBounds position t }
  else l

/-- The tokens and indentations that are left after all blocks further in than a column end. -/
def closing (column : Int) : Int → List Int → Array Token → Int × List Int × Array Token
  | indent, [], tokens => (indent, [], tokens)
  | indent, outer :: rest, tokens =>
    if column < indent then closing column outer rest (tokens.push .blockEnd)
    else (indent, outer :: rest, tokens)

def closeBlocks (column : Int) (l : Lexer) : Lexer :=
  if l.inFlow then l
  else
    let (indent, outerIndents, tokens) := closing column l.indent l.outerIndents l.tokens
    { l with indent, outerIndents, tokens }

/-! ## Between tokens -/

/-- Skips the white space and the comment on a line, and the end of the line. -/
def gapStep (l : Lexer) : Except Fault (Lexer × Bool) := do
  let c := l.cursor
  let c := if c.column == 0 && c.rest.head? == some '\uFEFF' then c.next else c
  let tabs := l.inFlow || !l.keyAllowed
  let c := (c.span fun x => x == ' ' || (tabs && x == '\t')).2
  let c := if c.rest.head? == some '#' then c.skipToLineEnd else c
  if c.rest.isEmpty || !endsLine c.rest then return ({ l with cursor := c }, false)
  return ({ l with cursor := c.skipBreak, keyAllowed := l.keyAllowed || !l.inFlow }, true)

def skipGap (l : Lexer) : Except Fault Lexer := iterate gapStep l.cursor.steps l

/-! ## Signs -/

def flowStart (t : Token) (l : Lexer) : Except Fault Lexer := do
  let l ← l.noteKey
  return ({ l with keys := none :: l.keys, keyAllowed := true }.skip 1).emit t

def flowEnd (t : Token) (l : Lexer) : Except Fault Lexer := do
  let l ← l.dropKey
  let keys := if l.inFlow then l.keys.tail else l.keys
  return ({ l with keys, keyAllowed := false }.skip 1).emit t

def flowEntry (l : Lexer) : Except Fault Lexer := do
  return ((← l.dropKey).allowKey true |>.skip 1).emit .flowEntry

def blockEntry (l : Lexer) : Except Fault Lexer := do
  if !l.inFlow && !l.keyAllowed then throw .misplacedEntry
  let l := l.openBlock l.cursor.column l.tokens.size .blockSequenceStart
  return ((← l.dropKey).allowKey true |>.skip 1).emit .blockEntry

def explicitKey (l : Lexer) : Except Fault Lexer := do
  if !l.inFlow && !l.keyAllowed then throw .misplacedKey
  let l := l.openBlock l.cursor.column l.tokens.size .blockMappingStart
  return ((← l.dropKey).allowKey (!l.inFlow) |>.skip 1).emit .key

/-- A colon: what may have been a key is one, and opens a block where it stands further in. -/
def value (l : Lexer) : Except Fault Lexer := do
  match l.keys with
  | some k :: outer =>
    let l := { l with
      tokens := l.tokens.insertIdxIfInBounds k.position .key
      keys := none :: outer }
    return ((l.openBlock k.column k.position .blockMappingStart).allowKey false |>.skip 1).emit .value
  | _ =>
    if !l.inFlow && !l.keyAllowed then throw .misplacedValue
    let l := l.openBlock l.cursor.column l.tokens.size .blockMappingStart
    return (l.allowKey (!l.inFlow) |>.skip 1).emit .value

def documentMarker (t : Token) (l : Lexer) : Except Fault Lexer := do
  return ((← (l.closeBlocks (-1)).dropKey).allowKey false |>.skip 3).emit t

/-! ## Names, tags and directives -/

def isNameChar (c : Char) : Bool := c.isAlphanum || c == '-' || c == '_'

/-- An anchor or an alias, whose name ends at white space or at an indicator. -/
def name (make : String → Token) (l : Lexer) : Except Fault Lexer := do
  let l := (← l.noteKey).allowKey false
  let (run, c) := l.cursor.next.span isNameChar
  let ends := endsWord c.rest || c.rest.head?.any fun x => "?:,]\x7d%@`".toList.contains x
  if run.isEmpty || !ends then throw .badAnchor
  return { l with cursor := c }.emit (make (String.ofList run))

/-- Reads a tag's handle: an exclamation mark, and a name and another mark where there is one. -/
def readHandle (c : Cursor) : Except Fault (List Char × Cursor) := do
  if c.rest.head? ≠ some '!' then throw .badTag
  let (run, c) := c.next.span isNameChar
  if c.rest.head? == some '!' then return ('!' :: run ++ ['!'], c.next)
  return ('!' :: run, c)

def isUriChar (verbatim : Bool) (c : Char) : Bool :=
  isNameChar c || ";/?:@&=+$.%!~*'()".toList.contains c || (verbatim && ",[]".toList.contains c)

/-- How many bytes follow a first byte, if it can be one. -/
def byteFollowers? (b : Nat) : Option Nat :=
  if b < 0x80 then some 0
  else if b / 0x20 == 6 then some 1
  else if b / 0x10 == 14 then some 2
  else if b / 8 == 30 then some 3
  else none

/-- The text of a tag with its escaped bytes decoded; a character of several bytes reads as one
that no known tag has.  `pending` of them are still to come. -/
def decodeUri : Nat → List Char → Except Fault (List Char)
  | pending, '%' :: a :: b :: rest => do
    if !isHexDigit a || !isHexDigit b then throw .badTag
    let n := hexDigitValue a * 16 + hexDigitValue b
    match pending with
    | k + 1 => if n / 0x40 == 2 then decodeUri k rest else throw .badTag
    | 0 =>
      match byteFollowers? n with
      | some 0 => (decodeUri 0 rest).map (Char.ofNat n :: ·)
      | some k => (decodeUri k rest).map ('\uFFFD' :: ·)
      | none => throw .badTag
  | 0, [] => .ok []
  | 0, c :: rest => if c == '%' then .error .badTag else (decodeUri 0 rest).map (c :: ·)
  | _ + 1, _ => .error .badTag

/-- Reads the rest of a tag behind the part of it that was taken for a handle. -/
def readUri (verbatim : Bool) (head : List Char) (c : Cursor) : Except Fault (List Char × Cursor) := do
  let (run, c) := c.span (isUriChar verbatim)
  if head.isEmpty && run.isEmpty then throw .badTag
  return (head.drop 1 ++ (← decodeUri 0 run), c)

/-- Reads a tag: its handle, which is empty for one that is spelled out, and its suffix. -/
def readTag (c : Cursor) : Except Fault (List Char × List Char × Cursor) := do
  match c.rest with
  | '!' :: '<' :: _ =>
    let (suffix, c) ← readUri true [] c.next.next
    if c.rest.head? ≠ some '>' then throw .badTag
    return ([], suffix, c.next)
  | _ =>
    let (handle, c) ← readHandle c
    if handle.length > 1 && handle.getLast? == some '!' then
      let (suffix, c) ← readUri false [] c
      return (handle, suffix, c)
    let (suffix, c) ← readUri false handle c
    if suffix.isEmpty then return ([], ['!'], c)
    return (['!'], suffix, c)

def tag (l : Lexer) : Except Fault Lexer := do
  let l := (← l.noteKey).allowKey false
  let (handle, suffix, c) ← readTag l.cursor
  if !endsWord c.rest && !(l.inFlow && c.rest.head? == some ',') then throw .badTag
  return { l with cursor := c }.emit (.tag (String.ofList handle) (String.ofList suffix))

def readVersionNumber (c : Cursor) : Except Fault (Nat × Cursor) := do
  let (run, c) := c.span Char.isDigit
  if run.isEmpty || run.length > 9 then throw .badDirective
  return (Nat.ofDigitChars 10 run 0, c)

def readDirective (c : Cursor) : Except Fault (Token × Cursor) := do
  let (word, c) := c.span isNameChar
  if !endsWord c.rest then throw .badDirective
  if word = "YAML".toList then
    let (major, c) ← readVersionNumber c.skipBlanks
    if c.rest.head? ≠ some '.' then throw .badDirective
    let (minor, c) ← readVersionNumber c.next
    return (.versionDirective major minor, c)
  else if word = "TAG".toList then
    let (handle, c) ← readHandle c.skipBlanks
    if handle ≠ ['!'] && handle.getLast? ≠ some '!' then throw .badDirective
    if !(c.rest.head?.any isBlank) then throw .badDirective
    let (start, c) ← readUri true [] c.skipBlanks
    if !endsWord c.rest then throw .badDirective
    return (.tagDirective (String.ofList handle) (String.ofList start), c)
  else throw .badDirective

def directive (l : Lexer) : Except Fault Lexer := do
  let l := (← (l.closeBlocks (-1)).dropKey).allowKey false
  let (t, c) ← readDirective l.cursor.next
  let c := c.skipBlanks
  let c := if c.rest.head? == some '#' then c.skipToLineEnd else c
  if !endsLine c.rest then throw .badDirective
  return { l with cursor := c.skipBreak }.emit t

/-! ## Scalars -/

def blockScalar (literal : Bool) (l : Lexer) : Except Fault Lexer := do
  let l := (← l.dropKey).allowKey true
  let (text, c) ← readBlock literal l.indent l.cursor.next
  return { l with cursor := c }.emit (.scalar text (if literal then .literal else .folded))

def quotedScalar (mark : Char) (l : Lexer) : Except Fault Lexer := do
  let l := (← l.noteKey).allowKey false
  let (text, c) ← readQuoted mark l.cursor.next
  return { l with cursor := c }.emit (.scalar text .quoted)

def plainScalar (l : Lexer) : Except Fault Lexer := do
  let l := (← l.noteKey).allowKey false
  let (text, broken, c) ← readPlain l.inFlow (l.indent + 1) l.cursor
  return { l with cursor := c, keyAllowed := broken }.emit (.scalar text .plain)

/-- The characters that begin no plain scalar, unless the exceptions below apply. -/
def isIndicator (c : Char) : Bool := "-?:,[]\x7b\x7d#&*!|>'\"%@`".toList.contains c

/-- Whether a plain scalar can start with this character before these. -/
def startsPlain (inFlow : Bool) (c : Char) (rest : List Char) : Bool :=
  (!isIndicator c && !isBlank c) || (c == '-' && !(rest.head?.any isBlank)) ||
    (!inFlow && (c == '?' || c == ':') && !endsWord rest)

/-! ## The whole text -/

def readToken (l : Lexer) (c : Char) (rest : List Char) : Except Fault Lexer :=
  let stands := endsWord rest
  if l.cursor.column == 0 && c == '%' then l.directive
  else if l.cursor.atMarker then l.documentMarker (if c == '-' then .documentStart else .documentEnd)
  else if c == '[' then l.flowStart .flowSequenceStart
  else if c == '{' then l.flowStart .flowMappingStart
  else if c == ']' then l.flowEnd .flowSequenceEnd
  else if c == '}' then l.flowEnd .flowMappingEnd
  else if c == ',' then l.flowEntry
  else if c == '-' && stands then l.blockEntry
  else if c == '?' && (l.inFlow || stands) then l.explicitKey
  else if c == ':' && (l.inFlow || stands) then l.value
  else if c == '*' then l.name .alias
  else if c == '&' then l.name .anchor
  else if c == '!' then l.tag
  else if c == '|' && !l.inFlow then l.blockScalar true
  else if c == '>' && !l.inFlow then l.blockScalar false
  else if c == '\'' || c == '"' then l.quotedScalar c
  else if startsPlain l.inFlow c rest then l.plainScalar
  else .error (.strayCharacter c)

def step (l : Lexer) : Except Fault (Lexer × Bool) := do
  let l ← (← l.skipGap).dropStale
  let l := l.closeBlocks l.cursor.column
  match l.cursor.rest with
  | [] => return (← (l.closeBlocks (-1)).dropKey, false)
  | c :: rest => return (← l.readToken c rest, true)

end Lexer

def isTextChar (c : Char) : Bool :=
  let n := c.toNat
  n == 0x09 || n == 0x0A || n == 0x0D || (0x20 ≤ n && n ≤ 0x7E) || n == 0x85 ||
    (0xA0 ≤ n && n ≤ 0xFFFD) || 0x10000 ≤ n

/-- Cuts a text into tokens.  A byte order mark in front of it is no part of it. -/
def Token.ofText? (text : List Char) : Except Fault (List Token) := do
  if !text.all isTextChar then throw .controlCharacter
  let c := Cursor.start (if text.head? == some '\uFEFF' then text.tail else text)
  let l ← iterate Lexer.step c.steps { cursor := c }
  return l.tokens.toList

end KubectlMatch.Yaml
