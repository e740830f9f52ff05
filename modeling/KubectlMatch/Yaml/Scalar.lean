import KubectlMatch.Yaml.Cursor
import KubectlMatch.Yaml.Fault
/-!
# The forms of a scalar

A scalar is a text in one of five forms: plain, in single or double quotes, or as a literal or
folded block.  In all of them a line break between two runs of text stands for a blank, and
more breaks stand for all but the first of them; only a literal block keeps every break.
-/
namespace KubectlMatch.Yaml

inductive Style where
  | plain
  | quoted
  | literal
  | folded
deriving DecidableEq

/-- The white space between two runs of text. -/
structure Gap where
  /-- Whether a line ended in it. -/
  broken : Bool := false
  /-- The blanks before a line ended. -/
  blanks : List Char := []
  /-- The first break, as it is kept. -/
  first : List Char := []
  /-- The breaks after the first. -/
  others : List Char := []

namespace Gap

/-- What the white space stands for. -/
def folded (gap : Gap) : List Char :=
  if !gap.broken then gap.blanks
  else if gap.first.head? == some '\n' then
    if gap.others.isEmpty then [' '] else gap.others
  else gap.first ++ gap.others

/-- Takes one blank or break into the gap.  Left of the given column no tab may indent. -/
def step (indent : Int) (s : Gap × Cursor) : Except Fault ((Gap × Cursor) × Bool) :=
  let (gap, c) := s
  match c.rest with
  | [] => .ok (s, false)
  | x :: _ =>
    if isBlank x then
      if gap.broken then
        if x == '\t' && c.column < indent then .error .tabIndentation
        else .ok ((gap, c.next), true)
      else .ok (({ gap with blanks := gap.blanks ++ [x] }, c.next), true)
    else if isBreak x then
      let (kept, c) := c.readBreak
      if gap.broken then .ok (({ gap with others := gap.others ++ kept }, c), true)
      else .ok (({ gap with broken := true, blanks := [], first := kept }, c), true)
    else .ok (s, false)

def read (indent : Int) (gap : Gap) (c : Cursor) : Except Fault (Gap × Cursor) :=
  iterate (step indent) c.steps (gap, c)

end Gap

/-! ## Plain scalars -/

/-- The characters that mean something inside brackets. -/
def isFlowIndicator (c : Char) : Bool :=
  c == ',' || c == '[' || c == ']' || c == '{' || c == '}'

/-- The run of text at the start: up to white space, a colon that ends a key, or inside
brackets an indicator. -/
def plainRun (inFlow : Bool) : List Char → Except Fault (List Char)
  | [] => .ok []
  | c :: rest =>
    let colonHere := inFlow && c == ':' &&
      match rest with
      | [] => false
      | d :: _ => isFlowIndicator d || d == '?'
    if isBlank c || isBreak c then .ok []
    else if colonHere then .error .colonBeforeIndicator
    else if (c == ':' && endsWord rest) || (inFlow && isFlowIndicator c) then .ok []
    else (plainRun inFlow rest).map (c :: ·)

structure PlainState where
  text : String := ""
  gap : Gap := {}
  cursor : Cursor

def plainStep (inFlow : Bool) (indent : Int) (s : PlainState) :
    Except Fault (PlainState × Bool) := do
  if s.cursor.atMarker || s.cursor.rest.head? == some '#' then return (s, false)
  let run ← plainRun inFlow s.cursor.rest
  let text := if run.isEmpty then s.text else s.text ++ String.ofList (s.gap.folded ++ run)
  let gap := if run.isEmpty then s.gap else {}
  let c := s.cursor.advance run.length
  if c.rest.isEmpty || !endsWord c.rest then return (⟨text, gap, c⟩, false)
  let (gap, c) ← Gap.read indent {} c
  return (⟨text, gap, c⟩, inFlow || indent ≤ c.column)

/-- Reads a plain scalar, and tells whether a line ended right after it. -/
def readPlain (inFlow : Bool) (indent : Int) (c : Cursor) :
    Except Fault (String × Bool × Cursor) := do
  let s ← iterate (plainStep inFlow indent) c.steps { cursor := c }
  return (s.text, s.gap.broken, s.cursor)

/-! ## Quoted scalars -/

def simpleEscape? : Char → Option Char
  | '0' => some '\x00'
  | 'a' => some '\x07'
  | 'b' => some '\x08'
  | 't' => some '\t'
  | '\t' => some '\t'
  | 'n' => some '\n'
  | 'v' => some '\x0B'
  | 'f' => some '\x0C'
  | 'r' => some '\r'
  | 'e' => some '\x1B'
  | ' ' => some ' '
  | '"' => some '"'
  | '/' => some '/'
  | '\\' => some '\\'
  | 'N' => some '\x85'
  | '_' => some '\xA0'
  | 'L' => some '\u2028'
  | 'P' => some '\u2029'
  | _ => none

def isHexDigit (c : Char) : Bool :=
  c.isDigit || ('a' ≤ c && c ≤ 'f') || ('A' ≤ c && c ≤ 'F')

def hexDigitValue (c : Char) : Nat :=
  if c.isDigit then c.toNat - '0'.toNat
  else if 'a' ≤ c then c.toNat - 'a'.toNat + 10
  else c.toNat - 'A'.toNat + 10

def codePoint (digits : List Char) : Except Fault Char :=
  let n := digits.foldl (fun n c => n * 16 + hexDigitValue c) 0
  if digits.all isHexDigit && n.isValidChar then .ok (Char.ofNat n) else .error .badEscape

/-- A run of text between single quotes, with what is left after it. -/
def singleRun : List Char → List Char × List Char
  | '\'' :: '\'' :: rest =>
    let (run, rest) := singleRun rest
    ('\'' :: run, rest)
  | c :: rest =>
    if c == '\'' || isBlank c || isBreak c then ([], c :: rest)
    else
      let (run, rest) := singleRun rest
      (c :: run, rest)
  | [] => ([], [])

/-- A run of text between double quotes, with what is left after it.  It ends before a backslash
at the end of a line. -/
def doubleRun : List Char → Except Fault (List Char × List Char)
  | '\\' :: 'x' :: a :: b :: rest => do
    let c ← codePoint [a, b]
    let (run, rest) ← doubleRun rest
    return (c :: run, rest)
  | '\\' :: 'u' :: a :: b :: c :: d :: rest => do
    let c ← codePoint [a, b, c, d]
    let (run, rest) ← doubleRun rest
    return (c :: run, rest)
  | '\\' :: 'U' :: a :: b :: c :: d :: e :: f :: g :: h :: rest => do
    let c ← codePoint [a, b, c, d, e, f, g, h]
    let (run, rest) ← doubleRun rest
    return (c :: run, rest)
  | '\\' :: e :: rest =>
    match simpleEscape? e with
    | some c => do
      let (run, rest) ← doubleRun rest
      return (c :: run, rest)
    | none => if isBreak e then .ok ([], '\\' :: e :: rest) else .error .badEscape
  | c :: rest =>
    if c == '\\' then .error .badEscape
    else if c == '"' || isBlank c || isBreak c then .ok ([], c :: rest)
    else do
      let (run, rest) ← doubleRun rest
      return (c :: run, rest)
  | [] => .ok ([], [])

structure QuotedState where
  text : String := ""
  cursor : Cursor

/-- Reads a run of text and the white space after it, until the closing quote. -/
def quotedStep (mark : Char) (s : QuotedState) : Except Fault (QuotedState × Bool) := do
  if s.cursor.atMarker then throw .markerInQuotes
  if s.cursor.rest.isEmpty then throw .unclosedQuote
  let (run, rest) ← if mark == '"' then doubleRun s.cursor.rest else pure (singleRun s.cursor.rest)
  let c := s.cursor.advance (s.cursor.rest.length - rest.length)
  let text := s.text ++ String.ofList run
  if rest.head? == some mark then return (⟨text, c.next⟩, false)
  let joined := mark == '"' && rest.head? == some '\\'
  let c := if joined then c.next.skipBreak else c
  let (gap, c) ← Gap.read 0 { broken := joined } c
  return (⟨text ++ String.ofList gap.folded, c⟩, true)

def readQuoted (mark : Char) (c : Cursor) : Except Fault (String × Cursor) := do
  let s ← iterate (quotedStep mark) c.steps { cursor := c }
  return (s.text, s.cursor)

/-! ## Block scalars -/

inductive Chomping where
  | strip
  | clip
  | keep
deriving DecidableEq

def chomping? : Char → Option Chomping
  | '+' => some .keep
  | '-' => some .strip
  | _ => none

def increment? (c : Char) : Option Nat := if c.isDigit then some (c.toNat - '0'.toNat) else none

/-- Reads what stands behind the mark of a block: how it ends and how far it is indented, each
at most once and in either order. -/
def blockHeader (c : Cursor) : Except Fault (Chomping × Option Nat × Cursor) := do
  let at_ (c : Cursor) : Char := c.rest.headD ' '
  let (chomping, increment, c) :=
    match chomping? (at_ c) with
    | some chomping =>
      match increment? (at_ c.next) with
      | some n => (chomping, some n, c.next.next)
      | none => (chomping, none, c.next)
    | none =>
      match increment? (at_ c) with
      | some n =>
        match chomping? (at_ c.next) with
        | some chomping => (chomping, some n, c.next.next)
        | none => (Chomping.clip, some n, c.next)
      | none => (Chomping.clip, none, c)
  if increment == some 0 then throw .badBlockHeader
  let c := c.skipBlanks
  let c := if c.rest.head? == some '#' then c.skipToLineEnd else c
  if !endsLine c.rest then throw .badBlockHeader
  return (chomping, increment, c.skipBreak)

/-- The empty lines of a block on the way. -/
structure EmptyLines where
  breaks : List Char := []
  /-- The widest indentation met. -/
  widest : Nat := 0
  cursor : Cursor

/-- Reads the indentation of a line, and the line if it is empty.  Where the indentation of the
block is not known yet, all spaces count as indentation. -/
def emptyLineStep (indent : Option Nat) (s : EmptyLines) : Except Fault (EmptyLines × Bool) := do
  let left (column : Nat) : Bool := indent.all fun n => column < n
  let spaces := (s.cursor.rest.takeWhile (· == ' ')).length
  let c := s.cursor.advance <|
    match indent with
    | none => spaces
    | some n => min spaces (n - s.cursor.column)
  let widest := max s.widest c.column
  if left c.column && c.rest.head? == some '\t' then throw .tabIndentation
  if c.rest.isEmpty || !endsLine c.rest then return (⟨s.breaks, widest, c⟩, false)
  let (kept, c) := c.readBreak
  return (⟨s.breaks ++ kept, widest, c⟩, true)

def readEmptyLines (indent : Option Nat) (c : Cursor) : Except Fault EmptyLines :=
  iterate (emptyLineStep indent) c.steps { cursor := c }

structure BlockState where
  text : String := ""
  /-- The break after the last line of text. -/
  lead : List Char := []
  /-- The breaks of the empty lines after it. -/
  trail : List Char
  /-- Whether the last line started with a blank, which keeps the breaks around it. -/
  blankBefore : Bool := false
  cursor : Cursor

def blockStep (literal : Bool) (indent : Nat) (s : BlockState) :
    Except Fault (BlockState × Bool) := do
  if s.cursor.column ≠ indent ∨ s.cursor.rest.isEmpty then return (s, false)
  let blankHere := (s.cursor.rest.head?.map isBlank).getD false
  let folds := !literal && s.lead.head? == some '\n' && !s.blankBefore && !blankHere
  let lead := if folds then (if s.trail.isEmpty then [' '] else []) else s.lead
  let (run, c) := s.cursor.span fun x => !isBreak x
  let text := s.text ++ String.ofList (lead ++ s.trail ++ run)
  let (lead, c) := c.readBreak
  let lines ← readEmptyLines (some indent) c
  return (⟨text, lead, lines.breaks, blankHere, lines.cursor⟩, true)

def readBlock (literal : Bool) (parentIndent : Int) (c : Cursor) :
    Except Fault (String × Cursor) := do
  let (chomping, increment, c) ← blockHeader c
  let known := increment.map fun n => n + parentIndent.toNat
  let lines ← readEmptyLines known c
  let indent := known.getD (max lines.widest (max (parentIndent + 1) 1).toNat)
  let s ← iterate (blockStep literal indent) lines.cursor.steps
    { trail := lines.breaks, cursor := lines.cursor }
  let tail := match chomping with
    | .strip => []
    | .clip => s.lead
    | .keep => s.lead ++ s.trail
  return (s.text ++ String.ofList tail, s.cursor)

end KubectlMatch.Yaml
