/-!
# A place in a text

A cursor is what is left of a text together with how much of it, how many lines and how many
columns lie behind.  Every reader of this folder moves a cursor, and most of them repeat one
step that consumes text; `iterate` does that as often as there is text left to consume.
-/
namespace KubectlMatch.Yaml

structure Cursor where
  rest : List Char
  /-- How many bytes lie behind. -/
  index : Nat
  line : Nat
  column : Nat

/-- A space or a tab. -/
def isBlank (c : Char) : Bool := c == ' ' || c == '\t'

/-- A character that ends a line. -/
def isBreak (c : Char) : Bool :=
  c == '\n' || c == '\r' || c == '\x85' || c == '\u2028' || c == '\u2029'

/-- Whether the text is at its end or at white space. -/
def endsWord : List Char → Bool
  | [] => true
  | c :: _ => isBlank c || isBreak c

def endsLine : List Char → Bool
  | [] => true
  | c :: _ => isBreak c

/-- Repeats a step for as long as it asks to go on, at most as often as the bound says. -/
def iterate {ε σ : Type} (step : σ → Except ε (σ × Bool)) : Nat → σ → Except ε σ
  | 0, s => .ok s
  | n + 1, s => do
    let (s, more) ← step s
    if more then iterate step n s else return s

namespace Cursor

def start (text : List Char) : Cursor := ⟨text, 0, 0, 0⟩

/-- The place one character on, which ends no line. -/
def next (c : Cursor) : Cursor :=
  match c.rest with
  | [] => c
  | x :: rest => ⟨rest, c.index + x.utf8Size, c.line, c.column + 1⟩

def advance : Nat → Cursor → Cursor
  | 0, c => c
  | n + 1, c => advance n c.next

/-- The characters up to the first that fails the test, none of which ends a line. -/
def span (test : Char → Bool) (c : Cursor) : List Char × Cursor :=
  let run := c.rest.takeWhile test
  (run, c.advance run.length)

def skipBlanks (c : Cursor) : Cursor := (c.span isBlank).2

def skipToLineEnd (c : Cursor) : Cursor := (c.span fun x => !isBreak x).2

/-- Reads the end of a line: what a text keeps of it, and the start of the next line. -/
def readBreak (c : Cursor) : List Char × Cursor :=
  match c.rest with
  | '\r' :: '\n' :: rest => (['\n'], ⟨rest, c.index + 2, c.line + 1, 0⟩)
  | x :: rest =>
    if isBreak x then
      (if x == '\u2028' || x == '\u2029' then [x] else ['\n'],
        ⟨rest, c.index + x.utf8Size, c.line + 1, 0⟩)
    else ([], c)
  | [] => ([], c)

def skipBreak (c : Cursor) : Cursor := c.readBreak.2

/-- Whether a line of three hyphens or three dots starts here, which bounds a document. -/
def atMarker (c : Cursor) : Bool :=
  c.column == 0 &&
    match c.rest with
    | '-' :: '-' :: '-' :: rest => endsWord rest
    | '.' :: '.' :: '.' :: rest => endsWord rest
    | _ => false

/-- A bound on the steps of a reader that consumes text with each. -/
def steps (c : Cursor) : Nat := c.rest.length + 1

end Cursor

end KubectlMatch.Yaml
