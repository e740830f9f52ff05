import KubectlMatch.Yaml.Token
/-!
# Documents

A document is a tree of scalars, sequences and mappings, in which a node can be given a name and
stand again wherever the name is called.  The tree keeps such calls as they are, since a node
may call itself; `Document.resolve` looks one up.

The tree is put together from the tokens by the grammar of the language: a node is a scalar, a
bracketed list, a block opened by indentation, or nothing at all where a key or a value may be
left out, and then it is an empty scalar.
-/
namespace KubectlMatch.Yaml

inductive Node where
  /-- A scalar and its tag.  An exclamation mark alone is no tag of a scalar that is written. -/
  | scalar (tag : Option String) (style : Style) (text : String)
  | sequence (items : List Node)
  | mapping (entries : List (Node × Node))
  /-- The node with the given number again. -/
  | alias (number : Nat)

/-- What stands where nothing is written. -/
def Node.empty : Node := .scalar none .plain ""

structure Document where
  root : Node
  /-- The place among `nodes` of each number's node, the valid one first. -/
  places : List (Nat × Nat)
  nodes : List (Nat × Node)

namespace Document

def resolve (d : Document) (n : Node) : Node :=
  match n with
  | .alias number => ((d.places.lookup number).bind fun place => d.nodes.lookup place).getD n
  | n => n

end Document

/-- What is known while a tree is put together. -/
structure Builder where
  tokens : List Token
  /-- The number that each name calls. -/
  names : List (String × Nat) := []
  places : List (Nat × Nat) := []
  nodes : List (Nat × Node) := []
  /-- What each tag handle stands for. -/
  handles : List (String × String) := []

abbrev Build := StateT Builder (Except Fault)

namespace Build

def peek? : Build (Option Token) := do return (← get).tokens.head?

def drop : Build Unit := modify fun b => { b with tokens := b.tokens.tail }

def nextIs (ts : List Token) : Build Bool := do
  return (← peek?).any ts.contains

def accept (t : Token) : Build Bool := do
  if (← peek?) == some t then
    drop
    return true
  else return false

/-! ## Names and tags -/

/-- Gives a name the next number.  A name that was given before takes a number that the next new
name takes as well. -/
def declare (name : String) : Build Nat := do
  let b ← get
  let number := b.names.length
  let place := b.places.length
  set { b with
    names := (name, number) :: b.names.filter (·.1 != name)
    places := (number, place) :: b.places }
  return place

/-- The anchor and the tag in front of a node, in either order. -/
structure Properties where
  anchor : Option String := none
  tag : Option (String × String) := none

def properties : Build Properties := do
  let anchor? : Build (Option String) := do
    match ← peek? with
    | some (.anchor name) => do drop; return some name
    | _ => return none
  let tag? : Build (Option (String × String)) := do
    match ← peek? with
    | some (.tag handle suffix) => do drop; return some (handle, suffix)
    | _ => return none
  match ← anchor? with
  | some name => return ⟨some name, ← tag?⟩
  | none =>
    match ← tag? with
    | some tag => return ⟨← anchor?, some tag⟩
    | none => return {}

def expand (tag : String × String) : Build String := do
  if tag.1.isEmpty then return tag.2
  match (← get).handles.lookup tag.1 with
  | some start => return start ++ tag.2
  | none => throw .undefinedTagHandle

/-! ## Nodes -/

/-- Where a node stands decides which nodes can stand there. -/
inductive Context where
  /-- Inside brackets. -/
  | flow
  /-- In a sequence block, or alone. -/
  | block
  /-- As a key or value in a mapping block, where a sequence need not be further in. -/
  | inMapping
deriving DecidableEq

mutual

/-- Reads a node.  Every call and every entry of a collection takes one from the bound. -/
def node : Nat → Context → Build Node
  | 0, _ => throw .unexpectedToken
  | n + 1, context => do
    match ← peek? with
    | some (.alias name) =>
      drop
      match (← get).names.lookup name with
      | some number => return .alias number
      | none => throw .unknownAnchor
    | _ =>
      let p ← properties
      let tag ← p.tag.mapM expand
      let place ← p.anchor.mapM declare
      let result ← content n context tag p.anchor.isSome
      if let some place := place then
        modify fun b => { b with nodes := (place, result) :: b.nodes }
      return result

def content : Nat → Context → Option String → Bool → Build Node
  | 0, _, _, _ => throw .unexpectedToken
  | n + 1, context, tag, anchored => do
    let inBlock := context != .flow
    if context == .inMapping && (← peek?) == some .blockEntry then
      return .sequence (← indentless n)
    match ← peek? with
    | some (.scalar text style) => do drop; return .scalar (tag.filter (· != "!")) style text
    | some .flowSequenceStart => do drop; return .sequence (← flowSequence n true)
    | some .flowMappingStart => do drop; return .mapping (← flowMapping n true)
    | t =>
      if inBlock && t == some .blockSequenceStart then
        drop
        return .sequence (← blockSequence n)
      else if inBlock && t == some .blockMappingStart then
        drop
        return .mapping (← blockMapping n)
      else if tag.isSome || anchored then return .scalar tag .plain ""
      else throw .unexpectedToken

def unlessNext : Nat → List Token → Context → Build Node
  | 0, _, _ => throw .unexpectedToken
  | n + 1, ends, context => do
    if ← nextIs ends then return .empty else node n context

def blockSequence : Nat → Build (List Node)
  | 0 => throw .unexpectedToken
  | n + 1 => do
    if ← accept .blockEnd then return []
    if !(← accept .blockEntry) then throw .unexpectedToken
    let item ← unlessNext n [.blockEntry, .blockEnd] .block
    return item :: (← blockSequence n)

/-- Reads a sequence inside a mapping block that is no further in than the mapping. -/
def indentless : Nat → Build (List Node)
  | 0 => throw .unexpectedToken
  | n + 1 => do
    if !(← accept .blockEntry) then return []
    let item ← unlessNext n [.blockEntry, .key, .value, .blockEnd] .block
    return item :: (← indentless n)

def blockMapping : Nat → Build (List (Node × Node))
  | 0 => throw .unexpectedToken
  | n + 1 => do
    if ← accept .blockEnd then return []
    let ends : List Token := [.key, .value, .blockEnd]
    if !(← accept .key) then throw .unexpectedToken
    let key ← unlessNext n ends .inMapping
    let value ← if ← accept .value then unlessNext n ends .inMapping else pure .empty
    return (key, value) :: (← blockMapping n)

def flowSequence : Nat → Bool → Build (List Node)
  | 0, _ => throw .unexpectedToken
  | n + 1, first => do
    if ← accept .flowSequenceEnd then return []
    if !first && !(← accept .flowEntry) then throw .unexpectedToken
    if ← accept .flowSequenceEnd then return []
    let item ← if ← accept .key then pair n else node n .flow
    return item :: (← flowSequence n false)

/-- Reads a mapping of one entry that stands in a bracketed sequence without braces. -/
def pair : Nat → Build Node
  | 0 => throw .unexpectedToken
  | n + 1 => do
    let key ←
      if ← nextIs [.value, .flowEntry, .flowSequenceEnd] then do drop; pure .empty
      else node n .flow
    let value ←
      if ← accept .value then unlessNext n [.flowEntry, .flowSequenceEnd] .flow else pure .empty
    return .mapping [(key, value)]

def flowMapping : Nat → Bool → Build (List (Node × Node))
  | 0, _ => throw .unexpectedToken
  | n + 1, first => do
    if ← accept .flowMappingEnd then return []
    if !first && !(← accept .flowEntry) then throw .unexpectedToken
    if ← accept .flowMappingEnd then return []
    if ← accept .key then
      let key ← unlessNext n [.value, .flowEntry, .flowMappingEnd] .flow
      let value ←
        if ← accept .value then unlessNext n [.flowEntry, .flowMappingEnd] .flow
        else pure .empty
      return (key, value) :: (← flowMapping n false)
    else
      let key ← node n .flow
      return (key, .empty) :: (← flowMapping n false)

end

/-! ## Documents -/

def knownHandles : List (String × String) := [("!", "!"), ("!!", "tag:yaml.org,2002:")]

/-- Reads the directives in front of a document, and tells whether there were any. -/
def directives : Nat → Bool → List (String × String) → Build (Bool × List (String × String))
  | 0, _, _ => throw .badDirective
  | n + 1, versioned, handles => do
    match ← peek? with
    | some (.versionDirective major minor) =>
      drop
      if versioned || major ≠ 1 || (minor ≠ 1 && minor ≠ 2) then throw .badDirective
      directives n true handles
    | some (.tagDirective handle start) =>
      drop
      if handles.any (·.1 == handle) then throw .badDirective
      directives n versioned ((handle, start) :: handles)
    | _ => return (versioned || !handles.isEmpty, handles)

def documentEnds : Nat → Build Unit
  | 0 => return
  | n + 1 => do if ← accept .documentEnd then documentEnds n

def document (bound : Nat) : Build Node := do
  if (← peek?).isNone then return .empty
  let (directed, handles) ← directives bound false []
  modify fun b => { b with handles := handles ++ knownHandles }
  let marked ← accept .documentStart
  if directed && !marked then throw .unexpectedToken
  let bare := marked && ((← peek?).isNone || (← nextIs [.documentStart, .documentEnd]))
  let root ← if bare then pure .empty else node bound .block
  documentEnds bound
  if (← peek?).isSome then throw .severalDocuments
  return root

end Build

def Document.ofText? (text : String) : Except Fault Document := do
  let tokens ← Token.ofText? text.toList
  let (root, b) ← (Build.document (4 * tokens.length + 8)).run { tokens }
  return ⟨root, b.places, b.nodes⟩

end KubectlMatch.Yaml
