import KubectlMatch.Yaml.Node
/-!
# Reading values out of a document

A program wants values of fixed kinds under fixed names.  A mapping may hold other names as
well, which are passed over; a name that is wanted may stand once.  Only plain scalars are
anything but text, and a plain scalar without a character stands for an empty mapping or
sequence as well.
-/
namespace KubectlMatch.Yaml

/-- Reads a value of some kind from a node of a document. -/
abbrev Decoder (α : Type) := Document → Node → Except Fault α

namespace Decoder

/-- Any scalar, as the text it spells. -/
def string : Decoder String := fun d n =>
  match d.resolve n with
  | .scalar _ _ text => .ok text
  | _ => .error (.wrongKind "a string")

/-- Whether a scalar may be read as something else than text: if it is plain, or a literal block
with the tag of that kind. -/
def isBare (kind : String) (tag : Option String) : Style → Bool
  | .plain => true
  | .literal => tag == some ("tag:yaml.org,2002:" ++ kind)
  | _ => false

def bool? (text : String) : Option Bool :=
  if ["true", "True", "TRUE"].contains text then some true
  else if ["false", "False", "FALSE"].contains text then some false
  else none

def bool : Decoder Bool := fun d n =>
  match d.resolve n with
  | .scalar tag style text =>
    match bool? text with
    | some b => if isBare "bool" tag style then .ok b else .error (.wrongKind "a boolean")
    | none => .error (.wrongKind "a boolean")
  | _ => .error (.wrongKind "a boolean")

def digitValue? (c : Char) : Option Nat := if isHexDigit c then some (hexDigitValue c) else none

/-- A number in digits of a base, after one plus sign at most. -/
def digits? (base : Nat) (s : List Char) : Option Nat :=
  let s := if s.head? == some '+' then s.tail else s
  let value := s.foldl (fun n? c => do
    let n ← n?
    let d ← digitValue? c
    if d < base then some (n * base + d) else none) (some 0)
  if s.isEmpty then none else value

/-- A number below 2^64, decimal or with the mark of another base in front. -/
def natural? (text : List Char) : Option Nat :=
  let bare := if text.head? == some '+' then text.tail else text
  let signed (s : List Char) : Bool := s.head? == some '+' || s.head? == some '-'
  let marked : Option (Option Nat) := match bare with
    | '0' :: 'x' :: rest => some (if signed rest then none else digits? 16 rest)
    | '0' :: 'o' :: rest => some (if signed rest then none else digits? 8 rest)
    | '0' :: 'b' :: rest => some (if signed rest then none else digits? 2 rest)
    | _ => none
  let value := match marked with
    | some value => value
    | none =>
      let padded := bare.length > 1 && bare.head? == some '0' && bare.all Char.isDigit
      if signed bare || padded then none else digits? 10 bare
  value.filter (· < UInt64.size)

def natural : Decoder Nat := fun d n =>
  match d.resolve n with
  | .scalar tag style text =>
    match natural? text.toList with
    | some k => if isBare "int" tag style then .ok k else .error (.wrongKind "a number")
    | none => .error (.wrongKind "a number")
  | _ => .error (.wrongKind "a number")

def isNull (text : String) : Bool := ["null", "Null", "NULL", "~"].contains text

/-- Whether a scalar says that there is no value; an error for one that is tagged as nothing and
says something. -/
def saysNothing : Node → Except Fault Bool
  | .scalar none .plain text => .ok (text.isEmpty || isNull text)
  | .scalar (some tag) .plain text =>
    if tag != "tag:yaml.org,2002:null" then .ok false
    else if isNull text then .ok true
    else .error (.wrongKind "null")
  | _ => .ok false

def optional {α : Type} (decode : Decoder α) : Decoder (Option α) := fun d n => do
  if ← saysNothing (d.resolve n) then return none else return some (← decode d n)

/-- Whether a scalar without a character stands for an empty collection. -/
def isVoid : Node → Bool
  | .scalar _ .plain text => text.isEmpty
  | _ => false

def list {α : Type} (decode : Decoder α) : Decoder (List α) := fun d n =>
  match d.resolve n with
  | .sequence items => items.mapM (decode d)
  | n => if isVoid n then .ok [] else .error (.wrongKind "a sequence")

def entries : Decoder (List (String × Node)) := fun d n =>
  match d.resolve n with
  | .mapping entries => entries.mapM fun (key, value) => do return (← string d key, value)
  | n => if isVoid n then .ok [] else .error (.wrongKind "a mapping")

def field? {α : Type} (name : String) (decode : Decoder α) (d : Document)
    (entries : List (String × Node)) : Except Fault (Option α) :=
  match entries.filter (·.1 == name) with
  | [] => .ok none
  | [(_, value)] => (decode d value).map some
  | _ => .error (.duplicateField name)

def field {α : Type} (name : String) (decode : Decoder α) (d : Document)
    (entries : List (String × Node)) : Except Fault α := do
  match ← field? name decode d entries with
  | some value => return value
  | none => throw (.missingField name)

def run {α : Type} (decode : Decoder α) (text : String) : Except Fault α := do
  let d ← Document.ofText? text
  decode d d.root

end Decoder

end KubectlMatch.Yaml
