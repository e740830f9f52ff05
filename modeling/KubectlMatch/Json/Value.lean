import KubectlMatch.Text.Utf8
/-!
# JSON values

Reads a byte string as one JSON value.  A string may escape half of a surrogate pair, or hold bytes
that are no text: that makes no bad document, but a string without a text, which nobody can ask
for.  Numbers are checked for their form and not kept.

All signs of the format are ASCII, so a document is read byte by byte; each byte is taken as the
character of that number, and only the text of a string is decoded.
-/
namespace KubectlMatch.Json

inductive Value where
  | null
  | bool (b : Bool)
  | number
  | string (text : Option String)
  | array (items : List Value)
  | object (members : List (Option String × Value))

inductive Fault where
  | malformed
  | wrongKind (wanted : String)
  | missingField (name : String)
  | duplicateField (name : String)
deriving DecidableEq

namespace Fault

def message : Fault → String
  | malformed => "malformed document"
  | wrongKind wanted => "invalid type: expected " ++ wanted
  | missingField name => "missing field " ++ name
  | duplicateField name => "duplicate field " ++ name

end Fault

abbrev Reader (α : Type) := List Char → Option (α × List Char)

def isSpace (c : Char) : Bool := c == ' ' || c == '\n' || c == '\t' || c == '\r'

def skipSpace (s : List Char) : List Char := s.dropWhile isSpace

/-! ## Strings -/

def hexValue? (c : Char) : Option Nat :=
  if '0' ≤ c ∧ c ≤ '9' then some (c.toNat - '0'.toNat)
  else if 'a' ≤ c ∧ c ≤ 'f' then some (c.toNat - 'a'.toNat + 10)
  else if 'A' ≤ c ∧ c ≤ 'F' then some (c.toNat - 'A'.toNat + 10)
  else none

/-- The code unit that four hexadecimal digits spell. -/
def codeUnit? (a b c d : Char) : Option Nat := do
  return (((← hexValue? a) * 16 + (← hexValue? b)) * 16 + (← hexValue? c)) * 16 + (← hexValue? d)

def simpleEscape? : Char → Option Char
  | '"' => some '"'
  | '\\' => some '\\'
  | '/' => some '/'
  | 'b' => some '\x08'
  | 'f' => some '\x0C'
  | 'n' => some '\n'
  | 'r' => some '\r'
  | 't' => some '\t'
  | _ => none

/-- The code units and characters of a string up to its closing quote. -/
def stringUnits : List Char → Option (List (Nat ⊕ Char) × List Char)
  | '"' :: rest => some ([], rest)
  | '\\' :: 'u' :: a :: b :: c :: d :: rest => do
    let unit ← codeUnit? a b c d
    let (units, rest) ← stringUnits rest
    return (.inl unit :: units, rest)
  | '\\' :: e :: rest => do
    let c ← simpleEscape? e
    let (units, rest) ← stringUnits rest
    return (.inr c :: units, rest)
  | c :: rest => do
    if c.toNat < 0x20 ∨ c = '\\' then none
    let (units, rest) ← stringUnits rest
    return (.inr c :: units, rest)
  | [] => none

/-- The bytes of the text that a string's units spell: a pair of surrogates is one character, and
a surrogate without its other half is none. -/
def unitsBytes? : List (Nat ⊕ Char) → Option (List UInt8)
  | [] => some []
  | .inr c :: rest => (unitsBytes? rest).map (c.toUInt8 :: ·)
  | .inl high :: .inl low :: rest =>
    if 0xD800 ≤ high ∧ high < 0xDC00 then do
      if low < 0xDC00 ∨ 0xE000 ≤ low then none
      let c := Char.ofNat (0x10000 + (high - 0xD800) * 0x400 + (low - 0xDC00))
      return Text.utf8 c.toString ++ (← unitsBytes? rest)
    else if 0xDC00 ≤ high ∧ high < 0xE000 then none
    else (unitsBytes? (.inl low :: rest)).map (Text.utf8 (Char.ofNat high).toString ++ ·)
  | .inl unit :: rest => do
    if 0xD800 ≤ unit ∧ unit < 0xE000 then none
    return Text.utf8 (Char.ofNat unit).toString ++ (← unitsBytes? rest)

def readString : Reader (Option String) := fun s => do
  let (units, rest) ← stringUnits s
  return ((unitsBytes? units).bind Text.utf8?, rest)

/-! ## Numbers -/

def dropDigits (s : List Char) : Option (List Char) :=
  if s.head?.any Char.isDigit then some (s.dropWhile Char.isDigit) else none

/-- Drops the whole part of a number, which has no zero in front of another digit. -/
def dropWhole : List Char → Option (List Char)
  | '0' :: rest => if rest.head?.any Char.isDigit then none else some rest
  | s => dropDigits s

def dropFraction : List Char → Option (List Char)
  | '.' :: rest => dropDigits rest
  | s => some s

def dropExponent : List Char → Option (List Char)
  | c :: rest =>
    if c = 'e' ∨ c = 'E' then
      match rest with
      | '+' :: rest => dropDigits rest
      | '-' :: rest => dropDigits rest
      | rest => dropDigits rest
    else some (c :: rest)
  | [] => some []

def readNumber : Reader Value := fun s => do
  let s := if s.head? == some '-' then s.tail else s
  let rest ← dropExponent (← dropFraction (← dropWhole s))
  return (.number, rest)

/-! ## Values -/

def readWord (word : String) (value : Value) : Reader Value := fun s =>
  (word.toList.isPrefixOf? s).map fun rest => (value, rest)

mutual

/-- Reads a value.  Every value and every further item takes one from the bound. -/
def readValue : Nat → Reader Value
  | 0, _ => none
  | n + 1, s =>
    match skipSpace s with
    | '"' :: rest => (readString rest).map fun (text, rest) => (.string text, rest)
    | '[' :: rest =>
      match skipSpace rest with
      | ']' :: rest => some (.array [], rest)
      | rest => (readItems n rest).map fun (items, rest) => (.array items, rest)
    | '{' :: rest =>
      match skipSpace rest with
      | '}' :: rest => some (.object [], rest)
      | rest => (readMembers n rest).map fun (members, rest) => (.object members, rest)
    | 'n' :: rest => readWord "ull" .null rest
    | 't' :: rest => readWord "rue" (.bool true) rest
    | 'f' :: rest => readWord "alse" (.bool false) rest
    | s => readNumber s

def readItems : Nat → Reader (List Value)
  | 0, _ => none
  | n + 1, s => do
    let (item, rest) ← readValue n s
    match skipSpace rest with
    | ',' :: rest =>
      let (items, rest) ← readItems n rest
      return (item :: items, rest)
    | ']' :: rest => return ([item], rest)
    | _ => none

def readMembers : Nat → Reader (List (Option String × Value))
  | 0, _ => none
  | n + 1, s => do
    let '"' :: rest := skipSpace s | none
    let (name, rest) ← readString rest
    let ':' :: rest := skipSpace rest | none
    let (value, rest) ← readValue n rest
    match skipSpace rest with
    | ',' :: rest =>
      let (members, rest) ← readMembers n rest
      return ((name, value) :: members, rest)
    | '}' :: rest => return ([(name, value)], rest)
    | _ => none

end

def Value.ofBytes? (bytes : List UInt8) : Except Fault Value :=
  let s := bytes.map Char.ofUInt8
  match readValue (2 * s.length + 2) s with
  | some (value, rest) => if (skipSpace rest).isEmpty then .ok value else .error .malformed
  | none => .error .malformed

/-! ## What a document holds -/

namespace Value

def string? : Value → Except Fault String
  | string (some text) => .ok text
  | string none => .error .malformed
  | _ => .error (.wrongKind "a string")

/-- The value of the one field of a record: the member of that name in an object, which may have
others and names each but once, or the only item of an array. -/
def onlyField (name : String) : Value → Except Fault Value
  | object members =>
    if members.any fun m => m.1.isNone then .error .malformed
    else
      match members.filter fun m => m.1 == some name with
      | [] => .error (.missingField name)
      | [(_, value)] => .ok value
      | _ => .error (.duplicateField name)
  | array [value] => .ok value
  | _ => .error (.wrongKind "a record")

end Value

end KubectlMatch.Json
