import KubectlMatch.Text.Blank
import KubectlMatch.Text.Quoted
import KubectlMatch.Version.Basic
/-!
# Reading versions

People and tools write versions loosely: with a `v` in front, with blanks around them, without
a patch or even a minor number, with zeros in front of a number.  `Version.parse` accepts all
that for the three numbers and nothing of it for the suffix, which has to be well formed.
What it refuses it refuses for one of the causes in `VersionError.Reason`, the leftmost first.
-/
namespace KubectlMatch

inductive SuffixPart where
  | prerelease
  | build
deriving DecidableEq

namespace SuffixPart

def name : SuffixPart → String
  | prerelease => "pre-release identifier"
  | build => "build metadata"

end SuffixPart

inductive VersionError.Reason where
  | tooManySegments
  | notANumber (segment : List Char)
  | numberTooLarge
  | emptyField (part : SuffixPart)
  | leadingZero (part : SuffixPart)
  | unexpected (c : Char) (part : SuffixPart)
deriving DecidableEq

/-- A text that is no version, as it was given, and why it is none. -/
structure VersionError where
  input : String
  reason : VersionError.Reason
deriving DecidableEq

namespace VersionError

def Reason.message : Reason → String
  | tooManySegments => "too many version segments"
  | notANumber segment => Text.quote (String.ofList segment) ++ " is not a number"
  | numberTooLarge => "number too large to fit in target type"
  | emptyField part => "empty identifier segment in " ++ part.name
  | leadingZero part => "invalid leading zero in " ++ part.name
  | unexpected c part => "unexpected character " ++ Text.quoteChar c ++ " after " ++ part.name

def describe (input reason : String) : String :=
  "invalid version " ++ Text.quote input ++ ": " ++ reason

def message (e : VersionError) : String := describe e.input e.reason.message

end VersionError

namespace Version

open VersionError (Reason)

/-- A text without one `v` or `V` in front. -/
def dropV : List Char → List Char
  | 'v' :: rest => rest
  | 'V' :: rest => rest
  | s => s

/-- The signs that end the numbers and start the suffix. -/
def isSign (c : Char) : Bool := c == '-' || c == '+'

/-- A number below 2^64 in decimal digits. -/
def parseNumber (segment : List Char) : Except Reason UInt64 :=
  if segment.isEmpty || !segment.all Char.isDigit then .error (.notANumber segment)
  else
    let n := Nat.ofDigitChars 10 segment 0
    if n < UInt64.size then .ok (UInt64.ofNat n) else .error .numberTooLarge

/-- The one to three numbers of a version; those that are not written are zero. -/
def parseNumbers (core : List Char) : Except Reason (UInt64 × UInt64 × UInt64) := do
  let segments := core.splitOn '.'
  if segments.length > 3 then throw .tooManySegments
  let numbers ← segments.mapM parseNumber
  return (numbers.getD 0 0, numbers.getD 1 0, numbers.getD 2 0)

def parseLabel (part : SuffixPart) (field : List Char) : Except Reason Label :=
  match Label.ofChars? field with
  | some label => .ok label
  | none => .error (.emptyField part)

def parseIdentifier (field : List Char) : Except Reason Identifier := do
  let label ← parseLabel .prerelease field
  match Identifier.ofLabel? label with
  | some id => return id
  | none => throw (.leadingZero .prerelease)

/-- The characters a part of the suffix can hold: those of its fields, and the dots between. -/
def isFieldOrDot (c : Char) : Bool := isLabelChar c || c == '.'

/-- Reads the fields at the start of a text, and gives what follows them. -/
def parseFields {α : Type} (field : List Char → Except Reason α) (s : List Char) :
    Except Reason (List α × List Char) := do
  let fields ← ((s.takeWhile isFieldOrDot).splitOn '.').mapM field
  return (fields, s.dropWhile isFieldOrDot)

/-- Nothing may follow the last part of a suffix. -/
def parseEnd (part : SuffixPart) : List Char → Except Reason Unit
  | [] => .ok ()
  | c :: _ => .error (.unexpected c part)

def parseBuild (s : List Char) : Except Reason (List Label) := do
  let (fields, rest) ← parseFields (parseLabel .build) s
  parseEnd .build rest
  return fields

/-- The suffix, which is empty or starts with a sign. -/
def parseSuffix : List Char → Except Reason (List Identifier × List Label)
  | [] => .ok ([], [])
  | '-' :: s => do
    let (fields, rest) ← parseFields parseIdentifier s
    match rest with
    | '+' :: s => return (fields, ← parseBuild s)
    | rest => do
      parseEnd .prerelease rest
      return (fields, [])
  | _ :: s => do return ([], ← parseBuild s)

/-- Reads a version from a text without blanks around it and without a `v`. -/
def parseBare (s : List Char) : Except Reason Version := do
  let (major, minor, patch) ← parseNumbers (s.takeWhile fun c => !isSign c)
  let (prerelease, build) ← parseSuffix (s.dropWhile fun c => !isSign c)
  return ⟨major, minor, patch, prerelease, build⟩

def parseChars (s : List Char) : Except Reason Version := parseBare (dropV (Text.trim s))

def parse (input : String) : Except VersionError Version :=
  match parseChars input.toList with
  | .ok v => .ok v
  | .error reason => .error ⟨input, reason⟩

end Version

end KubectlMatch
