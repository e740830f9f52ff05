import KubectlMatch.Http.Pem
/-!
# Certificates to trust

A certificate is a nest of values, each a tag, a length and a content.  `Certificate.isValid`
looks at the outer layers only: that all values are there which say whom the certificate is for
and who signed it, that nothing follows where nothing should, and that no extension has to be
obeyed which the client does not know.  Signatures are not looked at: a root is trusted because
the user says so.
-/
namespace KubectlMatch.Http

namespace Certificate

def boolTag : UInt8 := 0x01

def integerTag : UInt8 := 0x02

def bitsTag : UInt8 := 0x03

def bytesTag : UInt8 := 0x04

def nameTag : UInt8 := 0x06

def sequenceTag : UInt8 := 0x30

def versionTag : UInt8 := 0xA0

def extensionsTag : UInt8 := 0xA3

abbrev Reader (α : Type) := StateT (List UInt8) Option α

/-- The number that bytes spell, the first of them counting most. -/
def bigEndian (bytes : List UInt8) : Nat := bytes.foldl (fun n b => n * 256 + b.toNat) 0

/-- The length of a content, in the shortest form it can have. -/
def length? : List UInt8 → Option (Nat × List UInt8)
  | [] => none
  | b :: rest =>
    let more := b.toNat - 0x80
    if b < 0x80 then some (b.toNat, rest)
    else if more = 0 ∨ 4 < more ∨ rest.length < more then none
    else
      let n := bigEndian (rest.take more)
      if n < 0x80 ∨ n < 1 <<< (8 * (more - 1)) then none else some (n, rest.drop more)

/-- The content of the next value, which must have the given tag. -/
def content (tag : UInt8) : Reader (List UInt8) := fun s =>
  match s with
  | t :: rest => do
    guard (t = tag)
    let (n, rest) ← length? rest
    guard (n ≤ rest.length)
    return (rest.take n, rest.drop n)
  | [] => none

def atEnd : Reader Unit := fun s => if s.isEmpty then some ((), []) else none

def within {α : Type} (reader : Reader α) (bytes : List UInt8) : Option α :=
  ((do let a ← reader; atEnd; return a).run bytes).map Prod.fst

/-- The content of the next value if it has the given tag. -/
def content? (tag : UInt8) : Reader (Option (List UInt8)) := fun s =>
  if s.head? = some tag then ((content tag).run s).map fun (c, rest) => (some c, rest)
  else some (none, s)

/-! ## Extensions -/

structure Extension where
  name : List UInt8
  mustObey : Bool
  value : List UInt8

def readExtension : Reader Extension := do
  let name ← content nameTag
  let flag ← content? boolTag
  let value ← content bytesTag
  let mustObey ← match flag with
    | none => pure false
    | some [0x00] => pure false
    | some [0xFF] => pure true
    | some _ => fun _ => none
  return ⟨name, mustObey, value⟩

/-- What the names of the standard extensions start with. -/
def standardArc : List UInt8 := [0x55, 0x1D]

/-- The last parts of the names of the extensions that are known. -/
def knownExtensions : List UInt8 := [15, 17, 19, 30, 31, 37]

namespace Extension

def isKnown (e : Extension) : Bool := knownExtensions.any fun id => e.name == standardArc ++ [id]

/-- The use of keys is told by bits, all else by a sequence. -/
def isValid (e : Extension) : Bool :=
  if !e.isKnown then !e.mustObey
  else e.name == standardArc ++ [15] || (within (content sequenceTag) e.value).isSome

end Extension

/-- Extensions up to the end; at most `fuel` of them. -/
def readExtensions : Nat → Reader (List Extension)
  | 0 => return []
  | fuel + 1 => do
    if (← get).isEmpty then return []
    let e ← content sequenceTag
    let e ← (within readExtension e : Option Extension)
    return e :: (← readExtensions fuel)

/-- All can be obeyed, and none of those that are known is there twice. -/
def areValid (extensions : List Extension) : Bool :=
  extensions.all Extension.isValid &&
    decide (((extensions.filter Extension.isKnown).map Extension.name).Nodup)

/-! ## The whole -/

/-- The values of a certificate's signed part, for an algorithm. -/
def readSigned (algorithm : List UInt8) : Reader Unit := do
  let version ← content versionTag
  guard (within (content integerTag) version = some [2])
  let _ ← content integerTag
  guard ((← content sequenceTag) = algorithm)
  -- The issuer, the validity, the subject and its key.
  for _ in List.range 4 do
    let _ ← content sequenceTag
  match ← content? extensionsTag with
  | none => return
  | some extensions => do
    let list ← (within (content sequenceTag) extensions : Option (List UInt8))
    let extensions ← (within (readExtensions list.length) list : Option (List Extension))
    guard (areValid extensions)

def readCertificate : Reader Unit := do
  let signed ← content sequenceTag
  let algorithm ← content sequenceTag
  let signature ← content bitsTag
  guard (signature.head? = some 0)
  (within (readSigned algorithm) signed : Option Unit)

/-- A certificate of the first version, which does not say its version. -/
def readFirstVersion : Reader Unit := do
  let signed ← content sequenceTag
  let _ ← content sequenceTag
  let _ ← content bitsTag
  (within (do
    let _ ← content integerTag
    for _ in List.range 5 do
      let _ ← content sequenceTag : Reader Unit) signed : Option Unit)

/-- Whether the bytes are a certificate that can be trusted. -/
def isValid (bytes : List UInt8) : Bool :=
  [readCertificate, readFirstVersion].any fun reader =>
    ((within (content sequenceTag) bytes).bind (within reader)).isSome

/-- Whether a file holds certificates only, or none, beside remarks. -/
def isTrustworthy (file : List UInt8) : Bool :=
  (Pem.certificates? file).any fun certificates => certificates.all isValid

end Certificate

end KubectlMatch.Http
