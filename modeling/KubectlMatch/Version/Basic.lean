import KubectlMatch.Version.Label
/-!
# Versions

A version is three machine-sized numbers, a prerelease and build metadata.  Every selection
in the library rests on the order defined here, and on `inSkewOf`: a client may serve a cluster
of the same major version whose minor version is at most one away.
-/
namespace KubectlMatch

structure Version where
  major : UInt64
  minor : UInt64
  patch : UInt64
  prerelease : List Identifier
  build : List Label
deriving DecidableEq

namespace Version

def ofNumbers (major minor patch : UInt64) : Version := ⟨major, minor, patch, [], []⟩

def isPrerelease (v : Version) : Bool := !v.prerelease.isEmpty

def release (v : Version) : Version := ofNumbers v.major v.minor v.patch

/-- A prerelease comes before the release it leads to, and prereleases compare field by field;
where one runs out first, it comes first. -/
def orderPrerelease : List Identifier → List Identifier → Ordering
  | [], [] => .eq
  | [], _ :: _ => .gt
  | _ :: _, [] => .lt
  | a, b => compare a b

/-- Numbers first, then the prerelease, and build metadata only where all else is equal. -/
def order (a b : Version) : Ordering :=
  (compare a.major b.major).then <|
  (compare a.minor b.minor).then <|
  (compare a.patch b.patch).then <|
  (orderPrerelease a.prerelease b.prerelease).then <|
  compare a.build b.build

instance : Ord Version := ⟨order⟩

instance : LT Version := ⟨fun a b => compare a b = .lt⟩

instance : LE Version := ⟨fun a b => compare a b ≠ .gt⟩

instance (a b : Version) : Decidable (a < b) := inferInstanceAs (Decidable (compare a b = .lt))

instance (a b : Version) : Decidable (a ≤ b) := inferInstanceAs (Decidable (compare a b ≠ .gt))

/-- How far apart two numbers are. -/
def distance (a b : UInt64) : Nat := max a.toNat b.toNat - min a.toNat b.toNat

/-- How many minor versions a client may be away from the cluster. -/
def skewMinors : Nat := 1

/-- Whether a client of version `v` may serve a cluster of version `target`. -/
def inSkewOf (v target : Version) : Bool :=
  v.major == target.major && distance v.minor target.minor ≤ skewMinors

/-! ## The written form -/

/-- A list of written fields with dots between them, after the given sign; nothing if empty. -/
def suffixChars (sign : Char) (fields : List (List Char)) : List Char :=
  if fields.isEmpty then [] else sign :: ['.'].intercalate fields

def prereleaseChars (v : Version) : List Char :=
  suffixChars '-' (v.prerelease.map Identifier.chars)

def buildChars (v : Version) : List Char := suffixChars '+' (v.build.map Label.chars)

/-- The one canonical spelling: three decimal numbers, then `-` and the prerelease and `+` and
the build metadata where there are any. -/
def chars (v : Version) : List Char :=
  Nat.toDigits 10 v.major.toNat ++ '.' :: Nat.toDigits 10 v.minor.toNat ++
    '.' :: Nat.toDigits 10 v.patch.toNat ++ v.prereleaseChars ++ v.buildChars

def text (v : Version) : String := String.ofList v.chars

end Version

end KubectlMatch
