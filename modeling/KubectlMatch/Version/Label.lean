/-!
# The labels of a version's suffix

What follows the three numbers of a version is built from **labels**: runs of ASCII letters,
digits and hyphens between dots.  A prerelease reads a label of digits as a number, which then
has one spelling only; build metadata keeps every label as it is written, so `00` and `0` are
two labels.  Both orders put digits before words.
-/
namespace KubectlMatch

def isLabelChar (c : Char) : Bool := c.isAlphanum || c == '-'

/-- A run of one or more label characters. -/
structure Label where
  chars : List Char
  ne_nil : chars ≠ []
  legal : chars.all isLabelChar = true
deriving DecidableEq

namespace Label

theorem ext_chars {a b : Label} (h : a.chars = b.chars) : a = b := by
  cases a; cases b; cases h; rfl

def ofChars? (s : List Char) : Option Label :=
  if h : s ≠ [] ∧ s.all isLabelChar = true then some ⟨s, h.1, h.2⟩ else none

def isDigits (l : Label) : Bool := l.chars.all Char.isDigit

def value (l : Label) : Nat := Nat.ofDigitChars 10 l.chars 0

/-- Digits with a zero in front of them: a second spelling of a number. -/
def hasLeadingZero (l : Label) : Bool :=
  l.isDigits && l.chars.length > 1 && l.chars.head? == some '0'

@[simp] theorem ofChars?_chars (l : Label) : ofChars? l.chars = some l := by
  simp [ofChars?, l.ne_nil, l.legal]

theorem chars_of_ofChars? {s : List Char} {l : Label} (h : ofChars? s = some l) : l.chars = s := by
  unfold ofChars? at h
  split at h
  · cases h; rfl
  · exact nomatch h

/-- The order of build labels.  Digits come before words; two spellings of digits compare by
value, and of one value the shorter comes first; words compare character by character. -/
def order (a b : Label) : Ordering :=
  match a.isDigits, b.isDigits with
  | true, false => .lt
  | false, true => .gt
  | true, true => (compare a.value b.value).then (compare a.chars.length b.chars.length)
  | false, false => compare a.chars b.chars

instance : Ord Label := ⟨order⟩

end Label

/-- One field of a prerelease: a number of any size, or a label that is not all digits. -/
inductive Identifier where
  | number (n : Nat)
  | word (label : Label) (not_digits : label.isDigits = false)
deriving DecidableEq

namespace Identifier

def chars : Identifier → List Char
  | number n => Nat.toDigits 10 n
  | word l _ => l.chars

/-- The field a label stands for; digits with a zero in front stand for none. -/
def ofLabel? (l : Label) : Option Identifier :=
  if l.hasLeadingZero then none
  else if h : l.isDigits = false then some (word l h)
  else some (number l.value)

/-- Numbers come before words; numbers compare by value, words character by character. -/
def order : Identifier → Identifier → Ordering
  | number m, number n => compare m n
  | number _, word _ _ => .lt
  | word _ _, number _ => .gt
  | word a _, word b _ => compare a.chars b.chars

instance : Ord Identifier := ⟨order⟩

end Identifier

end KubectlMatch
