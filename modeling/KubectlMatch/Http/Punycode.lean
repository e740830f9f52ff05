/-!
# Punycode

How a label of a domain name is written with ASCII letters, digits and hyphens alone.  The ASCII
characters come first, then the others in the order of their code points, each as the distance
from the one before, in digits whose weight adapts to the distances seen so far.
-/
namespace KubectlMatch.Http.Punycode

/-- The sign for a digit: a letter below 26, a numeral from there on. -/
def digit (d : Nat) : Char :=
  if d < 26 then Char.ofNat ('a'.toNat + d) else Char.ofNat ('0'.toNat + (d - 26))

/-- The weight of a digit's place. -/
def threshold (place bias : Nat) : Nat :=
  if place ≤ bias then 1 else if bias + 26 ≤ place then 26 else place - bias

theorem threshold_pos (place bias : Nat) : 0 < threshold place bias := by
  unfold threshold
  split
  · omega
  · split <;> omega

/-- Counts how often a distance has to be divided before it is small. -/
def shrink (delta count : Nat) : Nat × Nat :=
  if 455 < delta then shrink (delta / 35) (count + 36) else (delta, count)
termination_by delta

/-- The weight to begin with after a distance, as the `points`-th character. -/
def adapt (delta points : Nat) (first : Bool) : Nat :=
  let delta := if first then delta / 700 else delta / 2
  let (delta, count) := shrink (delta + delta / points) 0
  count + 36 * delta / (delta + 38)

def distanceDigits (bias place q : Nat) : List Char :=
  let t := threshold place bias
  if q < t then [digit q]
  else digit (t + (q - t) % (36 - t)) :: distanceDigits bias (place + 36) ((q - t) / (36 - t))
termination_by q
decreasing_by
  have := threshold_pos place bias
  have := Nat.div_le_self (q - threshold place bias) (36 - threshold place bias)
  omega

structure State where
  delta : Nat
  bias : Nat
  handled : Nat
  output : List Char

/-- Encodes the places at which a code point stands in the label. -/
def encodePlaces (basic point : Nat) : List Nat → State → State
  | [], s => s
  | n :: rest, s =>
    if n < point then encodePlaces basic point rest { s with delta := s.delta + 1 }
    else if n = point then
      encodePlaces basic point rest {
        delta := 0
        bias := adapt s.delta (s.handled + 1) (s.handled == basic)
        handled := s.handled + 1
        output := s.output ++ distanceDigits s.bias 36 s.delta }
    else encodePlaces basic point rest s

/-- Encodes the code points one after another, from the first that is left. -/
def encodePoints (basic : Nat) (label : List Nat) : Nat → List Nat → State → State
  | _, [], s => s
  | next, point :: rest, s =>
    let s := { s with delta := s.delta + (point - next) * (s.handled + 1) }
    let s := encodePlaces basic point label s
    encodePoints basic label (point + 1) rest { s with delta := s.delta + 1 }

def encode (label : List Char) : List Char :=
  let ascii := label.filter fun c => c.toNat < 0x80
  let points := label.map Char.toNat
  let others := ((points.filter (0x80 ≤ ·)).mergeSort (· ≤ ·)).eraseDups
  let lead := if ascii.isEmpty then [] else ascii ++ ['-']
  (encodePoints ascii.length points 0x80 others ⟨0, 72, ascii.length, lead⟩).output

end KubectlMatch.Http.Punycode
