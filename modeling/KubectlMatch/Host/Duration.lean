/-!
# Spans of time

A span counts nanoseconds.  It is shown in the largest unit of which it has at least one, as a
decimal fraction without zeros at its end: `1.5s`, `80ms`, `0ns`.
-/
namespace KubectlMatch

structure Duration where
  nanoseconds : Nat
deriving DecidableEq

namespace Duration

def ofMilliseconds (n : Nat) : Duration := ⟨n * 1000000⟩

def ofSeconds (n : Nat) : Duration := ⟨n * 1000000000⟩

instance : Add Duration := ⟨fun a b => ⟨a.nanoseconds + b.nanoseconds⟩⟩

instance : LT Duration := ⟨fun a b => a.nanoseconds < b.nanoseconds⟩

instance : LE Duration := ⟨fun a b => a.nanoseconds ≤ b.nanoseconds⟩

instance (a b : Duration) : Decidable (a < b) :=
  inferInstanceAs (Decidable (a.nanoseconds < b.nanoseconds))

instance (a b : Duration) : Decidable (a ≤ b) :=
  inferInstanceAs (Decidable (a.nanoseconds ≤ b.nanoseconds))

/-- The digits of `n` behind a decimal point, in a field of `places`, without zeros at the end. -/
def fractionDigits (places n : Nat) : List Char :=
  let digits := Nat.toDigits 10 n
  let field := List.replicate (places - digits.length) '0' ++ digits
  (field.reverse.dropWhile (· == '0')).reverse

/-- `n` nanoseconds counted in a unit of `10 ^ places` of them. -/
def inUnit (n places : Nat) (unit : String) : String :=
  let whole := toString (n / Nat.pow 10 places)
  let fraction := fractionDigits places (n % Nat.pow 10 places)
  if fraction.isEmpty then whole ++ unit
  else whole ++ "." ++ String.ofList fraction ++ unit

def text (d : Duration) : String :=
  let n := d.nanoseconds
  if n ≥ 1000000000 then inUnit n 9 "s"
  else if n ≥ 1000000 then inUnit n 6 "ms"
  else if n ≥ 1000 then inUnit n 3 "µs"
  else inUnit n 0 "ns"

end Duration

end KubectlMatch
