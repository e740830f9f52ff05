/-!
# Base64

Three bytes are written as four of sixty-four symbols.  A rest of one or two bytes takes two or
three symbols and is filled up with padding.  `decode` accepts exactly what writing produces:
padding is neither left out nor put elsewhere, and the bits that a last symbol has to spare are
zero.  It names the first place at which a text differs.
-/
namespace KubectlMatch.Text.Base64

inductive Error where
  | badSymbol (symbol : UInt8) (offset : Nat)
  | badLength (length : Nat)
  | badLastSymbol (symbol : UInt8) (offset : Nat)
  | badPadding
deriving DecidableEq

namespace Error

def message : Error → String
  | badSymbol symbol offset =>
    "Invalid symbol " ++ toString symbol.toNat ++ ", offset " ++ toString offset ++ "."
  | badLength length => "Invalid input length: " ++ toString length
  | badLastSymbol symbol offset =>
    "Invalid last symbol " ++ toString symbol.toNat ++ ", offset " ++ toString offset ++ "."
  | badPadding => "Invalid padding"

end Error

def padding : UInt8 := '='.toUInt8

def value? (symbol : UInt8) : Option Nat :=
  let c := Char.ofUInt8 symbol
  if 'A' ≤ c ∧ c ≤ 'Z' then some (c.toNat - 'A'.toNat)
  else if 'a' ≤ c ∧ c ≤ 'z' then some (c.toNat - 'a'.toNat + 26)
  else if '0' ≤ c ∧ c ≤ '9' then some (c.toNat - '0'.toNat + 52)
  else if c = '+' then some 62
  else if c = '/' then some 63
  else none

def value (symbol : UInt8) (offset : Nat) : Except Error Nat :=
  match value? symbol with
  | some n => .ok n
  | none => .error (.badSymbol symbol offset)

def bytesOf (count n : Nat) : List UInt8 :=
  (List.range count).map fun i => UInt8.ofNat (n >>> (8 * (count - 1 - i)))

/-- The values of the symbols before the padding of the last group, which has at most four. -/
def lastValues (offset : Nat) : Nat → List UInt8 → Except Error (List Nat)
  | _, [] => .ok []
  | i, s :: rest =>
    if s = padding then
      if i < 2 ∨ rest.any (· != padding) then .error (.badSymbol s (offset + i)) else .ok []
    else do return (← value s (offset + i)) :: (← lastValues offset (i + 1) rest)

def decodeLast (offset : Nat) (group : List UInt8) : Except Error (List UInt8) := do
  if group.isEmpty then return []
  let values ← lastValues offset 0 group
  let n := values.length
  if n < 2 then throw (.badLength (offset + n))
  if group.length ≠ 4 then throw .badPadding
  let number := values.foldl (fun m v => m * 64 + v) 0
  let spare := 6 * n % 8
  if number % (1 <<< spare) ≠ 0 then
    throw (.badLastSymbol (group.getD (n - 1) 0) (offset + n - 1))
  return bytesOf (6 * n / 8) (number >>> spare)

/-- Decodes group by group; what follows a group decides whether it is the last. -/
def decodeGroups (offset : Nat) : List UInt8 → Except Error (List UInt8)
  | a :: b :: c :: d :: e :: rest => do
    let n := (((← value a offset) * 64 + (← value b (offset + 1))) * 64 +
      (← value c (offset + 2))) * 64 + (← value d (offset + 3))
    return bytesOf 3 n ++ (← decodeGroups (offset + 4) (e :: rest))
  | group => decodeLast offset group

/-- The bytes that a text spells.  A stray symbol right after the last whole group, such as the end
of a line, is noticed before all others. -/
def decode (text : List UInt8) : Except Error (List UInt8) :=
  match text.getLast? with
  | some last =>
    if text.length % 4 = 1 ∧ last ≠ padding ∧ (value? last).isNone then
      .error (.badSymbol last (text.length - 1))
    else decodeGroups 0 text
  | none => .ok []

end KubectlMatch.Text.Base64
