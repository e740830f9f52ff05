import KubectlMatch.Http.Punycode
import KubectlMatch.Json.Value
import KubectlMatch.Text.Utf8
/-!
# Hosts in an address

A host is a domain name, or a number in one of the notations of version 4 or version 6 of the
internet protocol.  Each has one written form, in which all spellings of it come together.
-/
namespace KubectlMatch.Http

inductive AddressError where
  | noScheme
  | emptyHost
  | badDomain
  | badDomainCharacter
  | badIpv4
  | badIpv6
  | badPort
deriving DecidableEq

namespace AddressError

def message : AddressError → String
  | noScheme => "relative URL without a base"
  | emptyHost => "empty host"
  | badDomain => "invalid international domain name"
  | badDomainCharacter => "invalid domain character"
  | badIpv4 => "invalid IPv4 address"
  | badIpv6 => "invalid IPv6 address"
  | badPort => "invalid port number"

end AddressError

def hexValue? (c : Char) : Option Nat := Json.hexValue? c

/-- A number in the digits of a base below sixteen or sixteen. -/
def numberIn? (base : Nat) (digits : List Char) : Option Nat :=
  digits.foldl (fun n? c => do
    let n ← n?
    let d ← hexValue? c
    if d < base then some (n * base + d) else none) (some 0)

/-- The bytes of a text in which bytes may be escaped by a percent sign. -/
def percentDecode : List Char → List UInt8
  | '%' :: a :: b :: rest =>
    match hexValue? a, hexValue? b with
    | some m, some n => UInt8.ofNat (m * 16 + n) :: percentDecode rest
    | _, _ => 0x25 :: percentDecode (a :: b :: rest)
  | c :: rest => Text.utf8 c.toString ++ percentDecode rest
  | [] => []

/-! ## Version 4 -/

/-- One part of a numeric host: decimal, or octal or hexadecimal with the sign for it. -/
def ipv4Part? : List Char → Option Nat
  | '0' :: x :: rest =>
    if x = 'x' ∨ x = 'X' then numberIn? 16 rest else numberIn? 8 (x :: rest)
  | [] => none
  | part => numberIn? 10 part

/-- Whether a domain's last label can only be the end of a numeric host. -/
def endsInNumber (labels : List (List Char)) : Bool :=
  let labels := if labels.length > 1 && labels.getLast? == some [] then labels.dropLast else labels
  match labels.getLast? with
  | none => false
  | some label =>
    (!label.isEmpty && label.all Char.isDigit) ||
      match label with
      | '0' :: x :: rest => (x == 'x' || x == 'X') && rest.all fun c => (hexValue? c).isSome
      | _ => false

/-- The number of a numeric host.  Its last part fills up the bytes that the others leave. -/
def ipv4? (labels : List (List Char)) : Option Nat := do
  let labels := if labels.length > 1 && labels.getLast? == some [] then labels.dropLast else labels
  if labels.length > 4 then none
  let parts ← labels.mapM ipv4Part?
  let last ← parts.getLast?
  let front := parts.dropLast
  if front.any (255 < ·) || last ≥ 1 <<< (8 * (5 - parts.length)) then none
  return front.zipIdx.foldl (fun sum (n, i) => sum + n <<< (8 * (3 - i))) last

def ipv4Text (n : Nat) : List Char :=
  ['.'].intercalate ((List.range 4).map fun i => Nat.toDigits 10 (n >>> (8 * (3 - i)) % 256))

/-! ## Version 6 -/

/-- One of the eight numbers, in up to four hexadecimal digits. -/
def ipv6Piece? (digits : List Char) : Option Nat :=
  if digits.isEmpty || digits.length > 4 then none else numberIn? 16 digits

/-- The two numbers that four bytes at the end stand for. -/
def ipv6Tail? (text : List Char) : Option (List Nat) := do
  let parts := text.splitOn '.'
  if parts.length ≠ 4 then none
  let bytes ← parts.mapM fun part =>
    if part.isEmpty || (part.length > 1 && part.head? == some '0') || !part.all Char.isDigit then none
    else (numberIn? 10 part).filter (· < 256)
  return [bytes.getD 0 0 * 256 + bytes.getD 1 0, bytes.getD 2 0 * 256 + bytes.getD 3 0]

/-- The numbers between colons; bytes may stand only at the end of the host. -/
def ipv6Pieces? (atEnd : Bool) (text : List Char) : Option (List Nat) :=
  if text.isEmpty then some []
  else do
    let parts := text.splitOn ':'
    let last := parts.getLastD []
    let front ← parts.dropLast.mapM ipv6Piece?
    if last.contains '.' then
      if atEnd then return front ++ (← ipv6Tail? last) else none
    else return front ++ [← ipv6Piece? last]

/-- What stands before and behind the first pair of colons, if there is one. -/
def splitDoubleColon : List Char → Option (List Char × List Char)
  | ':' :: ':' :: rest => some ([], rest)
  | c :: rest => (splitDoubleColon rest).map fun (front, back) => (c :: front, back)
  | [] => none

def ipv6? (text : List Char) : Option (List Nat) :=
  match splitDoubleColon text with
  | some (front, back) => do
    let front ← ipv6Pieces? false front
    let back ← ipv6Pieces? true back
    let missing := 8 - (front.length + back.length)
    if missing = 0 then none
    return front ++ List.replicate missing 0 ++ back
  | none => (ipv6Pieces? true text).filter fun pieces => pieces.length == 8

/-- The longest run of zeros in the numbers from position `i` on: where it starts, and how long
it is. -/
def longestZeros (i : Nat) : List Nat → Nat × Nat
  | [] => (i, 0)
  | n :: rest =>
    let here := ((n :: rest).takeWhile (· == 0)).length
    let later := longestZeros (i + 1) rest
    if here ≥ later.2 then (i, here) else later

/-- The written form of eight numbers: the longest run of two or more zeros is left out. -/
def ipv6Text (pieces : List Nat) : List Char :=
  let join (ns : List Nat) : List Char := [':'].intercalate (ns.map (Nat.toDigits 16))
  let (start, length) := longestZeros 0 pieces
  if length < 2 then join pieces
  else join (pieces.take start) ++ [':', ':'] ++ join (pieces.drop (start + length))

/-! ## Domains -/

/-- The characters that no domain holds. -/
def isForbidden (c : Char) : Bool :=
  c.toNat ≤ 0x20 || c.toNat == 0x7F || "#%/:<>?@[\\]^|".toList.contains c

/-- The small letter of a capital one, in the alphabets where they lie at a fixed distance. -/
def lowerChar (c : Char) : Char :=
  let n := c.toNat
  if (0xC0 ≤ n ∧ n ≤ 0xDE ∧ n ≠ 0xD7) ∨ (0x391 ≤ n ∧ n ≤ 0x3A9) ∨ (0x410 ≤ n ∧ n ≤ 0x42F) then
    Char.ofNat (n + 0x20)
  else if 0x400 ≤ n ∧ n ≤ 0x40F then Char.ofNat (n + 0x50)
  else if n = 0x3002 then '.'
  else c.toLower

def asciiLabel (label : List Char) : List Char :=
  if label.all fun c => c.toNat < 0x80 then label
  else 'x' :: 'n' :: '-' :: '-' :: Punycode.encode label

def hostText (text : List Char) : Except AddressError (List Char) :=
  match text with
  | '[' :: rest =>
    match rest.getLast?, ipv6? rest.dropLast with
    | some ']', some pieces => .ok ('[' :: ipv6Text pieces ++ [']'])
    | _, _ => .error .badIpv6
  | _ =>
    match Text.utf8? (percentDecode text) with
    | none => .error .badDomain
    | some domain =>
      let labels := ((domain.toList.map lowerChar).splitOn '.').map asciiLabel
      let ascii := ['.'].intercalate labels
      if ascii.isEmpty then .error .emptyHost
      else if ascii.any isForbidden then .error .badDomainCharacter
      else if endsInNumber labels then
        match ipv4? labels with
        | some n => .ok (ipv4Text n)
        | none => .error .badIpv4
      else .ok ascii

end KubectlMatch.Http
