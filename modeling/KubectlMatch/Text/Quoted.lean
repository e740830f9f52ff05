import KubectlMatch.Text.CodePoint
import KubectlMatch.Text.Utf8
/-!
# Quoted text

How a diagnostic shows a text it cannot vouch for: between quotation marks, on one line, and
with nothing in it that a terminal would swallow.  Each character stands for itself unless it
is the mark, a backslash, attaches to its neighbour or does not print; then it is escaped, by
a short escape where there is one and by its code point in braces otherwise.  Bytes that are
no text at all are written in hexadecimal.
-/
namespace KubectlMatch.Text

/-- The escape by code point: `\u`, and the number in lower-case hexadecimal between braces. -/
def escapeCodePoint (c : Char) : List Char :=
  '\\' :: 'u' :: '{' :: Nat.toDigits 16 c.toNat ++ ['}']

def escapesCodePoint (c : Char) : Bool :=
  if c.toNat < 0x7F then c.toNat < 0x20
  else graphemeExtend.contains c || unprintable.contains c

def escape (mark : Char) (c : Char) : List Char :=
  if c = '\x00' then ['\\', '0']
  else if c = '\t' then ['\\', 't']
  else if c = '\r' then ['\\', 'r']
  else if c = '\n' then ['\\', 'n']
  else if c = '\\' ∨ c = mark then ['\\', c]
  else if escapesCodePoint c then escapeCodePoint c
  else [c]

/-- A byte that belongs to no character: `\x` and two upper-case digits. -/
def escapeByte (b : UInt8) : List Char :=
  let digit (n : Nat) : Char := (Nat.digitChar n).toUpper
  ['\\', 'x', digit (b.toNat / 16), digit (b.toNat % 16)]

def quote (s : String) : String :=
  String.ofList ('"' :: s.toList.flatMap (escape '"') ++ ['"'])

def quoteChar (c : Char) : String :=
  String.ofList ('\'' :: escape '\'' c ++ ['\''])

/-- A byte string between double quotation marks: its characters escaped as in `quote`, the
bytes between them one by one. -/
def quoteBytes (bytes : List UInt8) : String :=
  let inner := (pieces bytes).flatMap fun
    | .char c => escape '"' c
    | .broken bs => bs.flatMap escapeByte
  String.ofList ('"' :: inner ++ ['"'])

end KubectlMatch.Text
