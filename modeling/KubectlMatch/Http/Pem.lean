import KubectlMatch.Text.Base64
import KubectlMatch.Text.Utf8
/-!
# Sections of a certificate file

A certificate file holds sections of base64 between a line that begins with `-----BEGIN` and one
that begins with `-----END`, each with the section's label.  What stands outside of sections is a
remark to the reader.  `Pem.sections?` gives the sections of known labels; a section that does not
end, or is not in base64, spoils the file.
-/
namespace KubectlMatch.Http

namespace Pem

structure Section where
  label : List UInt8
  content : List UInt8
deriving DecidableEq

/-- The labels that are known.  Sections of others are remarks. -/
def labels : List (List UInt8) :=
  ["CERTIFICATE", "PUBLIC KEY", "RSA PRIVATE KEY", "PRIVATE KEY", "EC PRIVATE KEY", "X509 CRL",
    "CERTIFICATE REQUEST", "ECHCONFIG"].map Text.utf8

def dash : UInt8 := 0x2D

def isLineEnd (b : UInt8) : Bool := b == 0x0A || b == 0x0D

/-- What base64 is broken into lines with. -/
def isSpace (b : UInt8) : Bool := b == 0x20 || (0x09 ≤ b && b ≤ 0x0D)

/-- The lines of a file; the characters at their ends are left out. -/
def lines (file : List UInt8) : List (List UInt8) :=
  (file.map fun b => if isLineEnd b then 0x0A else b).splitOn 0x0A

def opening : List UInt8 := Text.utf8 "-----BEGIN "

def closing (label : List UInt8) : List UInt8 :=
  Text.utf8 "-----END " ++ label ++ List.replicate 5 dash

/-- The label in the rest of an opening line, which five dashes must follow. -/
def openingLabel? (rest : List UInt8) : Option (List UInt8) :=
  let isTail (b : UInt8) : Bool := b == dash || b == 0x20
  let tail := (rest.reverse.takeWhile isTail).reverse.dropWhile (· != dash)
  if tail.count dash = 5 then some (rest.take (rest.length - tail.length)) else none

/-- A section that is being read: its label, and its lines so far. -/
abbrev Unfinished := Option (List UInt8 × List UInt8)

/-- Reads lines, in a section or between two of them. -/
def read? : Unfinished → List (List UInt8) → Option (List Section)
  | none, [] => some []
  | some _, [] => none
  | current, line :: rest =>
    match opening.isPrefixOf? line with
    | some label => do
      read? (some (← openingLabel? label, (current.map Prod.snd).getD [])) rest
    | none =>
      match current with
      | none => read? none rest
      | some (label, body) =>
        if !(closing label).isPrefixOf line then read? (some (label, body ++ line)) rest
        else if !labels.contains label then read? none rest
        else
          match Text.Base64.decode (body.filter fun b => !isSpace b) with
          | .ok content => (read? none rest).map (⟨label, content⟩ :: ·)
          | .error _ => none

def sections? (file : List UInt8) : Option (List Section) := read? none (lines file)

def certificates? (file : List UInt8) : Option (List (List UInt8)) :=
  (sections? file).map fun sections =>
    (sections.filter fun s => s.label == Text.utf8 "CERTIFICATE").map Section.content

end Pem

end KubectlMatch.Http
