/-!
# Reading bytes as UTF-8

`pieces` cuts any byte string into the characters it spells and the stretches that spell none.
A broken stretch is as long as some character could still have begun with it, so each bad byte
spoils as little as possible; `lossy` then puts one U+FFFD for each stretch.

Strict reading is core's `String.fromUTF8?`; this module is for text that has to be shown
whatever it holds.
-/
namespace KubectlMatch.Text

/-- A character, or bytes that are none. -/
inductive Utf8Piece where
  | char (c : Char)
  | broken (bytes : List UInt8)
deriving DecidableEq

/-- The bytes that continue a character whatever its first byte. -/
def tailByte : UInt8 × UInt8 := (0x80, 0xBF)

/-- What must follow a first byte, one range for each byte; `none` if no character starts so. -/
def followers (b : UInt8) : Option (List (UInt8 × UInt8)) :=
  if b < 0x80 then some []
  else if b < 0xC2 then none
  else if b < 0xE0 then some [tailByte]
  else if b = 0xE0 then some [(0xA0, 0xBF), tailByte]
  else if b = 0xED then some [(0x80, 0x9F), tailByte]
  else if b < 0xF0 then some [tailByte, tailByte]
  else if b = 0xF0 then some [(0x90, 0xBF), tailByte, tailByte]
  else if b < 0xF4 then some [tailByte, tailByte, tailByte]
  else if b = 0xF4 then some [(0x80, 0x8F), tailByte, tailByte]
  else none

/-- The longest start of the bytes that fits the ranges one by one. -/
def takeFollowers : List (UInt8 × UInt8) → List UInt8 → List UInt8
  | (lo, hi) :: ranges, b :: rest =>
    if lo ≤ b ∧ b ≤ hi then b :: takeFollowers ranges rest else []
  | _, _ => []

/-- The character of a first byte and its complete followers: the first byte gives what is left
of it after its length mark, each follower six bits. -/
def assemble (first : UInt8) (rest : List UInt8) : Char :=
  let mark : Nat := match rest.length with
    | 0 => 0
    | 1 => 0xC0
    | 2 => 0xE0
    | _ => 0xF0
  Char.ofNat (rest.foldl (fun n b => n * 64 + (b.toNat - 0x80)) (first.toNat - mark))

def pieces : List UInt8 → List Utf8Piece
  | [] => []
  | b :: rest =>
    match followers b with
    | none => .broken [b] :: pieces rest
    | some ranges =>
      let run := takeFollowers ranges rest
      if run.length = ranges.length then .char (assemble b run) :: pieces (rest.drop run.length)
      else .broken (b :: run) :: pieces (rest.drop run.length)
termination_by bytes => bytes.length
decreasing_by all_goals simp only [List.length_cons, List.length_drop]; omega

/-- The text of a byte string, with U+FFFD for each broken stretch. -/
def lossy (bytes : List UInt8) : List Char :=
  (pieces bytes).map fun
    | .char c => c
    | .broken _ => '\uFFFD'

def utf8? (bytes : List UInt8) : Option String := String.fromUTF8? ⟨bytes.toArray⟩

def utf8 (s : String) : List UInt8 := s.toUTF8.data.toList

/-- Writing a text and reading it back gives the text. -/
@[simp] theorem utf8?_utf8 (s : String) : utf8? (utf8 s) = some s := by
  simp only [utf8?, utf8, Array.toArray_toList]
  exact (dif_pos s.isValidUTF8).trans rfl

theorem utf8_of_utf8? {bytes : List UInt8} {s : String} (h : utf8? bytes = some s) :
    utf8 s = bytes := by
  simp only [utf8?, String.fromUTF8?] at h
  split at h
  · cases h; rfl
  · exact nomatch h

theorem utf8_injective {s t : String} (h : utf8 s = utf8 t) : s = t := by
  have := congrArg utf8? h
  simpa using this

end KubectlMatch.Text
