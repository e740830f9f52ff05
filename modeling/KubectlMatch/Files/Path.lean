import KubectlMatch.Host.Text
/-!
# Paths

A path is a byte string that names a file by the directories on the way to it, with slashes
between.  `join` and `parent?` work on the spelling and never look at a disk; `steps` is what a
lookup follows.  Two slashes count as one, and a `.` after the first component counts for
nothing, but the spelling keeps them.
-/
namespace KubectlMatch

abbrev Path := HostText

abbrev FileName := HostText

namespace Path

def slash : UInt8 := '/'.toUInt8

def dot : FileName := "."

def dotDot : FileName := ".."

def isAbsolute (p : Path) : Bool := p.bytes.head? == some slash

def endsInSlash (p : Path) : Bool := p.bytes.getLast? == some slash

/-- The path of `name` seen from `dir`.  An absolute name stands for itself. -/
def join (dir name : Path) : Path :=
  if name.isAbsolute then name
  else if dir.isEmpty || dir.endsInSlash then ⟨dir.bytes ++ name.bytes⟩
  else ⟨dir.bytes ++ slash :: name.bytes⟩

/-- What stands between the slashes, empty parts included. -/
def segments (p : Path) : List (List UInt8) := p.bytes.splitOn slash

def ofSegments (segments : List (List UInt8)) : Path := ⟨[slash].intercalate segments⟩

/-- A part that leads nowhere: nothing between two slashes, or a dot. -/
def isIdle (segment : List UInt8) : Bool := segment.isEmpty || segment == dot.bytes

/-- The names to follow one by one.  A slash at the end asks for a directory, as a dot would. -/
def steps (p : Path) : List FileName :=
  (p.segments.filter fun segment => !segment.isEmpty).map HostText.mk ++
    if p.endsInSlash then [dot] else []

/-- The parts without the idle ones at their end. -/
def dropIdle (segments : List (List UInt8)) : List (List UInt8) :=
  (segments.reverse.dropWhile isIdle).reverse

/-- The path without its last component; none for the root and for the empty path.  A path that
starts with a dot keeps it until nothing else is left. -/
def parent? (p : Path) : Option Path :=
  match p.segments with
  | [] => none
  | first :: rest =>
    if first.isEmpty ∨ first = dot.bytes then
      match dropIdle rest with
      | [] => if first.isEmpty then none else some ⟨[]⟩
      | body =>
        match dropIdle body.dropLast with
        | [] => some (if first.isEmpty then ⟨[slash]⟩ else ⟨first⟩)
        | above => some (ofSegments (first :: above))
    else some (ofSegments (dropIdle (dropIdle (first :: rest)).dropLast))

end Path

end KubectlMatch
