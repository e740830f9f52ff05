import KubectlMatch.Files.System
/-!
# Following a path

A path is followed name by name, from the root or from the working directory, through symbolic
links, of which one walk passes at most `linkLimit`.  `locate` follows a path to the end, to
something that is there; `place` stops before the last name, which is what an operation needs
that makes, replaces or takes away a directory entry.
-/
namespace KubectlMatch

namespace FileSystem

def linkLimit : Nat := 40

def nameLimit : Nat := 255

/-- One more than the most bytes a path can have. -/
def pathLimit : Nat := 4096

/-- Follows the names from a directory up to the first link, which it hands over together with
the directory it is in and the names still ahead. -/
def walkWith (fs : FileSystem)
    (onLink : Path → Location → List FileName → Except Errno Location) :
    List FileName → Location → Except Errno Location
  | [], here => .ok here
  | name :: rest, here =>
    if !fs.isDirectoryAt here then .error .notDirectory
    else if name = Path.dot then walkWith fs onLink rest here
    else if name = Path.dotDot then walkWith fs onLink rest here.tail
    else if name.bytes.length > nameLimit then .error .nameTooLong
    else
      match fs.nodeAt? (name :: here) with
      | none => .error .noEntry
      | some (.link target) => onLink target here rest
      | some _ => walkWith fs onLink rest (name :: here)

def start (p : Path) (here : Location) : Location := if p.isAbsolute then [] else here

/-- Follows the names through at most the given number of links. -/
def walk (fs : FileSystem) : Nat → List FileName → Location → Except Errno Location
  | 0 => fs.walkWith fun _ _ _ => .error .tooManyLinks
  | links + 1 => fs.walkWith fun target here rest =>
    walk fs links (target.steps ++ rest) (start target here)

/-- The path, unless the system would not even look it up. -/
def check (p : Path) : Except IoError Unit :=
  if p.bytes.contains 0 then .error .nulInName
  else if p.isEmpty then .error (.system .noEntry)
  else if p.bytes.length ≥ pathLimit then .error (.system .nameTooLong)
  else .ok ()

def follow (fs : FileSystem) (steps : List FileName) (p : Path) : Except IoError Location :=
  (fs.walk linkLimit steps (start p fs.workingDirectory)).mapError .system

/-- The location that a path leads to, through every link. -/
def locate (fs : FileSystem) (p : Path) : Except IoError Location := do
  check p
  fs.follow p.steps p

/-- A directory and a name in it, which may be free. -/
structure Place where
  dir : Location
  name : FileName
  /-- Whether the path asked for a directory by a slash at its end. -/
  asDirectory : Bool

namespace Place

def location (place : Place) : Location := place.name :: place.dir

end Place

/-- The directory a path's last name is in, and that name; none for a path that names a
directory by no name in another, such as the root or `a/..`. -/
def place (fs : FileSystem) (p : Path) : Except IoError (Option Place) := do
  check p
  let steps := if p.endsInSlash then p.steps.dropLast else p.steps
  match steps.getLast? with
  | none => return none
  | some name =>
    let dir ← fs.follow steps.dropLast p
    if !fs.isDirectoryAt dir then throw (.system .notDirectory)
    if name = Path.dot ∨ name = Path.dotDot then return none
    if name.bytes.length > nameLimit then throw (.system .nameTooLong)
    return some ⟨dir, name, p.endsInSlash⟩

end FileSystem

end KubectlMatch
