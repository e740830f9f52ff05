import KubectlMatch.Files.Lookup
/-!
# File operations

What programs do with files.  Each operation either changes one location or fails and changes
nothing; only `makeDirs`, which is a sequence of operations, can fail after a change, and
therefore always answers with the file system as well.
-/
namespace KubectlMatch

namespace FileSystem

/-! ## Looking -/

def stat (fs : FileSystem) (p : Path) : Except IoError Node := do
  let loc ← fs.locate p
  fs.permit .inspect loc
  match fs.nodeAt? loc with
  | some node => return node
  | none => throw (.system .noEntry)

def isDirectory (fs : FileSystem) (p : Path) : Bool :=
  match fs.stat p with
  | .ok .directory => true
  | _ => false

/-- The one location behind all spellings of a path. -/
def canonical? (fs : FileSystem) (p : Path) : Option Location := (fs.locate p).toOption

def readFile (fs : FileSystem) (p : Path) : Except IoError Bytes := do
  let loc ← fs.locate p
  fs.permit .read loc
  match fs.nodeAt? loc with
  | some (.file _ content) => return content
  | some .directory => throw (.system .isDirectory)
  | _ => throw (.system .noEntry)

def readText (fs : FileSystem) (p : Path) : Except IoError String := do
  match Text.utf8? (← fs.readFile p) with
  | some text => return text
  | none => throw .notText

def readDir (fs : FileSystem) (p : Path) : Except IoError (List FileName) := do
  let loc ← fs.locate p
  if !fs.isDirectoryAt loc then throw (.system .notDirectory)
  fs.permit .list loc
  return fs.namesIn loc

/-! ## Changing -/

def makeDir (fs : FileSystem) (p : Path) : Except IoError FileSystem := do
  match ← fs.place p with
  | none => throw (.system .alreadyExists)
  | some place =>
    if (fs.nodeAt? place.location).isSome then throw (.system .alreadyExists)
    fs.permit .makeDirectory place.location
    return fs.put place.location .directory

/-- A path and the directories above it as its spelling names them, without the root and the
working directory. -/
def lineage : Nat → Path → List Path
  | 0, _ => []
  | n + 1, p =>
    match p.parent? with
    | none => []
    | some above => p :: lineage n above

/-- Makes the first path, the others first where they are missing. -/
def makeLineage : List Path → FileSystem → Except IoError Unit × FileSystem
  | [], fs => (.ok (), fs)
  | p :: above, fs =>
    match fs.makeDir p with
    | .ok fs => (.ok (), fs)
    | .error e =>
      if e.isMissing then
        match makeLineage above fs with
        | (.ok (), fs) =>
          match fs.makeDir p with
          | .ok fs => (.ok (), fs)
          | .error e =>
            if e == .system .alreadyExists && fs.isDirectory p then (.ok (), fs)
            else (.error e, fs)
        | (.error e, fs) => (.error e, fs)
      else if e == .system .alreadyExists && fs.isDirectory p then (.ok (), fs)
      else (.error e, fs)

/-- Makes a directory and all that are missing above it.  One that is there is no error. -/
def makeDirs (fs : FileSystem) (p : Path) : Except IoError Unit × FileSystem :=
  makeLineage (lineage (p.bytes.length + 1) p) fs

/-- The `n`-th name that starts as given, with a number of six digits. -/
def numberedName (start : String) (n : Nat) : FileName :=
  let digits := Nat.toDigits 10 n
  HostText.ofString (start ++ String.ofList (List.replicate (6 - digits.length) '0' ++ digits))

/-- Makes an empty file that nobody else may read, under a name in the directory that was free,
and gives its location. -/
def createTemporary (fs : FileSystem) (dir : Path) (start : String) :
    Except IoError (Location × FileSystem) := do
  let here ← fs.locate dir
  if !fs.isDirectoryAt here then throw (.system .notDirectory)
  let names := (List.range (fs.entries.length + 1)).map (numberedName start)
  match names.find? fun name => (fs.nodeAt? (name :: here)).isNone with
  | none => throw (.other "too many temporary files exist")
  | some name =>
    fs.permit .create (name :: here)
    return (name :: here, fs.put (name :: here) (.file 0o600 []))

def append (fs : FileSystem) (loc : Location) (bytes : Bytes) : Except IoError FileSystem :=
  match fs.nodeAt? loc with
  | some (.file mode content) => do
    fs.permit (.write (content.length + bytes.length)) loc
    return fs.put loc (.file mode (content ++ bytes))
  | _ => .error (.system .noEntry)

def setMode (fs : FileSystem) (loc : Location) (mode : Nat) : Except IoError FileSystem :=
  match fs.nodeAt? loc with
  | some (.file _ content) => do
    fs.permit .setMode loc
    return fs.put loc (.file mode content)
  | _ => .error (.system .noEntry)

/-- Takes away the file at a location, if the system lets go of it.  Nobody hears of it if not. -/
def discard (fs : FileSystem) (loc : Location) : FileSystem :=
  if (fs.refusal? .remove loc).isSome then fs else fs.remove loc

/-- The error number for something that is in use by its place in the tree. -/
def busy : Errno := ⟨16⟩

/-- Moves the file at a location to a path, in place of a file or link that is there. -/
def rename (fs : FileSystem) (loc : Location) (p : Path) : Except IoError FileSystem := do
  match ← fs.place p with
  | none => throw (.system busy)
  | some target =>
    match fs.nodeAt? loc with
    | some (.file mode content) =>
      if target.asDirectory then throw (.system .notDirectory)
      if fs.isDirectoryAt target.location then throw (.system .isDirectory)
      fs.permit .rename target.location
      if target.location = loc then return fs
      return (fs.put target.location (.file mode content)).remove loc
    | _ => throw (.system .noEntry)

end FileSystem

end KubectlMatch
