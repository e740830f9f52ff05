import KubectlMatch.Cache.Store
import KubectlMatch.Client.Version
import KubectlMatch.Resolution.Error
/-!
# Finding installed binaries

Binaries are looked for in the directories of a search path and in the cache.  A file on the
search path counts if it bears the program's name, is an executable file, answers when it is
asked for its version and is not the running program itself, which might have been installed
under that very name.  One bad directory or file never hides the others.
-/
namespace KubectlMatch

structure Finder where
  searchPath : List Path
  cache : LocalCache
  query : VersionQuery
  /-- The location of the running program, if it is known. -/
  self? : Option Location

namespace Finder

def isSelf (finder : Finder) (fs : FileSystem) (p : Path) : Bool :=
  match finder.self?, fs.canonical? p with
  | some self, some loc => self == loc
  | _, _ => false

def isExecutableFile (fs : FileSystem) (p : Path) : Bool :=
  match fs.stat p with
  | .ok node => node.isExecutable
  | .error _ => false

/-- Whether a file name is text and may be that of a kubectl. -/
def acceptsName (finder : Finder) (name : FileName) : Bool :=
  match name.text? with
  | some text => finder.cache.platform.isKubectlName text.toList
  | none => false

/-- Whether the file of a name in a search directory is asked for its version. -/
def asks (finder : Finder) (fs : FileSystem) (dir : Path) (name : FileName) : Bool :=
  let path := dir.join name
  finder.acceptsName name && isExecutableFile fs path && !finder.isSelf fs path

def binary? (finder : Finder) (fs : FileSystem) (dir : Path) (name : FileName) : Option Binary :=
  let path := dir.join name
  if finder.asks fs dir name then
    match finder.query fs path with
    | .ok version => some ⟨path, version⟩
    | .error _ => none
  else none

/-- The binaries in one search directory; none in one that cannot be listed.  A listing comes whole or not at all. -/
def scan (finder : Finder) (fs : FileSystem) (dir : Path) : List Binary :=
  match fs.readDir dir with
  | .ok names => names.filterMap (finder.binary? fs dir)
  | .error _ => []

def systemBinaries (finder : Finder) (fs : FileSystem) : List Binary :=
  finder.searchPath.flatMap (finder.scan fs)

def localBinaries (finder : Finder) (fs : FileSystem) : Except FinderError (List Binary) :=
  (finder.cache.entries fs).mapError (.unlisted finder.cache.dir)

/-- All binaries in the order of the scan; a cache that cannot be listed adds none. -/
def scanned (finder : Finder) (fs : FileSystem) : List Binary :=
  finder.systemBinaries fs ++ (finder.localBinaries fs).toOption.getD []

def allBinaries (finder : Finder) (newestFirst : Bool) (fs : FileSystem) : List Binary :=
  Binary.sorted newestFirst (finder.scanned fs)

def findCompatible (finder : Finder) (requested : Version) (fs : FileSystem) :
    Except FinderError Binary :=
  match Binary.compatible? requested (finder.allBinaries true fs) with
  | some binary => .ok binary
  | none => .error (.noneCompatible requested)

def mostRecentAvailable (finder : Finder) (fs : FileSystem) : Except FinderError Binary :=
  match Binary.mostRecent? (finder.allBinaries true fs) with
  | some binary => .ok binary
  | none => .error .noneFound

end Finder

end KubectlMatch
