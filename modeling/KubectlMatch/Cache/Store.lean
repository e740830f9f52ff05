import KubectlMatch.Binary.Selection
import KubectlMatch.Files.Operations
import KubectlMatch.Files.Path
import KubectlMatch.Host.Platform
import KubectlMatch.Version.Parse
/-!
# The download cache

A directory with one file for each version, for the binaries of one platform.  The name of a file
spells its version; files of other names are not the cache's business.
-/
namespace KubectlMatch

/-! ## Names -/

/-- What the name of every kubectl binary starts with. -/
def programName : List Char := ['k', 'u', 'b', 'e', 'c', 't', 'l']

def dropEnding (ending name : List Char) : List Char :=
  if ending.isSuffixOf name then name.take (name.length - ending.length) else name

namespace Platform

def exeSuffixChars (p : Platform) : List Char := p.exeSuffix.toList

/-- What follows the program's name in a file name, less the suffix of executables. -/
def afterProgramName? (p : Platform) (name : List Char) : Option (List Char) :=
  programName.isPrefixOf? (dropEnding p.exeSuffixChars name)

/-- Whether a search directory's file may be a kubectl: the bare name, or a version after it.
Plugins have a hyphen there. -/
def isKubectlName (p : Platform) (name : List Char) : Bool :=
  match p.afterProgramName? name with
  | none => false
  | some [] => true
  | some (c :: _) => c.isDigit

end Platform

namespace Version

def entryName (v : Version) (p : Platform) : List Char :=
  programName ++ v.chars ++ p.exeSuffixChars

def ofEntryName? (p : Platform) (name : List Char) : Option Version :=
  match p.afterProgramName? name with
  | some (c :: rest) => if c.isDigit then (parseChars (c :: rest)).toOption else none
  | _ => none

end Version

/-! ## The directory -/

structure LocalCache where
  dir : Path
  platform : Platform
deriving DecidableEq

namespace LocalCache

def entryPath (cache : LocalCache) (v : Version) : Path :=
  cache.dir.join (HostText.ofString (String.ofList (v.entryName cache.platform)))

def ensure (cache : LocalCache) (fs : FileSystem) : Except IoError Unit × FileSystem :=
  fs.makeDirs cache.dir

def entry? (cache : LocalCache) (name : FileName) : Option Binary := do
  let text ← name.text?
  let version ← Version.ofEntryName? cache.platform text.toList
  return ⟨cache.dir.join name, version⟩

/-- All entries, as the directory lists them.  A directory that is not there has none. -/
def entries (cache : LocalCache) (fs : FileSystem) : Except IoError (List Binary) :=
  match fs.readDir cache.dir with
  | .ok names => .ok (names.filterMap cache.entry?)
  | .error e => if e.isMissing then .ok [] else .error e

end LocalCache

end KubectlMatch
