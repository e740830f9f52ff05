import KubectlMatch.Binary.Selection
import KubectlMatch.Resolution.Error
import KubectlMatch.Version.Parse
/-!
# Which version to run, and where it is

Two decisions.  `versionToUse` asks the cluster; if that fails, the newest installed binary will
do, and where there is none at all, the mirror's stable release.  When everything fails, it is
the cluster's failure that is told, since the others only stood in for it.  `ensureAvailable`
then finds a binary that fits, or fetches one if it may.

Both are written over `Collaborators`, the parties that they ask, so that what they ask, in
which order and how often, can be observed: `traced` keeps a list of the calls.  `getBin` asks no
finder: it fetches the version that a text spells, whatever is installed.
-/
namespace KubectlMatch

/-- The parties that a decision is made with, each a question with an answer in `m`. -/
structure Collaborators (m : Type → Type) where
  /-- Asks the cluster for its version. -/
  probe : Duration → m (Except ProbeError Version)
  /-- Asks for the newest installed binary. -/
  mostRecent : m (Except FinderError Binary)
  /-- Asks for an installed binary that fits a version. -/
  compatible : Version → m (Except FinderError Binary)
  /-- Asks the mirror for its stable release. -/
  stable : m (Except DownloadError Version)
  /-- Fetches a version from the mirror to a path. -/
  fetch : Version → Path → m (Except DownloadError Unit)
  /-- Makes the cache directory. -/
  ensureCache : m (Except IoError Unit)
  /-- Where the cache keeps a version. -/
  entryPath : Version → Path

namespace Collaborators

variable {m : Type → Type} [Monad m]

def versionToUse (c : Collaborators m) (timeout : Duration) : m (Except ResolveError Version) := do
  match ← c.probe timeout with
  | .ok version => return .ok version
  | .error probeError =>
    match ← c.mostRecent with
    | .ok binary => return .ok binary.version
    | .error .noneFound =>
      match ← c.stable with
      | .ok version => return .ok version
      | .error _ => return .error (.probe probeError)
    | .error _ => return .error (.probe probeError)

/-- Fetches a version into the cache and gives its path there. -/
def fetchToCache (c : Collaborators m) (version : Version) : m (Except DownloadError Path) := do
  match ← c.ensureCache with
  | .error e => return .error (.io e)
  | .ok () =>
    match ← c.fetch version (c.entryPath version) with
    | .error e => return .error e
    | .ok () => return .ok (c.entryPath version)

/-- The path of a binary that fits a version, fetched if there is none and that is allowed. -/
def ensureAvailable (c : Collaborators m) (version : Version) (allowDownload : Bool) :
    m (Except ResolveError Path) := do
  match ← c.compatible version with
  | .ok binary => return .ok binary.path
  | .error _ =>
    if allowDownload then return (← c.fetchToCache version).mapError .download
    else return .error .downloadDisabled

def resolve (c : Collaborators m) (timeout : Duration) (allowDownload : Bool) :
    m (Except ResolveError Path) := do
  match ← c.versionToUse timeout with
  | .error e => return .error e
  | .ok version => c.ensureAvailable version allowDownload

end Collaborators

/-! ## Observing the calls -/

inductive Call where
  | probe (timeout : Duration)
  | mostRecent
  | compatible (requested : Version)
  | stable
  | fetch (version : Version) (destination : Path)
deriving DecidableEq

namespace Collaborators

variable {m : Type → Type} [Monad m]

/-- Notes a call behind the earlier ones and makes it. -/
def noted {α : Type} (call : Call) (action : m α) : StateT (List Call) m α := do
  modify (· ++ [call])
  action

/-- The same parties, with a list of the calls made to them. -/
def traced (c : Collaborators m) : Collaborators (StateT (List Call) m) where
  probe timeout := noted (.probe timeout) (c.probe timeout)
  mostRecent := noted .mostRecent c.mostRecent
  compatible version := noted (.compatible version) (c.compatible version)
  stable := noted .stable c.stable
  fetch version destination := noted (.fetch version destination) (c.fetch version destination)
  ensureCache := c.ensureCache
  entryPath := c.entryPath

end Collaborators

/-! ## Fetching on request -/

/-- Why a version that was asked for could not be fetched. -/
inductive GetBinError where
  | badVersion (cause : VersionError)
  | noDirectory (dir : Path) (cause : IoError)
  | download (cause : DownloadError)
deriving DecidableEq

namespace GetBinError

def chain : GetBinError → List String
  | badVersion cause => ["invalid version", cause.message]
  | noDirectory dir cause =>
    ["cannot create download directory " ++ dir.quoted, cause.message]
  | download cause => cause.chain

end GetBinError

namespace Collaborators

variable {m : Type → Type} [Monad m]

/-- Fetches the version that a text spells into the cache at `dir`, even if there is one that
would do, and gives its path. -/
def getBin (c : Collaborators m) (dir : Path) (text : String) : m (Except GetBinError Path) := do
  match Version.parse text with
  | .error e => return .error (.badVersion e)
  | .ok version =>
    match ← c.ensureCache with
    | .error e => return .error (.noDirectory dir e)
    | .ok () =>
      match ← c.fetch version (c.entryPath version) with
      | .error e => return .error (.download e)
      | .ok () => return .ok (c.entryPath version)

end Collaborators

end KubectlMatch
