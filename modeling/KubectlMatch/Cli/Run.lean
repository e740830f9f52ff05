import KubectlMatch.Cli.Command
import KubectlMatch.Client.Version
import KubectlMatch.Cluster.Probe
import KubectlMatch.Finder.Basic
import KubectlMatch.Launch.Replace
import KubectlMatch.Mirror.Fetch
import KubectlMatch.Resolution.Policy
import KubectlMatch.Settings.Load
import KubectlMatch.Settings.Locations
import KubectlMatch.Text.Table
/-!
# A run of the program

A run loads the settings and does what the command line asks for.  For kubectl's own command lines
that means to become the kubectl that fits the cluster: such a run either ends as that program,
with its arguments and environment untouched, or with one line on why it could not.  A run that
waits for a binary's version may also never end.

All that a run depends on and does not change is its `Machine`: where things are kept, what programs
do when they are started, and what servers answer.
-/
namespace KubectlMatch

/-! ## The machine -/

structure Machine where
  surroundings : Surroundings
  platform : Platform
  programs : Programs
  network : Http.Network
  /-- Where the running program is, if that is known. -/
  self? : Option Location
  /-- Whether the system gives a run what it needs to wait for answers. -/
  runtime : Except IoError Unit
  /-- Whether a client for the mirror can be made. -/
  mirrorClient : Except Http.Error Unit
  /-- Whether a client for the cluster can be made where its certificates are good. -/
  clusterClient : Except Http.Error Unit

namespace Machine

def cache (m : Machine) : LocalCache := ⟨m.surroundings.downloadDir m.platform, m.platform⟩

def ask (m : Machine) : FileSystem → Path → Option (Except QueryError Version) :=
  ClientVersion.ask m.programs m.surroundings.env ClientVersion.defaultLimit

def finder (m : Machine) (s : Settings) : Finder where
  searchPath := m.surroundings.searchPath s.systemPath
  cache := m.cache
  query := ClientVersion.query m.programs m.surroundings.env ClientVersion.defaultLimit
  self? := m.self?

def mirror (m : Machine) (s : Settings) : Mirror := .ofBase s.mirror m.platform

/-- Whether every binary that a scan asks answers at some time. -/
def scanEnds (m : Machine) (s : Settings) (fs : FileSystem) : Bool :=
  (m.finder s).searchPath.all fun dir =>
    match fs.readDir dir with
    | .ok names => names.all fun name =>
        !(m.finder s).asks fs dir name || (m.ask fs (dir.join name)).isSome
    | .error _ => true

/-- The cluster, the finder, the mirror and the cache of this machine, where all scans end. -/
def parties (m : Machine) (s : Settings) : Collaborators (StateM World) where
  probe limit := do
    let files := (← get).files
    World.online (ClusterVersion.probe m.clusterClient m.network files
      m.surroundings.kubeconfigPath? limit)
  mostRecent := World.ofTheFiles (m.finder s).mostRecentAvailable
  compatible version := World.ofTheFiles ((m.finder s).findCompatible version)
  stable := World.online (Mirror.stableVersion m.network (m.mirror s))
  fetch version destination := Mirror.fetch m.network (m.mirror s) version destination
  ensureCache := World.onFiles m.cache.ensure
  entryPath := m.cache.entryPath

/-- The same parties, where a scan may never end. -/
def collaborators (m : Machine) (s : Settings) : Collaborators World.Course where
  probe limit := .ofAction ((m.parties s).probe limit)
  mostRecent := .ofSearch (m.scanEnds s) (m.parties s).mostRecent
  compatible version := .ofSearch (m.scanEnds s) ((m.parties s).compatible version)
  stable := .ofAction (m.parties s).stable
  fetch version destination := .ofAction ((m.parties s).fetch version destination)
  ensureCache := .ofAction (m.parties s).ensureCache
  entryPath := (m.parties s).entryPath

/-- What a run needs before it can ask the cluster or the mirror, or else the wordings of what is
missing. -/
def prepare (m : Machine) : Except (List String) Unit := do
  m.runtime.mapError fun e => ["failed to start async runtime", e.message]
  m.mirrorClient.mapError fun e => (DownloadError.network e).chain

end Machine

/-! ## The listing of binaries -/

namespace Listing

def head : List (List Char) := ["#".toList, "Version".toList, "Binary".toList]

def row (number : Nat) (binary : Binary) : List (List Char) :=
  [Nat.toDigits 10 number, binary.version.chars, binary.path.shown.toList]

/-- The rows of the binaries by version, numbered from one. -/
def rows (binaries : List Binary) : List (List (List Char)) :=
  (Binary.sorted false binaries).mapIdx fun i binary => row (i + 1) binary

def body : Except FinderError (List Binary) → List Char
  | .error e => "Error retrieving binaries: ".toList ++ e.message.toList
  | .ok [] => "No binaries found.".toList
  | .ok binaries => Text.table head (rows binaries)

def titled (title : String) (answer : Except FinderError (List Binary)) : List Char :=
  title.toList ++ '\n' :: body answer ++ ['\n']

def render (system cached : Except FinderError (List Binary)) : String :=
  String.ofList (titled "system-wide kubectl binaries" system ++ '\n' :: '\n' ::
    titled "local kubectl binaries" cached)

end Listing

/-! ## Runs -/

inductive Outcome where
  /-- With an exit code, after writing to the standard output and the standard error. -/
  | exited (code : Nat) (output errors : String)
  /-- As another program. -/
  | became (image : Image)
deriving DecidableEq

namespace Outcome

def success (output : String) : Outcome := exited 0 output ""

def failure (chain : List String) : Outcome :=
  exited 1 "" ("Error: " ++ ": ".intercalate chain ++ "\n")

end Outcome

namespace Machine

/-- Makes the directory of the program's own data.  It does not matter if that fails. -/
def makeDataDir (m : Machine) : StateM World Unit := do
  match m.surroundings.logPath.parent? with
  | some dir => let _ ← World.onFiles fun fs => fs.makeDirs dir
  | none => return

def becomeKubectl (m : Machine) (s : Settings) (args : List HostText) : World.Course Outcome := do
  match m.prepare with
  | .error chain => return .failure chain
  | .ok () =>
    match ← (m.collaborators s).resolve s.probeTimeout s.allowDownload with
    | .error e => return .failure e.chain
    | .ok binary =>
      match Image.replace (← get).files binary args m.surroundings.env with
      | .error e => return .failure (("cannot run " ++ binary.quoted) :: e.chain)
      | .ok image => return .became image

def listBinaries (m : Machine) (s : Settings) (fs : FileSystem) : Outcome :=
  .success (Listing.render (.ok ((m.finder s).systemBinaries fs)) ((m.finder s).localBinaries fs))

def fetchBinary (m : Machine) (s : Settings) (version : String) : World.Course Outcome := do
  match m.prepare with
  | .error chain => return .failure chain
  | .ok () =>
    match ← (m.collaborators s).getBin m.cache.dir version with
    | .error e => return .failure e.chain
    | .ok path => return .success (path.shown ++ "\n")

def perform (m : Machine) (s : Settings) : Command → World.Course Outcome
  | .kubectl args => m.becomeKubectl s args
  | .list => .ofSearch (m.scanEnds s) (World.ofTheFiles (m.listBinaries s))
  | .fetch version => m.fetchBinary s version
  | .help => return .success Command.usage
  | .misused => return .exited 2 "" ("error: unexpected or missing arguments\n\n" ++ Command.usage)

def run (m : Machine) (args : List HostText) : World.Course Outcome := do
  World.Course.ofAction m.makeDataDir
  match Settings.load (← get).files m.surroundings.settingsDirs with
  | .error e => return .failure ("failed to load configuration" :: e.chain)
  | .ok settings => m.perform settings (.ofArgs args)

end Machine

end KubectlMatch
