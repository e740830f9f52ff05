import KubectlMatch.Cli.Run
/-!
# The command line

Takes a picture of the places that a run looks at, lets the run decide, and carries out what it
has decided: the directories it made, the text it wrote and the code it ended with.  The picture
shows names and, where a run reads them, contents.  Programs cannot be started and servers cannot
be reached from here, so that versions come from the names in the cache alone, and a run that ends
as another program ends by printing that program's command line.
-/
namespace KubectlMatch.Main

def variableNames : List String :=
  ["HOME", "PATH", "KUBECONFIG", "KUBEWRAP_HOME", "KUBEWRAP_CONFIG_DIR"]

def readEnvironment : IO Environment := do
  variableNames.filterMapM fun name => do
    return (← IO.getEnv name).map fun value => (HostText.ofString name, HostText.ofString value)

/-- The location that a path spells, seen from another one. -/
def locationFrom (here : Location) (p : Path) : Location :=
  p.steps.foldl (fun loc name =>
    if name = Path.dot then loc else if name = Path.dotDot then loc.tail else name :: loc)
    (if p.isAbsolute then [] else here)

/-- A picture with a directory and all above it. -/
def putDirectories (fs : FileSystem) : Location → FileSystem
  | [] => fs
  | name :: above => (putDirectories fs above).put (name :: above) .directory

/-- Adds what a directory holds to the picture; of files, the name only. -/
def addDirectory (fs : FileSystem) (dir : Path) : IO FileSystem := do
  try
    let loc := locationFrom fs.workingDirectory dir
    let mut fs := putDirectories fs loc
    for entry in ← ((← IO.currentDir) / dir.shown).readDir do
      let node := if ← entry.path.isDir then Node.directory else .file 0o755 []
      fs := fs.put (HostText.ofString entry.fileName :: loc) node
    return fs
  catch _ => return fs

/-- Adds a file with its content to the picture. -/
def addFile (fs : FileSystem) (file : Path) : IO FileSystem := do
  try
    let content ← IO.FS.readBinFile file.shown
    match locationFrom fs.workingDirectory file with
    | [] => return fs
    | name :: dir => return (putDirectories fs dir).put (name :: dir) (.file 0o644 content.toList)
  catch _ => return fs

/-- The picture that a run needs. -/
def takePicture (s : Surroundings) (platform : Platform) : IO FileSystem := do
  let here := locationFrom [] (HostText.ofString (← IO.currentDir).toString)
  let fs := putDirectories { FileSystem.empty with workingDirectory := here } here
  let fs ← (s.downloadDir platform :: s.dataDir :: s.searchPath none).foldlM addDirectory fs
  let settings := s.settingsDirs.map fun dir => dir.join Settings.fileName
  (settings ++ s.kubeconfigPath?.toList).foldlM addFile fs

/-- Makes the directories on the disk that a run has made in the picture. -/
def makeDirectories (before after : FileSystem) : IO Unit := do
  for (loc, node) in after.entries do
    if node == .directory && (before.nodeAt? loc).isNone then
      let path := loc.reverse.foldl (fun path name => path ++ "/" ++ name.shown) ""
      try IO.FS.createDirAll path catch _ => pure ()

def noPrograms : Programs := fun _ _ => ⟨[], [], .exited 126, ⟨0⟩, true⟩

def noNetwork : Http.Network := fun _ _ => ⟨⟨0⟩, .unconnected ⟨101⟩⟩

def finish : Outcome → IO UInt32
  | .exited code output errors => do
    IO.print output
    IO.eprint errors
    return UInt32.ofNat code
  | .became image => do
    let path := image.file.reverse.foldl (fun path name => path ++ "/" ++ name.shown) ""
    IO.println (" ".intercalate (path :: image.args.map HostText.quoted))
    return 0

end KubectlMatch.Main

open KubectlMatch in
def main (args : List String) : IO UInt32 := do
  let surroundings : Surroundings := ⟨← Main.readEnvironment, none⟩
  let platform := Platform.current
  let files ← Main.takePicture surroundings platform
  let machine : Machine :=
    ⟨surroundings, platform, Main.noPrograms, Main.noNetwork, none, .ok (), .ok (), .ok ()⟩
  match (machine.run ("kubewrap" :: args.map HostText.ofString)).run (.ofFiles files) with
  -- Programs fail to start here, so that no scan waits for one.
  | none => return 1
  | some (outcome, world) =>
    Main.makeDirectories files world.files
    Main.finish outcome
