import KubectlMatch.Files.Path
import KubectlMatch.Host.Platform
/-!
# Where things are kept

Every place that the program reads or writes is found from the environment and from the home
directory: its own data, the download cache in it, the settings files and the configuration of
the cluster.
-/
namespace KubectlMatch

structure Surroundings where
  env : Environment
  /-- The home directory of the account, for when the environment does not name one. -/
  accountHome? : Option Path

namespace Surroundings

def home? (s : Surroundings) : Option Path :=
  (s.env.getNonempty? "HOME").or s.accountHome?

/-- The directory of the program's own data. -/
def dataDir (s : Surroundings) : Path :=
  match (s.env.getNonempty? "KUBEWRAP_HOME").filter fun dir => dir.text?.isSome with
  | some dir => dir
  | none =>
    match s.home? with
    | some home => Path.join home ".kubewrap"
    | none => ".kubewrap"

def downloadDir (s : Surroundings) (platform : Platform) : Path :=
  Path.join (Path.join s.dataDir "bin") platform.key

def logPath (s : Surroundings) : Path := Path.join s.dataDir "kubewrap.log"

def systemSettingsDirs : List Path := ["/usr/etc/kubewrap", "/etc/kubewrap"]

/-- The directories that are looked through for settings; a later one has precedence. -/
def settingsDirs (s : Surroundings) : List Path :=
  systemSettingsDirs ++ [s.dataDir] ++ (s.env.getNonempty? "KUBEWRAP_CONFIG_DIR").toList

/-- The cluster configuration in use: the first that the environment lists, or else the one in
the home directory. -/
def kubeconfigPath? (s : Surroundings) : Option Path :=
  let listed := (s.env.get? "KUBECONFIG").bind fun list => list.fields.find? fun p => !p.isEmpty
  listed.or <| s.home?.map fun home => Path.join (Path.join home ".kube") "config"

/-- The directories to look for binaries in: those that the settings list, or else the
environment's search path. -/
def searchPath (s : Surroundings) (systemPath? : Option String) : List Path :=
  let list : HostText :=
    match systemPath?.filter fun list => !list.isEmpty with
    | some list => list
    | none => (s.env.get? "PATH").getD default
  list.fields.filter fun p => !p.isEmpty

end Surroundings

end KubectlMatch
