import KubectlMatch.Files.Error
import KubectlMatch.Files.Operations
import KubectlMatch.Files.Path
import KubectlMatch.Http.Error
import KubectlMatch.Text.Base64
import KubectlMatch.Yaml.Decode
import KubectlMatch.Yaml.Fault
/-!
# The configured cluster

A cluster configuration lists clusters and contexts by name and says which context is in use.
Of all that only one chain matters: the current context, the first context of that name, and the
first cluster of the name that it gives.  `Endpoint.ofKubeconfig` follows it to what is needed for
a request: an address and whom to trust.
-/
namespace KubectlMatch

/-! ## Why a cluster cannot be located -/

inductive EndpointError where
  | noLocation
  | unreadable (path : Path) (cause : IoError)
  /-- The file is no cluster configuration. -/
  | malformed (cause : Yaml.Fault)
  | noCurrentContext
  | noContext (name : String)
  | noCluster (name : String)
  | badAuthority (cause : Text.Base64.Error)
  /-- No client can be made that trusts whom the configuration says. -/
  | noClient (cause : Http.Error)
  /-- A reason of another source, by its own wording. -/
  | other (reason : String)
deriving DecidableEq

namespace EndpointError

def message : EndpointError → String
  | noLocation => "no kubeconfig location"
  | unreadable path cause => "failed to read " ++ path.quoted ++ ": " ++ cause.message
  | malformed cause => cause.message
  | noCurrentContext => "current-context is not set"
  | noContext name => "context " ++ Text.quote name ++ " not found"
  | noCluster name => "cluster " ++ Text.quote name ++ " not found"
  | badAuthority cause => "invalid certificate-authority-data: " ++ cause.message
  | noClient cause => "failed to build HTTP client: " ++ cause.message
  | other reason => reason

end EndpointError

/-! ## The configuration -/

structure ClusterInfo where
  server : String
  /-- The file with the certificates to trust. -/
  authorityFile : Option String
  /-- The certificates themselves, in base64. -/
  authorityData : Option String
  /-- Whether to trust any server. -/
  insecure : Bool
deriving DecidableEq

structure NamedCluster where
  name : String
  cluster : ClusterInfo
deriving DecidableEq

/-- A context, and the name of the cluster that it stands for. -/
structure NamedContext where
  name : String
  cluster : String
deriving DecidableEq

structure Kubeconfig where
  clusters : List NamedCluster
  contexts : List NamedContext
  currentContext : Option String
deriving DecidableEq

open Yaml (Decoder)

def ClusterInfo.decode : Decoder ClusterInfo := fun d n => do
  let entries ← Decoder.entries d n
  let server ← Decoder.field "server" .string d entries
  let file ← Decoder.field? "certificate-authority" (.optional .string) d entries
  let data ← Decoder.field? "certificate-authority-data" (.optional .string) d entries
  let insecure ← Decoder.field? "insecure-skip-tls-verify" .bool d entries
  return ⟨server, file.join, data.join, insecure.getD false⟩

def NamedCluster.decode : Decoder NamedCluster := fun d n => do
  let entries ← Decoder.entries d n
  return ⟨← Decoder.field "name" .string d entries,
    ← Decoder.field "cluster" ClusterInfo.decode d entries⟩

/-- The name of the cluster in a context's own mapping. -/
def NamedContext.decodeCluster : Decoder String := fun d n => do
  Decoder.field "cluster" .string d (← Decoder.entries d n)

def NamedContext.decode : Decoder NamedContext := fun d n => do
  let entries ← Decoder.entries d n
  return ⟨← Decoder.field "name" .string d entries,
    ← Decoder.field "context" NamedContext.decodeCluster d entries⟩

namespace Kubeconfig

def decode : Decoder Kubeconfig := fun d n => do
  let entries ← Decoder.entries d n
  let clusters ← Decoder.field? "clusters" (.list NamedCluster.decode) d entries
  let contexts ← Decoder.field? "contexts" (.list NamedContext.decode) d entries
  let current ← Decoder.field? "current-context" (.optional .string) d entries
  return ⟨clusters.getD [], contexts.getD [], current.join⟩

def ofText? (text : String) : Except Yaml.Fault Kubeconfig := decode.run text

def currentCluster (k : Kubeconfig) : Except EndpointError ClusterInfo :=
  match k.currentContext.filter fun name => !name.isEmpty with
  | none => .error .noCurrentContext
  | some name =>
    match k.contexts.find? fun c => c.name = name with
    | none => .error (.noContext name)
    | some context =>
      match k.clusters.find? fun c => c.name = context.cluster with
      | none => .error (.noCluster context.cluster)
      | some named => .ok named.cluster

end Kubeconfig

/-- Where a cluster answers, and whom to trust there. -/
structure Endpoint where
  /-- The address, without a slash at its end. -/
  server : String
  /-- Certificates to trust, as a file holds them. -/
  authority : Option Bytes
  insecure : Bool
deriving DecidableEq

namespace Endpoint

/-- The certificates that a configuration names.  Those it spells out go before a file, which is
then not even looked at. -/
def readAuthority (fs : FileSystem) (dir : Path) (info : ClusterInfo) :
    Except EndpointError (Option Bytes) :=
  match info.authorityData, info.authorityFile with
  | some data, _ =>
    match Text.Base64.decode (Text.utf8 (String.ofList (Text.trim data.toList))) with
    | .ok bytes => .ok (some bytes)
    | .error e => .error (.badAuthority e)
  | none, some file =>
    let path := dir.join file
    match fs.readFile path with
    | .ok bytes => .ok (some bytes)
    | .error e => .error (.unreadable path e)
  | none, none => .ok none

/-- The endpoint of the current context.  Files are named from `dir`. -/
def ofKubeconfig (fs : FileSystem) (dir : Path) (k : Kubeconfig) :
    Except EndpointError Endpoint := do
  let info ← k.currentCluster
  let authority ← readAuthority fs dir info
  return ⟨String.ofList (Text.dropTrailing '/' info.server.toList), authority, info.insecure⟩

def ofText (fs : FileSystem) (dir : Path) (text : String) : Except EndpointError Endpoint := do
  ofKubeconfig fs dir (← (Kubeconfig.ofText? text).mapError .malformed)

def load (fs : FileSystem) (path : Path) : Except EndpointError Endpoint := do
  let text ← (fs.readText path).mapError (.unreadable path)
  ofText fs (path.parent?.getD Path.dot) text

end Endpoint

end KubectlMatch
