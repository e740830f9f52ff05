import KubectlMatch.Cluster.Kubeconfig
import KubectlMatch.Http.Certificate
import KubectlMatch.Http.Client
import KubectlMatch.Json.Value
import KubectlMatch.Resolution.Error
import KubectlMatch.Version.Parse
/-!
# Asking the cluster for its version

The server that the configuration names says which version it runs.  What counts is the plain
release of that version: vendors add words of their own to it, which no release of kubectl has.
No request is made before the configuration is known to be good.
-/
namespace KubectlMatch

namespace Endpoint

/-- Refuses an endpoint whose certificates no client could be made to trust. -/
def checkAuthority (e : Endpoint) : Except EndpointError Unit :=
  match e.insecure, e.authority with
  | false, some file =>
    if Http.Certificate.isTrustworthy file then .ok ()
    else .error (.noClient ⟨.building, none, .badCertificate⟩)
  | _, _ => .ok ()

def versionUrl (e : Endpoint) : String := e.server ++ "/version"

/-- The endpoint that requests can be made to, from the configuration at a path.  `client` is what
comes of making a client where its certificates are good. -/
def forRequests (client : Except Http.Error Unit) (fs : FileSystem) (kubeconfig? : Option Path) :
    Except EndpointError Endpoint := do
  match kubeconfig? with
  | none => throw .noLocation
  | some path =>
    let endpoint ← load fs path
    endpoint.checkAuthority
    client.mapError .noClient
    return endpoint

end Endpoint

namespace ClusterVersion

def ofNoResponse (limit : Duration) (e : Http.Error) : ProbeError :=
  if e.isTimeout then .timedOut limit
  else if e.isUnconnected then .unreachable e.message
  else .network e

def gitVersion? (body : Bytes) : Except Json.Fault String := do
  (← (← Json.Value.ofBytes? body).onlyField "gitVersion").string?

def ofResponse (limit : Duration) (received : Http.Received) : Except ProbeError Version := do
  if !received.isSuccess then
    throw (.badResponse ("Unexpected status: " ++ received.response.status.text))
  match received.bytes limit with
  | .error e => throw (if e.isTimeout then .timedOut limit else .badResponse e.message)
  | .ok body =>
    match gitVersion? body with
    | .error fault =>
      throw (.badResponse (Http.Error.of .decoding received.address (.malformed fault.message)).message)
    | .ok text =>
      match Version.parse text with
      | .ok version => return version.release
      | .error e => throw (.badResponse e.message)

def ask (net : Http.Network) (limit : Duration) (endpoint : Endpoint) :
    StateM (List Http.Attempt) (Except ProbeError Version) := do
  match ← Http.request net limit endpoint.versionUrl with
  | .error e => return .error (ofNoResponse limit e)
  | .ok received => return ofResponse limit received

def probe (client : Except Http.Error Unit) (net : Http.Network) (fs : FileSystem)
    (kubeconfig? : Option Path) (limit : Duration) :
    StateM (List Http.Attempt) (Except ProbeError Version) :=
  match Endpoint.forRequests client fs kubeconfig? with
  | .error e => return .error (.badConfig e)
  | .ok endpoint => ask net limit endpoint

end ClusterVersion

end KubectlMatch
