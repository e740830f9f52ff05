import KubectlMatch.Cluster.Kubeconfig
import KubectlMatch.Files.Path
import KubectlMatch.Host.Duration
import KubectlMatch.Http.Error
import KubectlMatch.Version.Basic
/-!
# Why there is no binary to run

Each of the three sources of an answer fails in ways of its own: the cluster that is asked for
its version, the search for installed binaries, and the release mirror.  `chain` lists a
message and the causes that are worded below it.
-/
namespace KubectlMatch

/-- The cluster does not tell its version. -/
inductive ProbeError where
  | timedOut (limit : Duration)
  /-- No connection to the server came about. -/
  | unreachable (reason : String)
  /-- The configuration does not say where the cluster is or whom to trust. -/
  | badConfig (cause : EndpointError)
  | network (cause : Http.Error)
  | badResponse (reason : String)
deriving DecidableEq

namespace ProbeError

def message : ProbeError → String
  | timedOut limit => "kubernetes API server did not answer within " ++ limit.text
  | unreachable reason => "kubernetes API server unreachable: " ++ reason
  | badConfig cause => "kubeconfig error: " ++ cause.message
  | network cause => "Network error: " ++ cause.message
  | badResponse reason => "Invalid response: " ++ reason

/-- Whether there was no word from the cluster at all. -/
def isTimeout : ProbeError → Bool
  | timedOut _ => true
  | unreachable _ => true
  | _ => false

def chain (e : ProbeError) : List String := [e.message]

end ProbeError

inductive FinderError where
  | noneCompatible (requested : Version)
  | noneFound
  /-- A directory could not be listed. -/
  | unlisted (path : Path) (cause : IoError)
deriving DecidableEq

namespace FinderError

def message : FinderError → String
  | noneCompatible requested => "no kubectl binary compatible with version " ++ requested.text ++
      " found"
  | noneFound => "no kubectl binary found"
  | unlisted path cause => "failed to scan " ++ path.quoted ++ ": " ++ cause.message

def causes : FinderError → List String
  | unlisted _ cause => [cause.message]
  | _ => []

def chain (e : FinderError) : List String := e.message :: e.causes

end FinderError

/-- The mirror did not deliver, or its delivery could not be stored. -/
inductive DownloadError where
  | checksumMismatch (url expected actual : String)
  /-- The mirror answered that it has no such thing. -/
  | unavailable (url reason : String)
  | network (cause : Http.Error)
  | io (cause : IoError)
  | badResponse (reason : String)
deriving DecidableEq

namespace DownloadError

def message : DownloadError → String
  | checksumMismatch url expected actual => "SHA mismatch for URL " ++ url ++ ": expected '" ++
      expected ++ "', got '" ++ actual ++ "'"
  | unavailable url reason => "upstream mirror unavailable at " ++ url ++ ": " ++ reason
  | network cause => "Network error: " ++ cause.message
  | io cause => "IO error: " ++ cause.message
  | badResponse reason => "Invalid response: " ++ reason

def causes : DownloadError → List String
  | network cause => cause.chain
  | io cause => [cause.message]
  | _ => []

def chain (e : DownloadError) : List String := e.message :: e.causes

def isChecksumMismatch : DownloadError → Bool
  | checksumMismatch .. => true
  | _ => false

/-- Whether the mirror is to blame, by silence or by an unusable answer, and not the disk or the
content that was delivered. -/
def isUnavailable : DownloadError → Bool
  | unavailable .. => true
  | network _ => true
  | badResponse _ => true
  | _ => false

end DownloadError

inductive ResolveError where
  | downloadDisabled
  | probe (cause : ProbeError)
  | finder (cause : FinderError)
  | download (cause : DownloadError)
deriving DecidableEq

namespace ResolveError

def chain : ResolveError → List String
  | downloadDisabled =>
    ["the right kubectl is missing, binary downloads from the upstream mirror are disabled"]
  | probe cause => cause.chain
  | finder cause => cause.chain
  | download cause => cause.chain

def message (e : ResolveError) : String := e.chain.headD ""

end ResolveError

end KubectlMatch
