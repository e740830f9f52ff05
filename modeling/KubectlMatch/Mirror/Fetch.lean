import KubectlMatch.Host.Platform
import KubectlMatch.Mirror.Transfer
import KubectlMatch.Text.Blank
import KubectlMatch.Version.Basic
import KubectlMatch.Version.Parse
import KubectlMatch.World
/-!
# Fetching from a mirror

A mirror is asked for three things: the stable release, the checksum of a binary, and the binary.
`fetch` asks for the checksum first, since a binary that cannot be checked is of no use, and then
lets a `Transfer` bring the binary to its destination.
-/
namespace KubectlMatch

/-! ## Addresses -/

structure Mirror where
  /-- The address of the mirror itself, without a slash at its end. -/
  base : String
  platform : Platform
deriving DecidableEq

namespace Mirror

def ofBase (base : String) (platform : Platform) : Mirror :=
  ⟨String.ofList (Text.dropTrailing '/' base.toList), platform⟩

def defaultBase : String := "https://dl.k8s.io"

def stableUrl (m : Mirror) : String := m.base ++ "/release/stable.txt"

def artifactUrl (m : Mirror) (v : Version) : String :=
  m.base ++ "/release/v" ++ v.text ++ "/bin/" ++ m.platform.os ++ "/" ++ m.platform.arch ++
    "/kubectl" ++ m.platform.exeSuffix

def checksumUrl (artifactUrl : String) : String := artifactUrl ++ ".sha256"

end Mirror

/-! ## Requests -/

namespace Mirror

def limit : Duration := .ofSeconds 300

/-- Requests something that the mirror is expected to have. -/
def get (net : Http.Network) (url : String) :
    StateM (List Http.Attempt) (Except DownloadError Http.Received) := do
  match ← Http.request net limit url with
  | .error e => return .error (.network e)
  | .ok received =>
    if received.isSuccess then return .ok received
    else return .error (.unavailable url
      ("Unexpected status: " ++ received.response.status.text))

def getText (net : Http.Network) (url : String) :
    StateM (List Http.Attempt) (Except DownloadError String) := do
  return (← get net url).bind fun received => (received.text limit).mapError .network

def stableVersion (net : Http.Network) (m : Mirror) :
    StateM (List Http.Attempt) (Except DownloadError Version) := do
  return (← getText net m.stableUrl).bind fun body =>
    (Version.parse body).mapError fun e => .badResponse e.message

def publishedChecksum (net : Http.Network) (artifactUrl : String) :
    StateM (List Http.Attempt) (Except DownloadError Checksum) := do
  let url := checksumUrl artifactUrl
  return (← getText net url).bind fun body =>
    match Checksum.published? body with
    | some checksum => .ok checksum
    | none => .error (.badResponse
        ("malformed checksum from " ++ url ++ ": " ++ Text.quote body))

/-- What the names of unfinished files start with.  No version's entry is named so. -/
def unfinishedStart : String := ".kubectl-download"

def directoryOf (destination : Path) : Path :=
  match destination.parent? with
  | some dir => if dir.isEmpty then Path.dot else dir
  | none => Path.dot

/-- The pieces of a body that there is something to write of. -/
def written (pieces : List Bytes) : List Bytes := pieces.filter fun chunk => !chunk.isEmpty

/-- The transfer of what was delivered. -/
def transfer (url : String) (expected : Checksum) (destination : Path) (unfinished : Location)
    (delivery : Except DownloadError Http.Received) : Transfer :=
  match delivery with
  | .ok received => ⟨url, expected, destination, unfinished, received.ending limit, [], none,
      .receiving (written received.chunks)⟩
  | .error e => ⟨url, expected, destination, unfinished, .ok (), [], none, .discarding e⟩

/-- Brings the artifact at an address to a destination if it has the checksum. -/
def store (net : Http.Network) (url : String) (expected : Checksum) (destination : Path) :
    StateM World (Except DownloadError Unit) := do
  let dir := directoryOf destination
  match ← World.onFiles fun fs => fs.makeDirs dir with
  | .error e => return .error (.io e)
  | .ok () =>
    match ← World.ofTheFiles fun fs => fs.createTemporary dir unfinishedStart with
    | .error e => return .error (.io e)
    | .ok (unfinished, files) =>
      modify ({ · with files })
      let delivery ← World.online (get net url)
      World.onFiles (transfer url expected destination unfinished delivery).run

def fetch (net : Http.Network) (m : Mirror) (v : Version) (destination : Path) :
    StateM World (Except DownloadError Unit) := do
  match ← World.online (publishedChecksum net (m.artifactUrl v)) with
  | .error e => return .error e
  | .ok expected => store net (m.artifactUrl v) expected destination

end Mirror

end KubectlMatch
