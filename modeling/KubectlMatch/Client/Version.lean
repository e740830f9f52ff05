import KubectlMatch.Files.Error
import KubectlMatch.Files.Path
import KubectlMatch.Host.Duration
import KubectlMatch.Json.Value
import KubectlMatch.Launch.Image
import KubectlMatch.Version.Parse
/-!
# Asking a binary for its version

A binary is run with the arguments that make it print its version, and has a limited time for it.
What it prints counts only if it ends in success.
-/
namespace KubectlMatch

inductive QueryError where
  /-- It could not be started, or what it wrote could not be read. -/
  | notRun (path : Path) (cause : IoError)
  | timedOut (path : Path) (limit : Duration)
  /-- It ended without success. -/
  | failed (path : Path) (status : String)
  /-- What it wrote does not say a version. -/
  | badOutput (path : Path) (reason : String)
deriving DecidableEq

namespace QueryError

def message : QueryError → String
  | notRun path cause => "failed to run " ++ path.quoted ++ ": " ++ cause.message
  | timedOut path limit => path.quoted ++ " did not answer within " ++ limit.text
  | failed path status => path.quoted ++ " exited with " ++ status
  | badOutput path reason => "unexpected version output from " ++ path.quoted ++ ": " ++ reason

/-- The wordings of the causes below the message. -/
def causes : QueryError → List String
  | notRun _ cause => [cause.message]
  | _ => []

end QueryError

abbrev VersionQuery := FileSystem → Path → Except QueryError Version

namespace ClientVersion

def arguments : List HostText := ["version", "--client", "-o", "json"]

/-- How long a binary has for its answer. -/
def defaultLimit : Duration := .ofSeconds 5

def ofOutput (output : String) : Except String Version := do
  let gitVersion ← (do
    let document ← Json.Value.ofBytes? (Text.utf8 output)
    (← (← document.onlyField "clientVersion").onlyField "gitVersion").string?).mapError
      Json.Fault.message
  (Version.parse gitVersion).mapError VersionError.message

def ofBytes (path : Path) (output : Bytes) : Except QueryError Version :=
  match Text.utf8? output with
  | none => .error (.notRun path .notText)
  | some output => (ofOutput output).mapError (.badOutput path)

/-- The version that a run ended with.  The limit is one for the run itself: the output of a
success is waited for until it ends, which may be never. -/
def ofRun (path : Path) (limit : Duration) (run : Run) : Option (Except QueryError Version) :=
  if limit < run.duration then some (.error (.timedOut path limit))
  else if !run.status.isSuccess then some (.error (.failed path run.status.text))
  else if run.outputEnds then some (ofBytes path run.output)
  else none

def ask (programs : Programs) (env : Environment) (limit : Duration) (fs : FileSystem)
    (path : Path) : Option (Except QueryError Version) :=
  match Image.spawn fs path arguments env with
  | .error e => some (.error (.notRun path e))
  | .ok image => ofRun path limit (programs fs image)

/-- Asks binaries that answer at some time.  Whoever asks another one waits for ever, and comes to
no result at all. -/
def query (programs : Programs) (env : Environment) (limit : Duration) : VersionQuery :=
  fun fs path => (ask programs env limit fs path).getD (.error (.timedOut path limit))

end ClientVersion

end KubectlMatch
