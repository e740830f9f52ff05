import KubectlMatch.Files.Operations
import KubectlMatch.Host.Duration
import KubectlMatch.Mirror.Fetch
import KubectlMatch.Yaml.Decode
/-!
# Loading settings

There are four settings, each with a default, and a layer overrides those that it mentions.  Each
directory on a list may hold a settings file, which is one layer.  A file that is missing or
blank is a layer that mentions nothing; the first one that cannot be read, or that is no
settings file, ends the loading.
-/
namespace KubectlMatch

structure Settings where
  /-- Whether a version that is missing may be fetched from the mirror. -/
  allowDownload : Bool
  /-- The directories to look for binaries in, between colons; none for the search path. -/
  systemPath : Option String
  /-- How many seconds the cluster has for an answer. -/
  timeout : Nat
  /-- The address of the release mirror. -/
  mirror : String
deriving DecidableEq

namespace Settings

def default : Settings := ⟨true, none, 5, Mirror.defaultBase⟩

def probeTimeout (s : Settings) : Duration := .ofSeconds s.timeout

end Settings

/-- A layer of settings.  What it does not mention it leaves alone. -/
structure Overrides where
  allowDownload : Option Bool := none
  systemPath : Option String := none
  timeout : Option Nat := none
  mirror : Option String := none
deriving DecidableEq

namespace Overrides

def apply (o : Overrides) (s : Settings) : Settings where
  allowDownload := o.allowDownload.getD s.allowDownload
  systemPath := o.systemPath.or s.systemPath
  timeout := o.timeout.getD s.timeout
  mirror := o.mirror.getD s.mirror

/-- A layer that mentions nothing changes nothing. -/
@[simp] theorem apply_empty (s : Settings) : apply {} s = s := rfl

end Overrides

/-! ## Loading -/

inductive SettingsError where
  | unreadable (path : Path) (cause : IoError)
  | malformed (path : Path) (cause : Yaml.Fault)
deriving DecidableEq

namespace SettingsError

def chain : SettingsError → List String
  | unreadable path cause =>
    ["failed to read " ++ path.quoted ++ ": " ++ cause.message, cause.message]
  | malformed path cause =>
    ["failed to parse " ++ path.quoted ++ ": " ++ cause.message, cause.message]

def message (e : SettingsError) : String := e.chain.headD ""

end SettingsError

namespace Overrides

open Yaml (Decoder)

def decode : Decoder Overrides := fun d n => do
  let entries ← Decoder.entries d n
  let allowDownload ← Decoder.field? "allowDownload" (.optional .bool) d entries
  let systemPath ← Decoder.field? "systemPath" (.optional .string) d entries
  let timeout ← Decoder.field? "timeout" (.optional .natural) d entries
  let mirror ← Decoder.field? "mirror" (.optional .string) d entries
  return ⟨allowDownload.join, systemPath.join, timeout.join, mirror.join⟩

def decodeFile : Decoder Overrides := fun d n => do
  let entries ← Decoder.entries d n
  return (← Decoder.field? "kubectl" decode d entries).getD {}

/-- The layer that a file's text makes.  Blank text mentions nothing. -/
def ofText? (text : String) : Except Yaml.Fault Overrides :=
  if Text.isAllBlank text.toList then .ok {} else decodeFile.run text

end Overrides

namespace Settings

def fileName : FileName := "kubewrap.yaml"

def layer (fs : FileSystem) (dir : Path) : Except SettingsError Overrides :=
  let path := dir.join fileName
  match fs.readText path with
  | .ok text => (Overrides.ofText? text).mapError (.malformed path)
  | .error e => if e.isMissing then .ok {} else .error (.unreadable path e)

/-- The settings that the directories' layers make, the last one on top. -/
def load (fs : FileSystem) (dirs : List Path) : Except SettingsError Settings := do
  return (← dirs.mapM (layer fs)).foldl (fun s o => o.apply s) default

end Settings

end KubectlMatch
