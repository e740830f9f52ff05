import KubectlMatch.Launch.Image
/-!
# Handing over to a binary

The running program becomes the binary that was resolved, with the arguments and the environment
it is given.  A path that leads to no regular file is refused before that.
-/
namespace KubectlMatch

inductive ExecError where
  | notFound (path : Path)
  | failed (path : Path) (cause : IoError)
deriving DecidableEq

namespace ExecError

def message : ExecError → String
  | notFound path => "kubectl binary not found at " ++ path.quoted
  | failed path cause => "failed to execute " ++ path.quoted ++ ": " ++ cause.message

def causes : ExecError → List String
  | notFound _ => []
  | failed _ cause => [cause.message]

def chain (e : ExecError) : List String := e.message :: e.causes

end ExecError

namespace Image

def checkBinary (fs : FileSystem) (binary : Path) : Except ExecError Unit :=
  match fs.stat binary with
  | .ok node => if node.isFile then .ok () else .error (.notFound binary)
  | .error e => if e.isMissing then .error (.notFound binary) else .error (.failed binary e)

/-- One value for each variable: the last that is given. -/
def lastValues (env : Environment) : Environment :=
  env.foldr (fun entry kept => if kept.any (·.1 == entry.1) then kept else entry :: kept) []

/-- One value for each variable, in the order of their names. -/
def lastOfEach (env : Environment) : Environment :=
  (lastValues env).mergeSort fun a b => decide (a.1.bytes ≤ b.1.bytes)

def replace (fs : FileSystem) (binary : Path) (args : List HostText) (env : Environment) :
    Except ExecError Image := do
  checkBinary fs binary
  (exec fs binary args (lastOfEach env)).mapError (.failed binary)

end Image

end KubectlMatch
