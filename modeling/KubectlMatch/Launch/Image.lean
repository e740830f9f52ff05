import KubectlMatch.Files.Operations
import KubectlMatch.Files.System
import KubectlMatch.Host.Duration
/-!
# Starting a program

The system starts a file if it is a regular file that somebody may execute, and if it says how:
by naming, in its first line, an interpreter that can be started in turn, or by the mark of a
machine program.  Any other file cannot be started.

`startFile` is the system's own rule for a path; `startFrom` is the rule for a name, which is
looked for along a search path as soon as no slash is in it.  What a started program does is up to
it: `Programs` gives each its `Run`.
-/
namespace KubectlMatch

structure Image where
  /-- The file that was started. -/
  file : Location
  /-- Whether the file is no program and a shell has to read it. -/
  asScript : Bool
  /-- What it is given, its own name not included. -/
  args : List HostText
  env : Environment
deriving DecidableEq

namespace Image

/-- How many interpreters can be started on the way to a program. -/
def interpreterLimit : Nat := 5

/-- How much of its first line a file is recognised by. -/
def firstLineLimit : Nat := 255

def hash : UInt8 := '#'.toUInt8

def bang : UInt8 := '!'.toUInt8

def isGap (b : UInt8) : Bool := b == ' '.toUInt8 || b == '\t'.toUInt8

/-- The interpreter that a file names behind `#!` in its first line, which is empty if there is
no name there. -/
def interpreter? (content : Bytes) : Option Path :=
  match content.take firstLineLimit with
  | a :: b :: rest =>
    if a = hash ∧ b = bang then
      let line := rest.takeWhile (· != '\n'.toUInt8)
      some ⟨(line.dropWhile isGap).takeWhile fun c => !isGap c && c != 0⟩
    else none
  | _ => none

/-- What a machine program starts with. -/
def machineMark : Bytes := 0x7F :: Text.utf8 "ELF"

def isMachineProgram (content : Bytes) : Bool := machineMark.isPrefixOf content

/-- The file that a path leads to, which somebody has to be allowed to execute, with what is in it. -/
def executable (fs : FileSystem) (p : Path) : Except IoError (Location × Bytes) := do
  let loc ← fs.locate p
  match fs.nodeAt? loc with
  | some (.file mode content) =>
    if (Node.file mode content).isExecutable then return (loc, content)
    else throw (.system .permissionDenied)
  | _ => throw (.system .permissionDenied)

/-- The location of a file that names no interpreter, if the system can start it. -/
def startableAlone (loc : Location) (content : Bytes) : Except IoError Location :=
  if isMachineProgram content then .ok loc else .error (.system .notExecutable)

/-- The location of the file that a path starts, if the system can start it.  `limit` more
interpreters may be on the way. -/
def startable (fs : FileSystem) : Nat → Path → Except IoError Location
  | 0, p => do
    let (loc, content) ← executable fs p
    match interpreter? content with
    | none => startableAlone loc content
    | some _ => throw (.system .tooManyLinks)
  | limit + 1, p => do
    let (loc, content) ← executable fs p
    match interpreter? content with
    | none => startableAlone loc content
    | some name =>
      if name.isEmpty then throw (.system .notExecutable)
      let _ ← startable fs limit name
      return loc

def startFile (fs : FileSystem) (p : Path) (args : List HostText) (env : Environment) :
    Except IoError Image := do
  return ⟨← startable fs interpreterLimit p, false, args, env⟩

/-- The directories to look for programs in where the environment does not say. -/
def defaultSearch : HostText := "/bin:/usr/bin"

/-- Whether a failure to start one candidate lets the search go on. -/
def isPassedOver (e : IoError) : Bool :=
  e == .system .noEntry || e == .system .notDirectory || e == .system .permissionDenied

/-- Starts the first of the candidates that can be started.  Where none can, one that was there
but may not be executed is the reason, or else what is wrong with the last. -/
def startFirst (start : Path → Except IoError Image) (reason : IoError) :
    List Path → Except IoError Image
  | [] => .error reason
  | p :: rest =>
    match start p with
    | .ok image => .ok image
    | .error e =>
      if isPassedOver e then
        startFirst start (if reason == .system .permissionDenied then reason else e) rest
      else .error e

/-- The paths that a program's name may stand for: itself, if it has a slash, and otherwise that
name in each directory on the search path. -/
def candidates (name : Path) (env : Environment) : List Path :=
  if name.bytes.contains Path.slash then [name]
  else
    ((env.get? "PATH").getD defaultSearch).fields.map fun dir =>
      if dir.isEmpty then name else ⟨dir.bytes ++ Path.slash :: name.bytes⟩

/-- Starts a program by its name, with the given way to start one candidate. -/
def startFrom (start : Path → Except IoError Image) (name : Path) (env : Environment) :
    Except IoError Image :=
  if name.isEmpty then .error (.system .noEntry)
  else if name.bytes.contains Path.slash then start name
  else startFirst start (.system .noEntry) (candidates name env)

/-- Whether a text has a byte in it that would end it. -/
def hasNul (t : HostText) : Bool := t.bytes.contains 0

def checkTexts (name : Path) (args : List HostText) (env : Environment) : Except IoError Unit :=
  if hasNul name || args.any hasNul || env.any fun (k, v) => hasNul k || hasNul v then
    .error .nulInData
  else .ok ()

def spawn (fs : FileSystem) (name : Path) (args : List HostText) (env : Environment) :
    Except IoError Image := do
  checkTexts name args env
  startFrom (fun p => startFile fs p args env) name env

/-- Starts a file, or has the shell read it if it says nothing about how to be started. -/
def startOrRead (fs : FileSystem) (args : List HostText) (env : Environment) (p : Path) :
    Except IoError Image :=
  match startFile fs p args env with
  | .error (.system e) =>
    if e = .notExecutable then do
      let loc ← fs.locate p
      let _ ← startable fs interpreterLimit "/bin/sh"
      return ⟨loc, true, args, env⟩
    else .error (.system e)
  | result => result

def exec (fs : FileSystem) (name : Path) (args : List HostText) (env : Environment) :
    Except IoError Image := do
  checkTexts name args env
  startFrom (startOrRead fs args env) name env

end Image

/-! ## What a run leaves behind -/

inductive ExitStatus where
  | exited (code : Nat)
  /-- Ended by a signal. -/
  | signalled (signal : Nat)
deriving DecidableEq

namespace ExitStatus

def signalNames : List (Nat × String) := [
  (1, "SIGHUP"), (2, "SIGINT"), (3, "SIGQUIT"), (4, "SIGILL"), (5, "SIGTRAP"), (6, "SIGABRT"),
  (7, "SIGBUS"), (8, "SIGFPE"), (9, "SIGKILL"), (10, "SIGUSR1"), (11, "SIGSEGV"), (12, "SIGUSR2"),
  (13, "SIGPIPE"), (14, "SIGALRM"), (15, "SIGTERM"), (16, "SIGSTKFLT"), (17, "SIGCHLD"),
  (18, "SIGCONT"), (19, "SIGSTOP"), (20, "SIGTSTP"), (21, "SIGTTIN"), (22, "SIGTTOU"),
  (23, "SIGURG"), (24, "SIGXCPU"), (25, "SIGXFSZ"), (26, "SIGVTALRM"), (27, "SIGPROF"),
  (28, "SIGWINCH"), (29, "SIGIO"), (30, "SIGPWR"), (31, "SIGSYS")]

def isSuccess (s : ExitStatus) : Bool := s == exited 0

def text : ExitStatus → String
  | exited code => "exit status: " ++ toString code
  | signalled signal => "signal: " ++ toString signal ++
      ((signalNames.lookup signal).map fun name => " (" ++ name ++ ")").getD ""

end ExitStatus

/-- What a program wrote, how it ended, and how long it took. -/
structure Run where
  output : Bytes
  errors : Bytes
  status : ExitStatus
  duration : Duration
  /-- Whether its output ever ends, which other programs may hold open that it has started. -/
  outputEnds : Bool

abbrev Programs := FileSystem → Image → Run

end KubectlMatch
