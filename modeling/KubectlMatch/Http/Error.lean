import KubectlMatch.Files.Error
/-!
# Errors of the HTTP client

A request fails at one of four stages, for one cause.  The message names the stage and, where
there is one, the address; the causes are worded one level below the other, from the client's
view of the matter down to the system's.
-/
namespace KubectlMatch.Http

inductive Stage where
  | building
  | sending
  | redirecting
  | decoding
deriving DecidableEq

inductive Loss where
  /-- The server closes it. -/
  | closed
  /-- It breaks, as the system says. -/
  | broken (errno : Errno)
deriving DecidableEq

inductive Cause where
  /-- The address is none. -/
  | badAddress (reason : String)
  /-- The address is of a kind that the client does not serve. -/
  | badScheme
  /-- A certificate to be trusted is none. -/
  | badCertificate
  /-- No connection came about. -/
  | unconnected (errno : Errno)
  /-- The time allowed for the request ran out. -/
  | timedOut
  /-- The connection was lost before an answer came. -/
  | lost (loss : Loss)
  | tooManyRedirects
  /-- The connection was lost before the announced end of the body. -/
  | cutShort (loss : Loss)
  /-- The body is not what was asked for. -/
  | malformed (reason : String)
deriving DecidableEq

structure Error where
  stage : Stage
  address : Option String
  cause : Cause
deriving DecidableEq

namespace Stage

def message : Stage → String
  | building => "builder error"
  | sending => "error sending request"
  | redirecting => "error following redirect"
  | decoding => "error decoding response body"

end Stage

namespace Cause

/-- The wordings of a cause, each explaining the one before it. -/
def chain : Cause → List String
  | badAddress reason => [reason]
  | badScheme => ["URL scheme is not allowed"]
  | badCertificate => ["invalid certificate"]
  | unconnected errno => ["client error (Connect)", "tcp connect error", errno.message]
  | timedOut => ["operation timed out"]
  | lost .closed => ["client error (SendRequest)", "connection closed before message completed"]
  | lost (.broken errno) => ["client error (SendRequest)", "connection error", errno.message]
  | tooManyRedirects => ["too many redirects"]
  | cutShort .closed => ["request or response body error", "error reading a body from connection",
      "end of file before message length reached"]
  | cutShort (.broken errno) => ["request or response body error",
      "error reading a body from connection", errno.message]
  | malformed reason => [reason]

end Cause

namespace Error

def message (e : Error) : String :=
  match e.address with
  | none => e.stage.message
  | some address => e.stage.message ++ " for url (" ++ address ++ ")"

def chain (e : Error) : List String := e.message :: e.cause.chain

/-- Whether a time ran out: the client's, or one that the system has for a connection. -/
def isTimeout (e : Error) : Bool :=
  match e.cause with
  | .timedOut => true
  | .unconnected errno | .lost (.broken errno) | .cutShort (.broken errno) => errno == .timedOut
  | _ => false

/-- Whether no connection to the server came about. -/
def isUnconnected (e : Error) : Bool :=
  match e.cause with
  | .unconnected _ => true
  | _ => false

end Error

end KubectlMatch.Http
