import KubectlMatch.Host.Duration
import KubectlMatch.Http.Address
import KubectlMatch.Http.Error
import KubectlMatch.Http.Status
/-!
# Requests

A request goes to an address, and on to the next one as long as the responses send it elsewhere,
but not for ever: `redirectLimit` times, and within the time that the caller allows.  The body of
the last response is read only when the caller asks for it, out of the time that is left.

What the servers do is a `Network`.  Its answers may depend on all attempts made before, so that
nothing is assumed about servers: they may change their minds between two requests.
-/
namespace KubectlMatch.Http

structure Body where
  /-- The pieces in which it arrives. -/
  chunks : List (List UInt8)
  /-- How the connection is lost before all has arrived that was announced, if it is. -/
  loss? : Option Loss
  /-- The time until the last piece is there, or the connection is lost. -/
  duration : Duration

structure Response where
  status : Status
  /-- Where the resource is instead. -/
  location? : Option (List UInt8)
  body : Body

/-- What becomes of a request to one address. -/
inductive Reply where
  /-- No connection comes about. -/
  | unconnected (errno : Errno)
  /-- The connection is lost without a word from the server. -/
  | lost (loss : Loss)
  | response (response : Response)

structure Answer where
  duration : Duration
  reply : Reply

structure Attempt where
  address : Address
  /-- Whether it came to a server. -/
  arrived : Bool
deriving DecidableEq

/-- What is answered to a request after the attempts made so far. -/
abbrev Network := List Attempt → Address → Answer

namespace Reply

def isArrival : Reply → Bool
  | unconnected _ => false
  | _ => true

end Reply

namespace Response

/-- The address that a response from another one sends the client to. -/
def target? (response : Response) (address : Address) : Option Address := do
  guard response.status.isRedirect
  (address.join (← Text.utf8? (← response.location?))).toOption

end Response

/-- The response that a request ended with. -/
structure Received where
  /-- Where the response came from. -/
  address : Address
  response : Response
  /-- The time that is over. -/
  elapsed : Duration

def redirectLimit : Nat := 10

def Error.of (stage : Stage) (address : Address) (cause : Cause) : Error :=
  ⟨stage, some address.text, cause⟩

/-- What a reply in time means to the client: a failure, a response to be content with, or another
address to go to. -/
def Reply.read (reply : Reply) (address : Address) (elapsed : Duration) :
    Except Error (Received ⊕ Address) :=
  match reply with
  | .unconnected errno => .error (.of .sending address (.unconnected errno))
  | .lost loss => .error (.of .sending address (.lost loss))
  | .response r =>
    match r.target? address with
    | none => .ok (.inl ⟨address, r, elapsed⟩)
    | some next => .ok (.inr next)

def send (net : Network) (limit : Duration) (hops : Nat) (elapsed : Duration) (address : Address) :
    StateM (List Attempt) (Except Error Received) := do
  let answer := net (← get) address
  modify (· ++ [⟨address, answer.reply.isArrival⟩])
  let elapsed := elapsed + answer.duration
  if limit < elapsed then return .error (.of .sending address .timedOut)
  match answer.reply.read address elapsed with
  | .error e => return .error e
  | .ok (.inl received) => return .ok received
  | .ok (.inr next) =>
    match hops with
    | 0 => return .error (.of .redirecting address .tooManyRedirects)
    | hops + 1 =>
      if next.isServed then send net limit hops elapsed next
      else return .error (.of .building next .badScheme)

def request (net : Network) (limit : Duration) (url : String) :
    StateM (List Attempt) (Except Error Received) :=
  match Address.ofText url with
  | .error e => return .error ⟨.building, none, .badAddress e.message⟩
  | .ok address =>
    if address.isServed then send net limit redirectLimit ⟨0⟩ address
    else return .error (.of .building address .badScheme)

namespace Received

def isSuccess (received : Received) : Bool := received.response.status.isSuccess

def chunks (received : Received) : List (List UInt8) := received.response.body.chunks

/-- How the body ends: well, or with the loss of the connection or of patience. -/
def ending (limit : Duration) (received : Received) : Except Error Unit :=
  if limit < received.elapsed + received.response.body.duration then
    .error (.of .decoding received.address .timedOut)
  else
    match received.response.body.loss? with
    | none => .ok ()
    | some loss => .error (.of .decoding received.address (.cutShort loss))

def bytes (limit : Duration) (received : Received) : Except Error (List UInt8) := do
  received.ending limit
  return received.chunks.flatten

/-- The whole body as a text, whatever it is. -/
def text (limit : Duration) (received : Received) : Except Error String := do
  return String.ofList (Text.lossy (← received.bytes limit))

end Received

end KubectlMatch.Http
