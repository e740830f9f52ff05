import KubectlMatch.Host.Text
/-!
# Whose command line it is

All of the command line belongs to kubectl, unless its first word is one of two that are
reserved for managing the binaries themselves.  Only behind a reserved word are the arguments
looked at: each word takes a fixed number of values, and apart from a call for help there are no
options.
-/
namespace KubectlMatch

/-- The words that are not kubectl's. -/
inductive Reserved where
  /-- Lists the binaries. -/
  | list
  /-- Fetches a version. -/
  | fetch
deriving DecidableEq

namespace Reserved

def word : Reserved → String
  | list => "bins"
  | fetch => "get-bin"

/-- How many values follow the word. -/
def arity : Reserved → Nat
  | list => 0
  | fetch => 1

end Reserved

inductive Command where
  /-- To run kubectl with these arguments. -/
  | kubectl (args : List HostText)
  | list
  | fetch (version : String)
  /-- To say how the reserved words are used. -/
  | help
  /-- Nothing: a reserved word is not used as it should be. -/
  | misused
deriving DecidableEq

namespace Command

/-- The reserved word of a command line, which has the program's name first. -/
def reserved? : List HostText → Option Reserved
  | _ :: word :: _ => [Reserved.list, .fetch].find? fun r => word.text? == some r.word
  | _ => none

def isReserved (args : List HostText) : Bool := (reserved? args).isSome

/-! ## Values behind a reserved word -/

/-- What makes the arguments behind it values, whatever they look like. -/
def separator : HostText := "--"

def dash : UInt8 := 0x2D

def asksForHelp (arg : HostText) : Bool :=
  arg == "--help" || (Text.utf8 "-h").isPrefixOf arg.bytes

/-- A lone dash is a value. -/
def isOption (arg : HostText) : Bool := arg.bytes.head? == some dash && arg.bytes.length > 1

/-- The values among arguments, at most `limit`, or what the arguments ask for instead. -/
def values (limit : Nat) (onlyValues : Bool) : List HostText → Except Command (List HostText)
  | [] => .ok []
  | arg :: rest =>
    if !onlyValues && arg == separator then values limit true rest
    else if !onlyValues && asksForHelp arg then .error .help
    else if !onlyValues && isOption arg then .error .misused
    else if limit = 0 then .error .misused
    else (values (limit - 1) onlyValues rest).map (arg :: ·)

def ofReserved : Reserved → List HostText → Command
  | .list, [] => list
  | .fetch, [version] => (version.text?.map fetch).getD misused
  | _, _ => misused

def ofArgs (args : List HostText) : Command :=
  match reserved? args with
  | none => kubectl args.tail
  | some r =>
    match values r.arity false (args.drop 2) with
    | .ok values => ofReserved r values
    | .error command => command

def usage : String := "Usage: kubewrap bins\n       kubewrap get-bin <VERSION>\n"

end Command

end KubectlMatch
