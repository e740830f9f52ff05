import KubectlMatch.Http.Host
/-!
# Addresses

An address names a resource by a scheme, a host, a port and a path.  Reading one brings it into
the one form in which it is shown: the scheme and the host in small letters, the usual port left
out, dots in the path followed, and what cannot stand in it escaped.  `join` reads a reference
as seen from another address.
-/
namespace KubectlMatch.Http

structure Address where
  scheme : List Char
  /-- The written form of the host; none for an address of a kind that has no host. -/
  host : Option (List Char)
  /-- The port, unless it is the usual one. -/
  port : Option Nat
  path : List Char
  query : Option (List Char)
  fragment : Option (List Char)
deriving DecidableEq

namespace Address

/-- The port that a scheme uses if none is named; only schemes of the web have one. -/
def usualPort? (scheme : List Char) : Option Nat :=
  [("http".toList, 80), ("https".toList, 443), ("ws".toList, 80), ("wss".toList, 443),
    ("ftp".toList, 21)].lookup scheme

/-- Whether the scheme is one of the web's, which read a backslash as a slash. -/
def isWeb (scheme : List Char) : Bool :=
  (usualPort? scheme).isSome || scheme == "file".toList

/-- Whether the client can request the address. -/
def isServed (a : Address) : Bool :=
  a.host.isSome && (a.scheme == "http".toList || a.scheme == "https".toList)

/-! ## Escaping -/

def escapeByte (b : UInt8) : List Char :=
  let digit (n : Nat) : Char := (Nat.digitChar n).toUpper
  ['%', digit (b.toNat / 16), digit (b.toNat % 16)]

/-- Escapes the bytes of what is no printing ASCII character, or is one of those given. -/
def escape (also : List Char) (s : List Char) : List Char :=
  s.flatMap fun c =>
    if c.toNat < 0x20 ∨ 0x7E < c.toNat ∨ c ∈ also then (Text.utf8 c.toString).flatMap escapeByte
    else [c]

/-- What is escaped in each part. -/
def fragmentSet : List Char := " \"<>`".toList

def querySet (web : Bool) : List Char := " \"#<>".toList ++ if web then ['\''] else []

def pathSet : List Char := " \"#<>?`\x7b\x7d".toList

/-! ## Paths -/

def isSeparator (web : Bool) (c : Char) : Bool := c == '/' || (web && c == '\\')

def splitAtSeparators (web : Bool) (s : List Char) : List (List Char) :=
  (s.map fun c => if isSeparator web c then '/' else c).splitOn '/'

/-- The number of dots that a segment consists of, escaped or not. -/
def dotCount : List Char → Option Nat
  | [] => some 0
  | '.' :: rest => (dotCount rest).map (· + 1)
  | '%' :: '2' :: e :: rest => if e = 'e' ∨ e = 'E' then (dotCount rest).map (· + 1) else none
  | _ => none

/-- Follows the segments of a path from a directory, given by its names with the last one first.
The last segment names the resource, which is empty behind a dot. -/
def followSegments : List (List Char) → List (List Char) → List (List Char)
  | dir, [] => dir
  | dir, segment :: rest =>
    let isLast := rest.isEmpty
    match dotCount segment with
    | some 1 => followSegments (if isLast then [] :: dir else dir) rest
    | some 2 => followSegments (if isLast then [] :: dir.tail else dir.tail) rest
    | _ => followSegments (escape pathSet segment :: dir) rest

def pathFrom (dir : List (List Char)) (segments : List (List Char)) : List Char :=
  (followSegments dir segments).reverse.flatMap fun s => '/' :: s

/-- The names of the directory that a path is in, the last one first. -/
def directoryOf (path : List Char) : List (List Char) := (path.splitOn '/').reverse.tail.dropLast

/-! ## Reading -/

/-- A text without the blanks and controls at its ends, and without line breaks and tabs. -/
def clean (s : List Char) : List Char :=
  let isEdge (c : Char) : Bool := c.toNat ≤ 0x20
  let s := (((s.dropWhile isEdge).reverse).dropWhile isEdge).reverse
  s.filter fun c => c != '\t' && c != '\n' && c != '\r'

/-- The text before a character, and the text behind it if it is there. -/
def cutAt (c : Char) (s : List Char) : List Char × Option (List Char) :=
  match s.dropWhile (· != c) with
  | [] => (s, none)
  | _ :: rest => (s.takeWhile (· != c), some rest)

def isSchemeChar (c : Char) : Bool := c.isAlphanum || c == '+' || c == '-' || c == '.'

def scheme? (s : List Char) : Option (List Char × List Char) :=
  if s.head?.any Char.isAlpha then
    match s.dropWhile isSchemeChar with
    | ':' :: rest => some ((s.takeWhile isSchemeChar).map Char.toLower, rest)
    | _ => none
  else none

/-- The last part of an authority behind the name of a user. -/
def dropUser (authority : List Char) : List Char :=
  (authority.reverse.takeWhile (· != '@')).reverse

/-- The host and the port of an authority.  A colon inside brackets is none before a port. -/
def splitPort (authority : List Char) : List Char × List Char :=
  let port := (authority.reverse.takeWhile fun c => c != ':' && c != ']').reverse
  let front := authority.take (authority.length - port.length)
  if front.getLast? == some ':' then (front.dropLast, port) else (authority, [])

def readPort (scheme : List Char) (digits : List Char) : Except AddressError (Option Nat) :=
  if digits.isEmpty then .ok none
  else if digits.all Char.isDigit then
    let n := Nat.ofDigitChars 10 digits 0
    if n < 65536 then .ok (if usualPort? scheme == some n then none else some n)
    else .error .badPort
  else .error .badPort

/-- The host of a scheme that is none of the web's, which is taken as it is. -/
def opaqueHost (text : List Char) : Except AddressError (List Char) :=
  if text.head? == some '[' then hostText text
  else if (text.filter (· != '%')).any isForbidden then .error .badDomainCharacter
  else .ok (escape [] text)

/-- Reads what stands behind the slashes in front of an authority. -/
def readAuthority (scheme rest : List Char) (query fragment : Option (List Char)) :
    Except AddressError Address := do
  let web := isWeb scheme
  let authority := rest.takeWhile fun c => !isSeparator web c
  let path := rest.dropWhile fun c => !isSeparator web c
  let (host, port) := splitPort (dropUser authority)
  if host.isEmpty && web then throw .emptyHost
  let host ← if web then hostText host else opaqueHost host
  let port ← readPort scheme port
  let segments := (splitAtSeparators web path).tail
  let path := if path.isEmpty then (if web then ['/'] else []) else pathFrom [] segments
  return ⟨scheme, some host, port, path, query, fragment⟩

/-- Reads what stands behind the slashes in front of the host of a file, which may be missing and
need not be named if it is the own one. -/
def readFileHost (rest : List Char) (query fragment : Option (List Char)) :
    Except AddressError Address := do
  let host := rest.takeWhile fun c => !isSeparator true c
  let path := rest.dropWhile fun c => !isSeparator true c
  let segments := if path.isEmpty then [[]] else (splitAtSeparators true path).tail
  let host ← if host.isEmpty then pure none
    else (some <$> hostText host).map fun host => host.filter (· != "localhost".toList)
  return ⟨"file".toList, host, none, pathFrom [] segments, query, fragment⟩

/-- Reads the part of an address behind its scheme. -/
def readBehindScheme (scheme rest : List Char) (query fragment : Option (List Char)) :
    Except AddressError Address :=
  if scheme = "file".toList then
    match rest with
    | a :: b :: behind =>
      if isSeparator true a && isSeparator true b then readFileHost behind query fragment
      else .ok ⟨scheme, none, none, pathFrom [] (splitAtSeparators true (trimOne rest)), query,
        fragment⟩
    | _ => .ok ⟨scheme, none, none, pathFrom [] (splitAtSeparators true (trimOne rest)), query,
        fragment⟩
  else if isWeb scheme then
    readAuthority scheme (rest.dropWhile (isSeparator true)) query fragment
  else
    match rest with
    | '/' :: '/' :: rest => readAuthority scheme rest query fragment
    | '/' :: rest =>
      .ok ⟨scheme, none, none, pathFrom [] (splitAtSeparators false rest), query, fragment⟩
    | rest => .ok ⟨scheme, none, none, escape [] rest, query, fragment⟩
where
  /-- A path without the separator at its start. -/
  trimOne (path : List Char) : List Char :=
    if path.head?.any (isSeparator true) then path.tail else path

/-- The text of an address, its query and its fragment apart. -/
def splitTail (s : List Char) : List Char × Option (List Char) × Option (List Char) :=
  let (s, fragment) := cutAt '#' s
  let (s, query) := cutAt '?' s
  (s, query, fragment.map (escape fragmentSet))

/-- Reads an address that stands for itself. -/
def ofChars (text : List Char) : Except AddressError Address :=
  let (s, query, fragment) := splitTail (clean text)
  match scheme? s with
  | none => .error .noScheme
  | some (scheme, rest) =>
    readBehindScheme scheme rest (query.map (escape (querySet (isWeb scheme)))) fragment

def ofText (text : String) : Except AddressError Address := ofChars text.toList

/-- Reads a reference as seen from an address.  One with the scheme of that address but without a
host means what it would without the scheme. -/
def join (base : Address) (text : String) : Except AddressError Address :=
  let (s, query, fragment) := splitTail (clean text.toList)
  let query (scheme : List Char) := query.map (escape (querySet (isWeb scheme)))
  match scheme? s with
  | some (scheme, rest) =>
    if scheme == base.scheme && !"//".toList.isPrefixOf rest then
      fromBase rest (query scheme) fragment
    else readBehindScheme scheme rest (query scheme) fragment
  | none => fromBase s (query base.scheme) fragment
where
  /-- A host or a path seen from the base. -/
  fromBase (s : List Char) (query fragment : Option (List Char)) : Except AddressError Address :=
    match s with
    | a :: b :: rest =>
      if isSeparator true a && isSeparator true b then
        readAuthority base.scheme (rest.dropWhile (isSeparator true)) query fragment
      else .ok (below s query fragment)
    | _ => .ok (below s query fragment)
  /-- A path seen from the base. -/
  below (s : List Char) (query fragment : Option (List Char)) : Address :=
    match s with
    | [] => { base with query := query.or base.query, fragment }
    | c :: rest =>
      let path :=
        if isSeparator true c then pathFrom [] (splitAtSeparators true rest)
        else pathFrom (directoryOf base.path) (splitAtSeparators true s)
      { base with path, query, fragment }

/-! ## Writing -/

def chars (a : Address) : List Char :=
  let authority := match a.host with
    | none => if a.scheme == "file".toList then "//".toList else []
    | some host => "//".toList ++ host ++
        (a.port.map fun n => ':' :: Nat.toDigits 10 n).getD []
  a.scheme ++ ':' :: authority ++ a.path ++ (a.query.map ('?' :: ·)).getD [] ++
    (a.fragment.map ('#' :: ·)).getD []

def text (a : Address) : String := String.ofList a.chars

end Address

end KubectlMatch.Http
