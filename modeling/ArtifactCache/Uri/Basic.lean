import ArtifactCache.Uri.Address
import ArtifactCache.Uri.Domain
import ArtifactCache.Uri.FilePath

/-!
Absolute URIs as far as a location needs them: whether a text is one, its
scheme, and the directory of this machine that it names, if it has the scheme
`file`.
-/
namespace ArtifactCache

inductive Uri.Host
  | domain (name : List Char)
  | ipv4
  | ipv6
  deriving DecidableEq, Repr

structure Uri where
  /-- In lower case. -/
  scheme : String
  host? : Option Uri.Host := none
  /-- Of a `file` URI only. -/
  path : Uri.FilePath := {}

namespace Uri

/-- The schemes whose authority needs a host. -/
def webSchemes : List String := ["http", "https", "ws", "wss", "ftp"]

/-- Controls and spaces around a URI do not belong to it. -/
def trim (text : String) : List Char :=
  let blank (c : Char) : Bool := c.toNat ≤ 0x20
  ((text.toList.dropWhile blank).reverse.dropWhile blank).reverse

def isSchemeChar (c : Char) : Bool := c.isAlphanum || c = '+' || c = '-' || c = '.'

/-- The scheme, which begins with a letter, and what follows its colon. -/
def splitScheme? (cs : List Char) : Option (String × List Char) :=
  let scheme := cs.takeWhile isSchemeChar
  match cs.drop scheme.length with
  | ':' :: rest =>
    if scheme.head?.any Char.isAlpha then some (String.ofList (scheme.map Char.toLower), rest)
    else none
  | _ => none

def endsAuthority (web : Bool) (c : Char) : Bool :=
  c = '/' || c = '?' || c = '#' || (web && c = '\\')

/-- The user part of an authority up to the last `@`, and what follows it. -/
def splitUser (authority : List Char) : Option (List Char) × List Char :=
  let host := (authority.reverse.takeWhile (· ≠ '@')).reverse
  if host.length < authority.length then
    (some (authority.take (authority.length - host.length - 1)), host)
  else (none, authority)

/-- The host up to the first colon that is not between brackets, and the rest. -/
def splitHost (bracketed : Bool) : List Char → List Char × List Char
  | [] => ([], [])
  | c :: rest =>
    if c = ':' && !bracketed then ([], c :: rest)
    else
      let bracketed := if c = '[' then true else if c = ']' then false else bracketed
      let (host, port) := splitHost bracketed rest
      (c :: host, port)

/-- The address between brackets. -/
def bracketedHost (host : List Char) : Except Fault Host :=
  if host.getLast? = some ']' && isIpv6 (host.drop 1).dropLast then .ok .ipv6
  else .error .invalidIpv6

/-- The host of a web or `file` URI. -/
def webHost (host : List Char) : Except Fault Host :=
  if host.head? = some '[' then bracketedHost host
  else match Domain.ofText? host with
    | none => .error .invalidDomain
    | some [] => .error .emptyHost
    | some name =>
      if endsInNumber name then if isIpv4 name then .ok .ipv4 else .error .invalidIpv4
      else .ok (.domain name)

/-- The host of a URI of another scheme, which is taken as it stands. -/
def plainHost (host : List Char) : Except Fault Host :=
  if host.head? = some '[' then bracketedHost host
  else if host.any fun c => "\x00\t\n\r #/:<>?@[\\]^|".toList.contains c then
    .error .invalidHostCharacter
  else .ok (.domain host)

/-- A decimal number of sixteen bits, or nothing. -/
def isPort (cs : List Char) : Bool :=
  cs.all Char.isDigit && (Text.digitsIn 10 cs).any (· ≤ 65535)

/-- A user part that leaves something before the `@`. -/
def userCounts (user : List Char) : Bool := user ≠ [] && user ≠ [':']

/-- The host of an authority, after its user and before its port. -/
def authority (web : Bool) (cs : List Char) : Except Fault Host := do
  let text := cs.takeWhile fun c => !endsAuthority web c
  let (user?, rest) := splitUser text
  if user? = some [] && rest = [] && text.length < cs.length then throw .emptyHost
  let (host, port) := splitHost false rest
  if web && host = [] then throw .emptyHost
  let parsed ← if web then webHost host else plainHost host
  if parsed = .domain [] && (port ≠ [] || user?.any userCounts) then throw .emptyHost
  if isPort ((port.drop 1).takeWhile (· ≠ '\\')) then return parsed else throw .invalidPort

/-- What follows the scheme `file`. A drive letter is never a host, and the
host `localhost` is none. -/
def file (cs : List Char) : Except Fault Uri := do
  let pathOnly (text : List Char) : Uri := { scheme := "file", path := .ofText text }
  let behindSlash (text : List Char) : Option (List Char) :=
    match text.dropWhile isIgnored with
    | c :: rest => if isSlash c then some rest else none
    | [] => none
  match behindSlash cs, (behindSlash cs).bind behindSlash with
  | none, _ => return pathOnly cs
  | some path, none => return pathOnly path
  | some _, some rest =>
    let text := rest.takeWhile fun c => !endsAuthority true c
    let host := text.filter (!isIgnored ·)
    let behind := rest.drop text.length
    if isDriveLetter host then return pathOnly rest
    else if host = [] then return pathOnly behind
    else
      let parsed ← webHost host
      if parsed = .domain "localhost".toList then return pathOnly behind
      else
        let path := FilePath.ofText ((behindSlash behind).getD behind)
        return { scheme := "file", host? := if path.hostless then none else some parsed, path }

/-- Reads an absolute URI. -/
def parse (text : String) : Except Fault Uri :=
  let trimmed := trim text
  let cs := trimmed.filter (!isIgnored ·)
  match splitScheme? cs with
  | none => .error .relativeWithoutBase
  | some (scheme, rest) =>
    if scheme = "file" then file ((trimmed.dropWhile (· ≠ ':')).drop 1)
    else if webSchemes.contains scheme then do
      let host ← authority true (rest.dropWhile isSlash)
      return { scheme, host? := some host }
    else if rest.take 2 = ['/', '/'] then do
      let host ← authority false (rest.drop 2)
      return { scheme, host? := if host = .domain [] then none else some host }
    else .ok { scheme }

/-- The local path that a `file` URI names. -/
def localPath? (uri : Uri) : Option Bytes :=
  if uri.scheme = "file" && uri.host?.isNone then some uri.path.decode else none

end Uri

/-- What is asked of a library that reads URIs. -/
structure UriReader where
  parse : String → Except Uri.Fault Uri := Uri.parse
  localPath? : Uri → Option Bytes := Uri.localPath?

end ArtifactCache
