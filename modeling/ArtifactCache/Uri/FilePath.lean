import ArtifactCache.Text.Pieces
import ArtifactCache.Uri.Percent

/-!
The path of a `file` URI. Dot segments are resolved, drive letters are never
left, and a path that begins with one belongs to no host.
-/
namespace ArtifactCache.Uri

/-- Tabs and line ends belong to no part of a URI. -/
def isIgnored (c : Char) : Bool := c = '\t' || c = '\n' || c = '\r'

def isSlash (c : Char) : Bool := c = '/' || c = '\\'

/-- One letter and a colon or bar. -/
def isDriveLetter (cs : List Char) : Bool :=
  match cs with
  | [a, b] => a.isAlpha && (b = ':' || b = '|')
  | _ => false

def isDot (segment : List Char) : Bool :=
  [".", "%2e"].contains (String.ofList segment).toLower

def isDoubleDot (segment : List Char) : Bool :=
  ["..", "%2e.", ".%2e", "%2e%2e"].contains (String.ofList segment).toLower

structure FilePath where
  /-- Percent-encoded. -/
  segments : List (List Char) := [[]]
  /-- It began with a drive letter, and so it has no host. -/
  hostless : Bool := false
  deriving DecidableEq, Repr

namespace FilePath

/-- A drive letter with a colon, and what follows it in the same segment, if
a tab or line end comes between them. -/
def splitDrive? (segment : List Char) : Option (List Char × List Char) :=
  match segment.filter (!isIgnored ·) with
  | a :: ':' :: c :: rest =>
    let behind := (segment.dropWhile (· ≠ ':')).drop 1
    if a.isAlpha && behind.head?.any isIgnored then some ([a, ':'], c :: rest) else none
  | _ => none

/-- The segments before the last one go, but not beyond a drive letter. -/
def leave (done : List (List Char)) : List (List Char) :=
  if done.head?.any isDriveLetter then done else done.drop 1

/-- Resolves the segments of a path. `done` holds the earlier ones, the latest
first. What follows a drive letter in its segment stays as it is. -/
def resolve (hostless : Bool) (done : List (List Char)) : List (List Char) → FilePath
  | [] => { segments := done.reverse, hostless }
  | raw :: rest =>
    let segment := raw.filter (!isIgnored ·)
    let enter (done : List (List Char)) := if rest = [] then [] :: done else done
    match if done = [] then splitDrive? raw else none with
    | some (drive, name) => resolve hostless [name, drive] rest
    | none =>
      if isDoubleDot segment then resolve hostless (enter (leave done)) rest
      else if isDot segment then resolve hostless (enter done) rest
      else if done = [] && isDriveLetter segment then
        resolve true [segment.take 1 ++ [':']] rest
      else resolve hostless (segment :: done) rest

/-- The path that a text begins with. Slashes lean either way, and those in
front count as one. -/
def ofText (text : List Char) : FilePath :=
  let path := (text.takeWhile fun c => c ≠ '?' && c ≠ '#').map fun c => if isSlash c then '/' else c
  let resolved := resolve false [] (Text.split '/' path)
  match resolved.segments.dropWhile (· = []) with
  | [] => { resolved with segments := [[]] }
  | segments => { resolved with segments }

/-- The local path that the segments name. A drive letter at the end keeps a
slash behind it. -/
def decode (path : FilePath) : Bytes :=
  let bytes := path.segments.flatMap fun segment => 47 :: percentDecode segment
  let isLetter (b : UInt8) : Bool := (Char.ofNat b.toNat).isAlpha
  match bytes.reverse with
  | last :: letter :: _ :: _ =>
    if isLetter letter && (last = 58 || last = 124) then bytes ++ [47] else bytes
  | _ => bytes

end FilePath
end ArtifactCache.Uri
