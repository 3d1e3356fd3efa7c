import ArtifactCache.Bytes
import ArtifactCache.Text.Pieces

/-!
Paths, and the names on them, as the operating system keeps them. Any bytes
will do, and nearly always they are text.
-/
namespace ArtifactCache

inductive PathText
  | text (s : String)
  /-- Bytes that are no text. -/
  | raw (b : Bytes)
  deriving DecidableEq, Repr

namespace PathText

instance : Coe String PathText := ⟨.text⟩

def ofBytes (b : Bytes) : PathText := (b.toText?.map .text).getD (.raw b)

def bytes : PathText → Bytes
  | .text s => Bytes.ofText s
  | .raw b => b

/-- As it is shown. -/
def display : PathText → String
  | .text s => s
  | .raw b => b.display

def size : PathText → Nat
  | .text s => s.utf8ByteSize
  | .raw b => b.length

def hasNul : PathText → Bool
  | .text s => s.toList.contains '\x00'
  | .raw b => b.contains 0

/-- The pieces between the slashes. -/
def pieces : PathText → List PathText
  | .text s => (Text.split '/' s.toList).map fun piece => .text (String.ofList piece)
  | .raw b => (Text.split 47 b).map ofBytes

/-- Whether the first comes before the second in the order of the bytes. -/
def precedes : PathText → PathText → Bool
  | .text s, .text t => s < t
  | p, q => p.bytes < q.bytes

/-- Names in ascending order. -/
def sorted (names : List PathText) : List PathText := names.mergeSort fun a b => !b.precedes a

/-! ## The end of a path

A path may end in slashes and in the name `.`, which lead no further. -/

section
variable {α : Type} [DecidableEq α] (slash dot : α)

/-- Drops the slashes and dots that a reversed path begins with. -/
def trim : List α → List α
  | [] => []
  | [a] => if a = slash then [] else [a]
  | a :: b :: rest =>
    if a = slash || (a = dot && b = slash) then trim (b :: rest) else a :: b :: rest

/-- A path without the slashes and dots at its end; the root keeps its slash. -/
def tidyList (path : List α) : List α :=
  let kept := (trim slash dot path.reverse).reverse
  if kept = [] && path.head? = some slash then [slash] else kept

/-- A path without its last name. Neither the root nor the empty path has one. -/
def parentList? (path : List α) : Option (List α) :=
  match trim slash dot path.reverse with
  | [] => none
  | kept => some (tidyList slash dot (kept.dropWhile (· ≠ slash)).reverse)

end

def tidy : PathText → PathText
  | .text s => .text (String.ofList (tidyList '/' '.' s.toList))
  | .raw b => ofBytes (tidyList 47 46 b)

def parent? : PathText → Option PathText
  | .text s => (parentList? '/' '.' s.toList).map fun path => .text (String.ofList path)
  | .raw b => (parentList? 47 46 b).map ofBytes

def isAbsolute : PathText → Bool
  | .text s => s.toList.head? = some '/'
  | .raw b => b.head? = some 47

def endsInSlash : PathText → Bool
  | .text s => s.toList.getLast? = some '/'
  | .raw b => b.getLast? = some 47

/-- One name behind a text, with a slash between them where none is. -/
def pushName (path name : String) : String :=
  if path = "" || path.toList.getLast? = some '/' then path ++ name else path ++ "/" ++ name

/-- The same for bytes. -/
def pushBytes (path name : Bytes) : Bytes :=
  if path = [] || path.getLast? = some 47 then path ++ name else path ++ 47 :: name

def push (path : PathText) (name : String) : PathText :=
  match path with
  | .text s => .text (pushName s name)
  | .raw b => .raw (pushBytes b (Bytes.ofText name))

/-- One name of any kind behind a path. -/
def enter (path : PathText) : PathText → PathText
  | .text s => path.push s
  | .raw b => .raw (pushBytes path.bytes b)

/-- A path of names, with slashes between them. -/
def joined (path : List PathText) : String := "/".intercalate (path.map display)

end PathText
end ArtifactCache
