import ArtifactCache.Location
import ArtifactCache.Table

/-!
Documents that are kept as long as somebody holds them. The shelf remembers
the document put last for a key and a location; a document that nobody holds
any more is dead, and looking for it finds nothing and clears its place.
-/
namespace ArtifactCache

/-- One document among those that were made. Copies of it have the same number. -/
structure Document (D : Type) where
  number : Nat
  value : D

structure Shelf (K D : Type) where
  /-- The document for a key at the location with a URI. -/
  places : Table (K × String) (Document D) := ∅
  /-- The number of the next document. -/
  made : Nat := 0
  /-- The documents that are held, each as often as it is. -/
  held : List Nat := []

namespace Shelf
variable {K D : Type}

def isAlive (d : Document D) (s : Shelf K D) : Bool := s.held.contains d.number

/-- Makes a document of a value; whoever asked for it holds it. -/
def make (value : D) (s : Shelf K D) : Document D × Shelf K D :=
  (⟨s.made, value⟩, { s with made := s.made + 1, held := s.made :: s.held })

def hold (d : Document D) (s : Shelf K D) : Shelf K D := { s with held := d.number :: s.held }

/-- One holder of each of the documents less. -/
def release (ds : List (Document D)) (s : Shelf K D) : Shelf K D :=
  { s with held := ds.foldl (fun held d => held.erase d.number) s.held }

def size (s : Shelf K D) : Nat := s.places.size

variable [DecidableEq K]

/-- Puts a document at its place; what was there before is forgotten. -/
def put (key : K) (l : Location) (d : Document D) (s : Shelf K D) : Shelf K D :=
  { s with places := s.places.insert (key, l.uri) d }

/-- The living document at a place, which is then held once more. -/
def get (key : K) (l : Location) (s : Shelf K D) : Option (Document D) × Shelf K D :=
  match s.places.get? (key, l.uri) with
  | none => (none, s)
  | some d =>
    if s.isAlive d then (some d, s.hold d)
    else (none, { s with places := s.places.erase (key, l.uri) })

/-- The first living document for the key. -/
def getFirst (key : K) : List Location → Shelf K D → Option (Document D) × Shelf K D
  | [], s => (none, s)
  | l :: rest, s =>
    match s.get key l with
    | (some d, s) => (some d, s)
    | (none, s) => getFirst key rest s

/-- Every living document for the key, in the order of the locations. -/
def getAll (key : K) : List Location → Shelf K D → List (Location × Document D) × Shelf K D
  | [], s => ([], s)
  | l :: rest, s =>
    let (found, s) := s.get key l
    let (others, s) := getAll key rest s
    ((found.map (l, ·)).toList ++ others, s)

/-- Clears the places of all dead documents, and counts them. -/
def purge (s : Shelf K D) : Nat × Shelf K D :=
  let places := s.places.filter fun _ d => s.isAlive d
  (s.places.size - places.size, { s with places })

end Shelf
end ArtifactCache
