import ArtifactCache.Location
import ArtifactCache.Path

/-!
What the cache addresses: one path in one location, and one path spread over
an ordered list of locations.
-/
namespace ArtifactCache

/-- The identity of a resource. Stores and locks know nothing else of it. -/
structure Address where
  uri : String
  path : Path
  deriving DecidableEq

namespace Address

/-- `d` lies strictly above `a` in the same location. -/
def isAbove (d a : Address) : Bool := d.uri = a.uri && d.path.isAbove a.path

/-- The same as the texts of the paths show it. -/
def textIsAbove (d a : Address) : Bool := d.uri = a.uri && d.path.textIsAbove a.path

def parent (a : Address) : Address := { a with path := a.path.parent }

end Address

structure Resource where
  location : Location
  path : Path
  deriving DecidableEq

namespace Resource

/-- The resource that a text names in a location. -/
def ofText (location : Location) (text : String) : Resource := ⟨location, .ofText text⟩

def root (location : Location) : Resource := ⟨location, .root⟩

/-- The resource below the root that is reached part by part. -/
def ofParts (location : Location) (parts : List String) : Resource :=
  ⟨location, parts.foldl Path.child .root⟩

def address (r : Resource) : Address := ⟨r.location.uri, r.path⟩

/-- Resources are the same when location URI and path are. -/
def same (a b : Resource) : Bool := a.address = b.address

def isRoot (r : Resource) : Bool := r.path.isRoot

def fileName (r : Resource) : Option String := r.path.fileName

def parent (r : Resource) : Resource := { r with path := r.path.parent }

def child (r : Resource) (name : String) : Resource := { r with path := r.path.child name }

/-- Appends to the last segment rather than adding one. The root has none. -/
def withSuffix (r : Resource) (suffix : String) : Option Resource :=
  if r.isRoot then none else some (ofText r.location (r.path.text ++ suffix))

def display (r : Resource) : String := r.location.name ++ ":/" ++ r.path.text

/-- The resources above `r`, nearest first, down to and with the root. The
root stands above itself. -/
def ancestors (r : Resource) : List Resource :=
  climb r.path.segments.length r
where
  climb : Nat → Resource → List Resource
    | 0, r => [r.parent]
    | n + 1, r => if r.parent.isRoot then [r.parent] else r.parent :: climb n r.parent

end Resource

/-- One path in several locations. There is at least one, and their order is
the order of every search. -/
structure Spread where
  locations : List Location
  path : Path
  inhabited : locations ≠ []

namespace Spread

def ofText? (locations : List Location) (text : String) : Option Spread :=
  if h : locations = [] then none else some ⟨locations, .ofText text, h⟩

/-- One resource per location, in order. -/
def resources (s : Spread) : List Resource := s.locations.map (⟨·, s.path⟩)

def display (s : Spread) : String :=
  "[" ++ ", ".intercalate (s.locations.map (·.name)) ++ "]:/" ++ s.path.text

end Spread
end ArtifactCache
