/-!
Repository locations. A location is identified by its URI alone; its name,
its priority and what it allows are attributes.
-/
namespace ArtifactCache

structure Location where
  name : String
  uri : String
  /-- Informational: nothing is ever reordered by it. -/
  priority : Int := 0
  /-- New content may be stored here. -/
  acceptsStores : Bool := false
  /-- Missing content may be fetched into this location. -/
  downloads : Bool := true
  deriving DecidableEq, Repr

namespace Location

/-- The location that stands for the group `name`. It never downloads. -/
def group (name : String) : Location :=
  { name, uri := "group:" ++ name, downloads := false }

/-- A location stands for a group when its URI has the scheme `group`. -/
def isGroup (l : Location) : Bool := "group:".toList.isPrefixOf l.uri.toList

/-- Two locations are the same endpoint when their URIs are equal. -/
def same (a b : Location) : Bool := a.uri = b.uri

/-- The locations with each URI at its first place only. -/
def distinct : List Location → List Location
  | [] => []
  | l :: rest => l :: (distinct rest).filter fun other => !l.same other

end Location
end ArtifactCache
