import ArtifactCache.Groups
import ArtifactCache.Search

/-!
Content by the locations that a caller names, groups included, and the text
of a path. Each operation expands the locations and searches.
-/
namespace ArtifactCache

structure Catalog (S H : Type) where
  supplier : Supplier S H
  expansion : Expansion

namespace Catalog
variable {S H α : Type} (c : Catalog S H)

/-- Goes on with the path over the expanded locations. -/
def spreading (locations : List Location) (path : String)
    (go : Spread → Action S (Except Failure α)) : Action S (Except Failure α) :=
  match c.expansion.spread locations path with
  | .error e => return .error e
  | .ok spread => go spread

def retrieveFirst (locations : List Location) (path : String) (m : Metadata) :
    Action S (Except Failure (Option H)) :=
  c.spreading locations path fun spread => Search.retrieveFirst c.supplier spread m

def retrieve (l : Location) (path : String) (m : Metadata) :
    Action S (Except Failure (Option H)) :=
  c.retrieveFirst [l] path m

def retrieveAll (locations : List Location) (path : String) (m : Metadata) :
    Action S (Except Failure (List H)) :=
  c.spreading locations path fun spread => Search.retrieveAll c.supplier spread m

def deleteReport (locations : List Location) (path : String) (m : Metadata) :
    Action S (Except Failure DeleteReport) :=
  c.spreading locations path fun spread => do
    return .ok (← Search.deleteAll c.supplier spread m)

/-- Deletes the path at every location; `false` if one of them failed. -/
def deleteAll (locations : List Location) (path : String) (m : Metadata) :
    Action S (Except Failure Bool) := do
  return (← c.deleteReport locations path m).map (·.allSucceeded)

def delete (l : Location) (path : String) (m : Metadata) : Action S (Except Failure Bool) :=
  c.deleteAll [l] path m

/-- Stores at the first location that accepts stores. -/
def store (l : Location) (path : String) (source : Source S) (m : Metadata) :
    Action S (Except Failure H) :=
  c.spreading [l] path fun spread => Search.store c.supplier spread source m

/-- Publishes to the endpoint of the first location that accepts stores. -/
def publish (l : Location) (path : String) (source : Source S) (length : Nat)
    (contentType : String) : Action S (Except Failure Bool) :=
  c.spreading [l] path fun spread =>
    match Search.storageTarget? spread with
    | none => return .error (.noStorageLocation spread.display)
    | some target => do
      Action.say .debug .catalog ("publishing " ++ target.display ++ " (" ++ contentType ++ ")")
      c.supplier.publish target source length contentType

/-- The children of the path at every location, in order. -/
def list (l : Location) (path : String) :
    Action S (Except Failure (List (Location × List String))) :=
  c.spreading [l] path fun spread => visit spread.resources
where
  visit : List Resource → Action S (Except Failure (List (Location × List String)))
    | [] => return .ok []
    | r :: rest => do
      match ← c.supplier.list r with
      | .error e => return .error e
      | .ok names => return (← visit rest).map ((r.location, names) :: ·)

end Catalog
end ArtifactCache
