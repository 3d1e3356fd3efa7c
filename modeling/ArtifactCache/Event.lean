import ArtifactCache.Failure

/-!
Events tell what happened to a resource: it was read, written, deleted, or
an operation on it failed. They carry the metadata of the caller.
-/
namespace ArtifactCache

/-- Pairs of a key and a value in ascending order of the keys. -/
structure Metadata where
  pairs : List (String × String) := []
  deriving DecidableEq, Repr

namespace Metadata

instance : EmptyCollection Metadata := ⟨{}⟩

/-- Sets the value of a key, in place of the one it had. -/
def insert (m : Metadata) (key value : String) : Metadata :=
  ⟨place m.pairs⟩
where
  place : List (String × String) → List (String × String)
    | [] => [(key, value)]
    | (k, v) :: rest =>
      if key < k then (key, value) :: (k, v) :: rest
      else if key = k then (key, value) :: rest
      else (k, v) :: place rest

def ofPairs (pairs : List (String × String)) : Metadata :=
  pairs.foldl (fun m (k, v) => m.insert k v) ∅

end Metadata

/-- Why content is written. -/
inductive Purpose
  | download | upload | listing | generate
  deriving DecidableEq, Repr

def Purpose.label : Purpose → String
  | .download => "download"
  | .upload => "upload"
  | .listing => "listing"
  | .generate => "generate"

inductive Event
  | access (resource : Resource) (metadata : Metadata)
  | storage (resource : Resource) (purpose : Purpose) (metadata : Metadata)
  | deletion (resource : Resource) (metadata : Metadata)
  | error (resource : Resource) (message : String) (metadata : Metadata)
  deriving DecidableEq

namespace Event

def resource : Event → Resource
  | access r _ | storage r _ _ | deletion r _ | error r _ _ => r

def metadata : Event → Metadata
  | access _ m | storage _ _ m | deletion _ m | error _ _ m => m

def kind : Event → String
  | access .. => "access"
  | storage .. => "storage"
  | deletion .. => "deletion"
  | error .. => "error"

def display : Event → String
  | storage r purpose _ => "storage (" ++ purpose.label ++ ") " ++ r.display
  | error r message _ => "error " ++ r.display ++ ": " ++ message
  | event => event.kind ++ " " ++ event.resource.display

end Event
end ArtifactCache
