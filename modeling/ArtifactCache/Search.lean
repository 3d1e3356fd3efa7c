import ArtifactCache.Cache.Supply

/-!
Operations on one path in several locations. The locations are visited in the
order of the spread; nothing is reordered by priority. A failing location is
skipped when the first hit is wanted, ends a search for all hits, and is
recorded when the path is deleted everywhere.
-/
namespace ArtifactCache

/-- What became of the path at one location. -/
inductive DeleteOutcome
  | deleted
  /-- Nothing was stored there. -/
  | absent
  | failed (why : Failure)
  deriving DecidableEq

structure DeleteReport where
  outcomes : List (Resource × DeleteOutcome) := []

namespace DeleteReport

def deleted (report : DeleteReport) : List Resource :=
  (report.outcomes.filter fun (_, outcome) => outcome = .deleted).map (·.1)

def failures (report : DeleteReport) : List (Resource × Failure) :=
  report.outcomes.filterMap fun
    | (r, .failed why) => some (r, why)
    | _ => none

/-- No deletion failed; absence is success. -/
def allSucceeded (report : DeleteReport) : Bool := report.failures.isEmpty

def display (report : DeleteReport) : String :=
  toString report.deleted.length ++ " deleted, " ++ toString report.failures.length ++
    " failed of " ++ toString report.outcomes.length ++ " locations"

end DeleteReport

namespace Search
variable {S H : Type} (supplier : Supplier S H)

/-- The first hit. If there is none, the first failure on the way is returned. -/
def retrieveFirst (spread : Spread) (m : Metadata) : Action S (Except Failure (Option H)) :=
  visit none spread.resources
where
  visit (first? : Option Failure) : List Resource → Action S (Except Failure (Option H))
    | [] => return match first? with
      | some e => .error e
      | none => .ok none
    | r :: rest => do
      match ← supplier.retrieve r m with
      | .ok (some h) => return .ok (some h)
      | .ok none => visit first? rest
      | .error e =>
        Action.say .warn .search
          ("Failed to retrieve " ++ r.display ++ ", trying next location: " ++ e.message)
        visit (first?.or (some e)) rest

/-- Every hit, in order; the first failure ends the search. -/
def retrieveAll (spread : Spread) (m : Metadata) : Action S (Except Failure (List H)) :=
  visit spread.resources
where
  visit : List Resource → Action S (Except Failure (List H))
    | [] => return .ok []
    | r :: rest => do
      match ← supplier.retrieve r m with
      | .error e => return .error e
      | .ok found => return (← visit rest).map (found.toList ++ ·)

/-- Deletes the path at every location, whatever happens at the others. -/
def deleteAll (spread : Spread) (m : Metadata) : Action S DeleteReport := do
  let report : DeleteReport := ⟨← visit spread.resources⟩
  let failed := report.failures.length
  if 0 < failed then
    Action.say .debug .search (toString failed ++ " of " ++ toString report.outcomes.length ++
      " deletions failed for " ++ spread.display)
  return report
where
  visit : List Resource → Action S (List (Resource × DeleteOutcome))
    | [] => return []
    | r :: rest => do
      let outcome ← match ← supplier.delete r m with
        | .ok true => pure .deleted
        | .ok false => pure .absent
        | .error e =>
          Action.say .debug .search ("Failed to delete " ++ r.display ++ ": " ++ e.message)
          pure (.failed e)
      return (r, outcome) :: (← visit rest)

/-- The resource at the first location that accepts stores. -/
def storageTarget? (spread : Spread) : Option Resource :=
  (spread.locations.find? (·.acceptsStores)).map fun l => ⟨l, spread.path⟩

def store (spread : Spread) (source : Source S) (m : Metadata) : Action S (Except Failure H) :=
  match storageTarget? spread with
  | some target => supplier.store target source m
  | none => do
    Action.say .warn .search "Cannot store. No valid storage locations in group."
    return .error (.noStorageLocation spread.display)

end Search
end ArtifactCache
