import ArtifactCache.Document.Shelf
import ArtifactCache.Search

/-!
Reading documents through a shelf: a living document is returned as it is;
otherwise the content is retrieved, parsed and put on the shelf.
-/
namespace ArtifactCache

/-- Turns content into documents, and says where a document belongs. -/
structure DocumentParser (K D : Type) where
  parse : K → Location → Bytes → Except Failure D
  key : D → K
  location : D → Location

/-- The state of a cache and of the shelf beside it. -/
structure ReadingRoom (S K D : Type) where
  world : World S
  shelf : Shelf K D := {}

namespace ReadingRoom
variable {S K D α : Type}

/-- An action on the cache, in the reading room. -/
def act (p : Action S α) : Program (ReadingRoom S K D) α :=
  p.within (·.world) fun world room => { room with world }

def onShelf (f : Shelf K D → α × Shelf K D) : Program (ReadingRoom S K D) α :=
  Program.change fun room =>
    let (answer, shelf) := f room.shelf
    (answer, { room with shelf })

end ReadingRoom

structure DocumentReader (S R W K D : Type) where
  cache : Cache S R W
  supplier : Supplier S (Handle S R W)
  parser : DocumentParser K D

namespace DocumentReader
open ReadingRoom
variable {S R W K D : Type} [DecidableEq K] (reader : DocumentReader S R W K D)

/-- Puts a document where its parser says it belongs. -/
def shelve (d : Document D) : Program (ReadingRoom S K D) Unit :=
  onShelf fun s => ((), s.put (reader.parser.key d.value) (reader.parser.location d.value) d)

/-- The document at the handle, which the caller then holds; `none` where
there is no content. -/
def parse (t : Thread) (key : K) (h : Handle S R W) :
    Program (ReadingRoom S K D) (Except Failure (Option (Document D))) := do
  match ← act (h.openInput t true ∅) with
  | .error e => return .error e
  | .ok none => return .ok none
  | .ok (some input) =>
    let (bytes, input) ← act (input.read reader.cache none)
    let parsed : Except Failure D := match bytes with
      | .error fault => .error (.io fault)
      | .ok bytes => reader.parser.parse key h.resource.location bytes
    act (input.close reader.cache)
    match parsed with
    | .error e => return .error e
    | .ok value =>
      let d ← onShelf (Shelf.make value)
      act (Action.say .debug .documents ("parsed and cached document from " ++ h.display))
      reader.shelve d
      return .ok (some d)

/-- The document of the first location that has one. -/
def readFirst (t : Thread) (key : K) (path : String) (locations : List Location) :
    Program (ReadingRoom S K D) (Except Failure (Option (Document D))) := do
  match ← onShelf (Shelf.getFirst key locations) with
  | some d => return .ok (some d)
  | none =>
    match Spread.ofText? locations path with
    | none => return .error (.invalidResource (.noLocations path))
    | some spread =>
      match ← act (Search.retrieveFirst reader.supplier spread ∅) with
      | .error e => return .error e
      | .ok none => return .ok none
      | .ok (some h) => reader.parse t key h

/-- Parses what the handles have, one after the other. Documents that are
already parsed are given back when a later one fails. -/
def parseAll (t : Thread) (key : K) :
    List (Handle S R W) →
    Program (ReadingRoom S K D) (Except Failure (List (Location × Document D)))
  | [] => return .ok []
  | h :: rest => do
    match ← reader.parse t key h with
    | .error e => return .error e
    | .ok found =>
      match ← parseAll t key rest with
      | .error e =>
        onShelf fun s => ((), s.release found.toList)
        return .error e
      | .ok others => return .ok ((found.map (h.resource.location, ·)).toList ++ others)

/-- The document of a location in a list of findings. -/
def findFor (found : List (Location × Document D)) (l : Location) :
    Option (Location × Document D) :=
  found.find? fun (other, _) => other.same l

/-- The documents of every location that has one, in the order of the
locations. Where a document is alive, nothing is retrieved. -/
def readAll (t : Thread) (key : K) (path : String) (locations : List Location) :
    Program (ReadingRoom S K D) (Except Failure (List (Location × Document D))) := do
  let alive ← onShelf (Shelf.getAll key locations)
  let missing := locations.filter fun l => (findFor alive l).isNone
  let parsed ← match Spread.ofText? missing path with
    | none => pure (.ok [])
    | some spread =>
      match ← act (Search.retrieveAll reader.supplier spread ∅) with
      | .error e => pure (.error e)
      | .ok handles => reader.parseAll t key handles
  match parsed with
  | .error e =>
    onShelf fun s => ((), s.release (alive.map (·.2)))
    return .error e
  | .ok parsed =>
    let all := locations.filterMap (findFor (alive ++ parsed))
    onShelf fun s =>
      ((), (all.foldl (fun s found => s.hold found.2) s).release ((alive ++ parsed).map (·.2)))
    return .ok all

end DocumentReader
end ArtifactCache
