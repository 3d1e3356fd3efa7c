import ArtifactCache.Disk.Basic
import ArtifactCache.Endpoint
import ArtifactCache.Uri.Basic

/-!
The endpoint of locations that are directories of this machine: the URI names
the directory, and a resource is the file at its path below. A location of
another scheme has nothing and takes nothing.
-/
namespace ArtifactCache.Endpoint

/-- The place of a resource below the directory of its location. -/
def placeOf? (r : Resource) (uris : UriReader := {}) : Except Failure (Option Place) :=
  match uris.parse r.location.uri with
  | .error why => .error (.uri why)
  | .ok uri =>
    if uri.scheme ≠ "file" then .ok none
    else match uris.localPath? uri with
      | none => .error (.endpoint r.location.name (.notLocal r.location.uri))
      | some base => .ok (some { base := .ofBytes base, below := r.path.segments })

def otherScheme (r : Resource) : Line :=
  ⟨.debug, .endpoint, "no file transport for " ++ r.location.uri⟩

def fetchFile (uris : UriReader) (r : Resource) (d : Disk) :
    Except Failure (Option (Source Disk)) × List Line :=
  match placeOf? r uris with
  | .error e => (.error e, [])
  | .ok none => (.ok none, [otherScheme r])
  | .ok (some p) =>
    match d.stat p with
    | .ok (.file n) =>
      (.ok (some fun d => { bytes := d.body n }),
        [⟨.debug, .endpoint, "fetching " ++ r.display ++ " from " ++ p.text⟩])
    | _ => (.ok none, [])

/-- Writes the content to the place, and makes the directories above it. -/
def publishFile (r : Resource) (p : Place) (source : Source Disk) (length : Nat)
    (contentType : String) (d : Disk) : (Except Failure Bool × List Line) × Disk :=
  let fail (fault : Fault) : Except Failure Bool × List Line :=
    (.error (.endpoint r.location.name (.publishFailed p.text fault)), [])
  match p.parent?.elim (.ok (), d) fun above => d.makeDirectories above with
  | (.error fault, d) => (fail fault, d)
  | (.ok (), d) =>
    match d.create p with
    | (.error fault, d) => (fail fault, d)
    | (.ok n, d) =>
      let content := source d
      let d := d.setBody n content.bytes
      match content.fault? with
      | some fault => (fail fault, d)
      | none => ((.ok true, [⟨.debug, .endpoint, "published " ++ r.display ++ " (" ++
          toString content.bytes.length ++ " of " ++ toString length ++ " bytes, " ++
          contentType ++ ")"⟩]), d)

def directories (uris : UriReader := {}) : Endpoint Disk where
  fetch := fetchFile uris
  publish r source length contentType d :=
    match placeOf? r uris with
    | .error e => ((.error e, []), d)
    | .ok none => ((.ok false, [otherScheme r]), d)
    | .ok (some p) =>
      if r.isRoot then ((.ok false, []), d)
      else publishFile r p source length contentType d

/-- The same endpoint where `S` is a part of a larger state. -/
def within {S T : Type} (e : Endpoint S) (get : T → S) (set : S → T → T) : Endpoint T where
  fetch r t :=
    let (found, lines) := e.fetch r (get t)
    (found.map (·.map fun source t => source (get t)), lines)
  publish r source length contentType t :=
    let (answer, s) := e.publish r (fun s => source (set s t)) length contentType (get t)
    (answer, set s t)

end ArtifactCache.Endpoint
