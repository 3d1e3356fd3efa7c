import ArtifactCache.Backend
import ArtifactCache.Disk.Buffered
import ArtifactCache.Location.DirectoryName
import ArtifactCache.Text.Ascending

/-!
The store on disk: one file per resource, below a directory per location.
Nothing else is kept; what is stored is what is found there.
-/
namespace ArtifactCache

structure Files where
  root : String
  /-- Aliases are hard links rather than copies. -/
  linking : Bool := false
  /-- The size that the file system reports for the directory at a place. -/
  directorySize : Disk → Place → Nat := fun _ _ => 4096

namespace Files

/-- The place of a resource: root, directory of the location, segments. -/
def placeOf (f : Files) (r : Resource) : Place :=
  { base := f.root, below := Location.directoryName r.location.uri :: r.path.segments }

def fail (activity : Activity) (p : Place) (fault : Fault) : Failure :=
  .storage activity p.text fault

/-- A call whose fault is reported for a place. -/
def reporting {α : Type} (activity : Activity) (p : Place) (outcome : Except Fault α × Disk) :
    Except Failure α × Disk :=
  match outcome with
  | (.ok a, d) => (.ok a, d)
  | (.error fault, d) => (.error (fail activity p fault), d)

/-- Goes on once the directory above a place is there. -/
def withParent {α : Type} (activity : Activity) (p : Place) (d : Disk)
    (go : Disk → Except Failure α × Disk) : Except Failure α × Disk :=
  match p.parent? with
  | none => go d
  | some above =>
    if d.isDirectory above then go d
    else match d.makeDirectories above with
      | (.error fault, d) => (.error (fail activity above fault), d)
      | (.ok (), d) => go d

/-- Goes on once no file is at the place. -/
def replacing {α : Type} (activity : Activity) (p : Place) (d : Disk)
    (go : Disk → Except Failure α × Disk) : Except Failure α × Disk :=
  if d.isFile p then
    match d.removeFile p with
    | (.error fault, d) => (.error (fail activity p fault), d)
    | (.ok (), d) => go d
  else go d

def openReader (f : Files) (r : Resource) (d : Disk) : Except Failure (Option Disk.Reader) :=
  match d.stat (f.placeOf r) with
  | .ok .directory | .error .notFound => .ok none
  | .ok (.file n) => .ok (some { body := n })
  | .error fault => .error (fail .openInput (f.placeOf r) fault)

def openWriter (f : Files) (r : Resource) (d : Disk) : Except Failure Disk.Writer × Disk :=
  let p := f.placeOf r
  withParent .openOutput p d fun d =>
    match d.create p with
    | (.error fault, d) => (.error (fail .openOutput p fault), d)
    | (.ok n, d) => (.ok { body := n }, d)

/-- The target is removed first: it might be another name of the source. -/
def copy (f : Files) (source target : Resource) (d : Disk) : Except Failure Unit × Disk :=
  let p := f.placeOf source
  let q := f.placeOf target
  if p.same q then (.ok (), d)
  else withParent .copy q d fun d =>
    replacing .copy q d fun d => reporting .copy p (d.copyFile p q)

def delete (f : Files) (r : Resource) (d : Disk) : Except Failure Bool × Disk :=
  let p := f.placeOf r
  match if d.isDirectory p then d.removeDirectory p else d.removeFile p with
  | (.ok (), d) => (.ok true, d)
  | (.error .notFound, d) => (.ok false, d)
  | (.error fault, d) => (.error (fail .delete p fault), d)

def list (f : Files) (r : Resource) (d : Disk) : Except Failure (List String) :=
  match d.locate (f.placeOf r) with
  | .ok path =>
    .ok (if d.isDirectory (f.placeOf r) then
      Text.sorted ((d.children path).map (·.display)) else [])
  | .error _ => .ok []

def mkdirs (f : Files) (r : Resource) (d : Disk) : Except Failure Unit × Disk :=
  reporting .mkdirs (f.placeOf r) (d.makeDirectories (f.placeOf r))

def createFile (f : Files) (r : Resource) (d : Disk) : Except Failure Unit × Disk :=
  let p := f.placeOf r
  withParent .createFile p d fun d =>
    match d.openForWriting p with
    | (.error fault, d) => (.error (fail .createFile p fault), d)
    | (.ok _, d) => (.ok (), d)

/-- Links or copies. Nothing is done where source and target are the same, or
where the source is no file. -/
def createAlias (f : Files) (source target : Resource) (d : Disk) :
    (Except Failure Unit × List Line) × Disk :=
  let p := f.placeOf source
  let q := f.placeOf target
  if source.same target || !d.isFile p then ((.ok (), []), d)
  else if !f.linking then
    let (result, d) := f.copy source target d
    ((result, []), d)
  else
    let line : Line := ⟨.debug, .files, "hard-linking " ++ q.text ++ " to " ++ p.text⟩
    let (prepared, d) := withParent .createAlias q d fun d =>
      replacing .createAlias q d fun d => (.ok (), d)
    match prepared with
    | .error e => ((.error e, []), d)
    | .ok () =>
      let (result, d) := reporting .createAlias q (d.link p q)
      ((result, [line]), d)

/-- The path by which a walk from a resource opens what lies beneath it. -/
def wayTo (f : Files) (r : Resource) (beneath : List PathText) : PathText :=
  beneath.foldl .enter (f.placeOf r).path

/-- The paths of all files at or beneath a resource, in the order in which a walk
comes to them. A directory that cannot be opened ends the walk. -/
def walk (f : Files) (r : Resource) (d : Disk) : Except Failure (List String) :=
  match d.locate (f.placeOf r) with
  | .error _ => .ok []
  | .ok path =>
    if d.isPresent (f.placeOf r) then
      let beneath (found : List PathText) := found.drop path.length
      let (directories, files) := (d.visit path).partition fun found =>
        d.node? found = some .directory
      let ways := directories.map fun found => f.wayTo r (beneath found)
      match ways.find? fun way => Disk.maxPath < way.size with
      | some way => .error (.storage .walk way.display (.tooLongBelow way.display))
      | none => .ok (files.map fun found =>
          PathText.joined (r.path.segments.map .text ++ beneath found))
    else .ok []

def length (f : Files) (r : Resource) (d : Disk) : Nat :=
  match d.stat (f.placeOf r) with
  | .ok (.file n) => (d.body n).length
  | .ok .directory => f.directorySize d (f.placeOf r)
  | .error _ => 0

/-- The store as a backend. -/
def backend (f : Files) : Backend Disk Disk.Reader Disk.Writer where
  isFile r d := d.isFile (f.placeOf r)
  isDirectory r d := d.isDirectory (f.placeOf r)
  present r d := d.isPresent (f.placeOf r)
  length := f.length
  isDated r d := d.isPresent (f.placeOf r)
  place r := (f.placeOf r).text
  openReader := f.openReader
  read reader limit d := reader.read limit d
  openWriter := f.openWriter
  write w bytes d := w.write bytes d
  flush w d := w.flush d
  closeWriter w d := (w.flush d).2
  copy := f.copy
  delete := f.delete
  list := f.list
  mkdirs := f.mkdirs
  createFile := f.createFile
  createAlias := f.createAlias

end Files
end ArtifactCache
