import ArtifactCache.Catalog
import ArtifactCache.CommandLine.Arguments
import ArtifactCache.CommandLine.Complaint
import ArtifactCache.Config
import ArtifactCache.Endpoint.Directories
import ArtifactCache.Files

/-!
The commands. Each works on a store of files, with the directories that the
locations name for endpoints, and says what it prints and what it complains of.
-/
namespace ArtifactCache.CommandLine

/-- The handles of the store of files. -/
abbrev FileHandle := Handle Disk Disk.Reader Disk.Writer

/-- A configuration, and the store that it is for. -/
structure Desk where
  config : Config
  files : Files
  uris : UriReader := {}

/-- What a command prints, and what it complains of in the end. -/
structure Result where
  printed : Bytes := []
  complaint? : Option Complaint := none

namespace Result

def lines (ls : List String) : Result := { printed := Bytes.ofText (String.join (ls.map (· ++ "\n"))) }

def complain (message : String) : Result := { complaint? := some { message } }

def failed (e : Failure) : Result := { complaint? := some (.ofFailure e) }

end Result

namespace Desk
variable (desk : Desk)

def cache : Cache Disk Disk.Reader Disk.Writer :=
  { backend := desk.files.backend, listener := .logging, endpoint? := some (Endpoint.directories desk.uris) }

/-- The catalog as the only thread uses it. -/
def catalog : Catalog Disk FileHandle :=
  { supplier := desk.cache.supplier 0, expansion := .groups desk.config.groupTable }

/-- The metadata of events that a command causes on purpose. -/
def metadata : Metadata := .ofPairs [("source", "cli")]

/-- Goes on with the location of a name. -/
def withLocation (name : String) (go : Location → Action Disk Result) : Action Disk Result :=
  match desk.config.location? name with
  | some l => go l
  | none => return .complain ("Unknown location '" ++ name ++ "'. Known locations: " ++
      ", ".intercalate desk.config.names)

def notFound (path : String) (l : Location) : String := "Not found: " ++ path ++ " in " ++ l.name

/-- Reads everything, and hands it on before the reader is closed. -/
def copyOut (input : Handle.Input Disk.Reader) (deliver : Bytes → Action Disk Result) :
    Action Disk Result := do
  match ← input.read desk.cache none with
  | (.ok bytes, input) =>
    let result ← deliver bytes
    input.close desk.cache
    return result
  | (.error fault, input) =>
    input.close desk.cache
    return .complain fault.message

/-- Puts content into a file of its own. -/
def writeOut (output : String) (input : Handle.Input Disk.Reader) : Action Disk Result := do
  let p : Place := { base := output }
  match ← Action.alter fun d => d.create p with
  | .error fault =>
    input.close desk.cache
    return { complaint? := some (.ofFault ("Failed to create " ++ output) fault) }
  | .ok body => desk.copyOut input fun bytes => do
    Action.alter fun d => ((), d.setBody body bytes)
    return {}

def getAll (l : Location) (path : String) : Action Disk Result := do
  match ← desk.catalog.retrieveAll [l] path ∅ with
  | .error e => return .failed e
  | .ok [] => return .complain (notFound path l)
  | .ok found => return .lines (found.map fun h => h.resource.location.name ++ "\t" ++ h.place)

def get (l : Location) (path : String) (output? : Option String) : Action Disk Result := do
  match ← desk.catalog.retrieve l path ∅ with
  | .error e => return .failed e
  | .ok none => return .complain (notFound path l)
  | .ok (some h) =>
    match ← h.openInput 0 true ∅ with
    | .error e => return .failed e
    | .ok none => return .complain (h.display ++ " is not a file")
    | .ok (some input) =>
      match output? with
      | some output => desk.writeOut output input
      | none => desk.copyOut input fun printed => return { printed }

/-- What a file yields when it is read; a directory can be opened too, but not read. -/
def openFile (path : String) (d : Disk) : Except Fault (Source Disk) :=
  match d.stat { base := path } with
  | .error fault => .error fault
  | .ok .directory => .ok fun _ => { bytes := [], fault? := some .isADirectory }
  | .ok (.file n) => .ok fun d => { bytes := d.body n }

def store (l : Location) (path : String) (source : Source Disk) : Action Disk Result := do
  match ← desk.catalog.store l path source metadata with
  | .error e =>
    return { complaint? := some (.about ("Failed to store " ++ path ++ " in " ++ l.name) e) }
  | .ok h =>
    let length ← Action.inspect (desk.cache.backend.length h.resource)
    return .lines ["Stored " ++ h.display ++ " (" ++ toString length ++ " bytes)"]

def put (l : Location) (path : String) (file? : Option String) (input : Bytes) :
    Action Disk Result := do
  match file? with
  | none => desk.store l path fun _ => { bytes := input }
  | some file =>
    match ← Action.inspect (openFile file) with
    | .error fault => return { complaint? := some (.ofFault ("Failed to open " ++ file) fault) }
    | .ok source => desk.store l path source

def outcomeLine : Resource × DeleteOutcome → String
  | (r, .deleted) => "deleted  " ++ r.display
  | (r, .absent) => "absent   " ++ r.display
  | (r, .failed e) => "failed   " ++ r.display ++ ": " ++ e.message

def delete (l : Location) (path : String) : Action Disk Result := do
  match ← desk.catalog.deleteReport [l] path metadata with
  | .error e => return .failed e
  | .ok report =>
    let result := Result.lines (report.outcomes.map outcomeLine)
    if report.allSucceeded then return result
    else return { result with complaint? := some { message :=
      "Failed to delete " ++ path ++ " from " ++ l.name ++ ": " ++ report.display } }

def sectionLines (r : Resource) (entries : List String) : List String :=
  r.display :: if entries = [] then ["  (empty)"] else entries.map ("  " ++ ·)

/-- One section per resource, as far as the walks get. -/
def walkAll (d : Disk) : List Resource → Result
  | [] => {}
  | r :: rest =>
    match desk.files.walk r d with
    | .error e => .failed e
    | .ok files =>
      let further := walkAll d rest
      { further with printed := (Result.lines (sectionLines r files)).printed ++ further.printed }

def list (l : Location) (path : String) (recursive : Bool) : Action Disk Result := do
  if recursive then
    match desk.catalog.expansion.spread [l] path with
    | .error e => return .failed e
    | .ok spread => Action.inspect fun d => desk.walkAll d spread.resources
  else
    match ← desk.catalog.list l path with
    | .error e => return .failed e
    | .ok found =>
      let sections := found.map fun (member, names) => sectionLines (.ofText member path) names
      return .lines sections.flatten

/-- Where an alias goes: to the location itself, or to the first location of a
group that accepts stores. -/
def aliasTarget (l : Location) (path : String) : Except Complaint Resource :=
  match desk.catalog.expansion.spread [l] path with
  | .error e => .error (.ofFailure e)
  | .ok spread =>
    if l.isGroup then
      match Search.storageTarget? spread with
      | some target => .ok target
      | none => .error { message := "No location in " ++ l.name ++ " accepts stores" }
    else .ok (.ofText l path)

/-- Makes the content at one place readable at another. Answers the new place
and the old one. -/
def makeAlias (source : Location) (sourcePath : String) (target : Location)
    (targetPath : String) : Action Disk (Except Complaint (Resource × Resource)) := do
  match ← desk.catalog.retrieve source sourcePath ∅ with
  | .error e => return .error (.ofFailure e)
  | .ok none => return .error { message := notFound sourcePath source }
  | .ok (some h) =>
    match desk.aliasTarget target targetPath with
    | .error complaint => return .error complaint
    | .ok r =>
      match ← desk.cache.createAlias h.resource r with
      | .error e => return .error (.ofFailure e)
      | .ok () => return .ok (r, h.resource)

def perform (input : Bytes) : Command → Action Disk Result
  | .get location path all output? => desk.withLocation location fun l =>
    if all then desk.getAll l path else desk.get l path output?
  | .put location path file? => desk.withLocation location fun l => desk.put l path file? input
  | .delete location path => desk.withLocation location fun l => desk.delete l path
  | .list location path recursive => desk.withLocation location fun l =>
    desk.list l path recursive
  | .makeAlias fromLocation fromPath toLocation toPath =>
    desk.withLocation fromLocation fun source => desk.withLocation toLocation fun target => do
      match ← desk.makeAlias source fromPath target toPath with
      | .error complaint => return { complaint? := some complaint }
      | .ok (r, source) => return .lines [r.display ++ " -> " ++ source.display]

end Desk
end ArtifactCache.CommandLine
