import ArtifactCache.Bytes
import ArtifactCache.Disk.Place
import ArtifactCache.Fault
import ArtifactCache.Table

/-!
A disk: directories and files below a root. A file is a name for a body, and
a second name for the same body is a hard link. The calls answer and refuse
as the operating system does.
-/
namespace ArtifactCache

inductive Node
  | directory
  /-- The number of the body. -/
  | file (body : Nat)
  deriving DecidableEq, Repr

structure Disk where
  /-- What is at the names from the root. The root itself is not listed. -/
  nodes : Table (List PathText) Node := ∅
  bodies : Table Nat Bytes := ∅
  /-- The first body that was never used. -/
  fresh : Nat := 0
  /-- Where relative paths begin. -/
  workingDirectory : List PathText := []

namespace Disk

/-- What is at a path of names from the root. -/
def node? (d : Disk) (path : List PathText) : Option Node :=
  if path = [] then some .directory else d.nodes.get? path

def body (d : Disk) (n : Nat) : Bytes := (d.bodies.get? n).getD []

def setBody (d : Disk) (n : Nat) (bytes : Bytes) : Disk :=
  { d with bodies := d.bodies.insert n bytes }

def setNode (d : Disk) (path : List PathText) (n : Node) : Disk :=
  { d with nodes := d.nodes.insert path n }

def removeNode (d : Disk) (path : List PathText) : Disk :=
  { d with nodes := d.nodes.erase path }

/-- The most bytes that a name may have. -/
def maxName : Nat := 255

/-- The most bytes that a path may have. -/
def maxPath : Nat := 4095

/-- Where one step leads from a directory, which need not be anything. -/
def step (dir : List PathText) (name : PathText) : Except Fault (List PathText) :=
  if name = .text "." then .ok dir
  else if name = .text ".." then .ok dir.dropLast
  else if maxName < name.size then .error .nameTooLong
  else .ok (dir ++ [name])

/-- Follows steps that have to lead to directories. -/
def follow (d : Disk) (dir : List PathText) : List PathText → Except Fault (List PathText)
  | [] => .ok dir
  | name :: rest =>
    match step dir name with
    | .error fault => .error fault
    | .ok path =>
      match d.node? path with
      | none => .error .notFound
      | some (.file _) => .error .notADirectory
      | some .directory => follow d path rest

/-- The directory from which the last step leads to a place. -/
def above (d : Disk) (p : Place) : Except Fault (List PathText) :=
  if p.path.hasNul then .error .nulInName
  else if p.path.size = 0 then .error .notFound
  else if maxPath < p.path.size then .error .nameTooLong
  else d.follow (if p.isAbsolute then [] else d.workingDirectory) p.steps.dropLast

/-- The names from the root that a place stands for. -/
def locate (d : Disk) (p : Place) : Except Fault (List PathText) :=
  match d.above p, p.steps.getLast? with
  | .ok dir, some name => step dir name
  | above, _ => above

/-- What is at a place. -/
def stat (d : Disk) (p : Place) : Except Fault Node := do
  match d.node? (← d.locate p) with
  | none => throw .notFound
  | some (.file n) => if p.wantsDirectory then throw .notADirectory else return .file n
  | some .directory => return .directory

def isPresent (d : Disk) (p : Place) : Bool := (d.stat p).toBool

def isDirectory (d : Disk) (p : Place) : Bool :=
  match d.stat p with
  | .ok .directory => true
  | _ => false

def isFile (d : Disk) (p : Place) : Bool :=
  match d.stat p with
  | .ok (.file _) => true
  | _ => false

/-- The names in a directory. -/
def children (d : Disk) (path : List PathText) : List PathText :=
  d.nodes.keys.filterMap fun key => if key.dropLast = path then key.getLast? else none

def makeDirectory (p : Place) (d : Disk) : Except Fault Unit × Disk :=
  match d.locate p with
  | .error fault => (.error fault, d)
  | .ok path =>
    if (d.node? path).isSome then (.error .alreadyExists, d)
    else (.ok (), d.setNode path .directory)

/-- Makes the first of the places a directory, after those above it where they
are missing. -/
def makeFirst : List Place → Disk → Except Fault Unit × Disk
  | [], d => (.error .notFound, d)
  | p :: above, d =>
    if p.path = .text "" then (.ok (), d)
    else match d.makeDirectory p with
      | (.ok (), d) => (.ok (), d)
      | (.error .notFound, d) =>
        match makeFirst above d with
        | (.error fault, d) => (.error fault, d)
        | (.ok (), d) =>
          match d.makeDirectory p with
          | (.ok (), d) => (.ok (), d)
          | (.error fault, d) => (if d.isDirectory p then .ok () else .error fault, d)
      | (.error fault, d) => (if d.isDirectory p then .ok () else .error fault, d)

/-- Makes a directory and all that are missing above it. -/
def makeDirectories (p : Place) (d : Disk) : Except Fault Unit × Disk :=
  makeFirst p.selfAndAbove d

/-- Opens a file for writing, and makes an empty one where there is none. A
path that ends in a slash is refused, whatever is there. -/
def openForWriting (p : Place) (d : Disk) : Except Fault Nat × Disk :=
  match if p.wantsDirectory then d.above p else d.locate p with
  | .error fault => (.error fault, d)
  | .ok path =>
    if p.wantsDirectory then (.error .isADirectory, d)
    else match d.node? path with
      | some .directory => (.error .isADirectory, d)
      | some (.file n) => (.ok n, d)
      | none => (.ok d.fresh,
          { d.setNode path (.file d.fresh) with
            bodies := d.bodies.insert d.fresh [], fresh := d.fresh + 1 })

/-- Opens a file for writing and empties it. -/
def create (p : Place) (d : Disk) : Except Fault Nat × Disk :=
  match d.openForWriting p with
  | (.error fault, d) => (.error fault, d)
  | (.ok n, d) => (.ok n, d.setBody n [])

def removeFile (p : Place) (d : Disk) : Except Fault Unit × Disk :=
  match d.locate p with
  | .error fault => (.error fault, d)
  | .ok path =>
    match d.stat p with
    | .error fault => (.error fault, d)
    | .ok .directory => (.error .isADirectory, d)
    | .ok (.file _) => (.ok (), d.removeNode path)

def removeDirectory (p : Place) (d : Disk) : Except Fault Unit × Disk :=
  match d.locate p with
  | .error fault => (.error fault, d)
  | .ok path =>
    match d.stat p with
    | .error fault => (.error fault, d)
    | .ok (.file _) => (.error .notADirectory, d)
    | .ok .directory =>
      if d.children path = [] then (.ok (), d.removeNode path)
      else (.error .directoryNotEmpty, d)

/-- Gives the file at `source` a second name. -/
def link (source target : Place) (d : Disk) : Except Fault Unit × Disk :=
  match d.stat source, d.locate target with
  | .error fault, _ | .ok (.file _), .error fault => (.error fault, d)
  | .ok .directory, _ => (.error .notRegular, d)
  | .ok (.file n), .ok path =>
    if (d.node? path).isSome then (.error .alreadyExists, d)
    else if target.wantsDirectory then (.error .notFound, d)
    else (.ok (), d.setNode path (.file n))

/-- Copies the content of a file to a file, which is made where it is missing. -/
def copyFile (source target : Place) (d : Disk) : Except Fault Unit × Disk :=
  match d.stat source with
  | .error fault => (.error fault, d)
  | .ok .directory => (.error .notRegular, d)
  | .ok (.file n) =>
    match d.create target with
    | (.error fault, d) => (.error fault, d)
    | (.ok m, d) => (.ok (), d.setBody m (d.body n))

/-- The most names on the way to anything. -/
def height (d : Disk) : Nat := (d.nodes.keys.map List.length).foldr max 0

/-- What a walk comes to that goes down so many levels: a directory before what
is in it, and the names in a directory in ascending order. -/
def visitLevels (d : Disk) : (levels : Nat) → List PathText → List (List PathText)
  | 0, _ => []
  | levels + 1, path =>
    match d.node? path with
    | none => []
    | some (.file _) => [path]
    | some .directory =>
      path :: (PathText.sorted (d.children path)).flatMap fun name =>
        d.visitLevels levels (path ++ [name])

/-- What a walk comes to, down to the last level. -/
def visit (d : Disk) (path : List PathText) : List (List PathText) :=
  d.visitLevels (d.height + 1) path

/-- Reads a whole file. -/
def readFile (d : Disk) (p : Place) : Except Fault Bytes := do
  match ← d.stat p with
  | .directory => throw .isADirectory
  | .file n => return d.body n

end Disk
end ArtifactCache
