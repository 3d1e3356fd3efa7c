import ArtifactCache.Disk.Basic

/-!
What has to be done to a disk to make another one of it.
-/
namespace ArtifactCache.Disk

inductive Change
  | removeFile (path : List PathText)
  | removeDirectory (path : List PathText)
  | makeDirectory (path : List PathText)
  | write (path : List PathText) (bytes : Bytes)
  /-- Gives the file at `source` a second name. -/
  | link (source path : List PathText)
  deriving DecidableEq, Repr

/-- What was at a path before goes, unless the path keeps its node. Files go
before directories, and the deepest directories first. -/
def removals (before after : Disk) : List Change :=
  let gone := before.nodes.rows.filter fun (path, node) => after.nodes.get? path ≠ some node
  let files := gone.filterMap fun (path, node) =>
    if node = .directory then none else some (.removeFile path)
  let directories := (gone.filter (·.2 = .directory)).map (·.1)
  files ++ (directories.mergeSort fun a b => b.length ≤ a.length).map .removeDirectory

/-- Directories that were not there, the highest first. -/
def newDirectories (before after : Disk) : List Change :=
  let made := after.nodes.rows.filter fun (path, node) =>
    node = .directory && before.nodes.get? path ≠ some .directory
  ((made.map (·.1)).mergeSort fun a b => a.length ≤ b.length).map .makeDirectory

/-- A name of the body that is already in place. -/
def nameOf? (body : Nat) (rows : List (List PathText × Node)) : Option (List PathText) :=
  (rows.find? (·.2 = .file body)).map (·.1)

/-- Writes bodies that changed and links names that are new. `placed` holds
the files that are in place. -/
def newContents (before after : Disk) (placed : List (List PathText × Node)) :
    List (List PathText × Node) → List Change
  | [] => []
  | (path, .directory) :: rest => newContents before after ((path, .directory) :: placed) rest
  | (path, .file n) :: rest =>
    let here := (path, Node.file n)
    let more := newContents before after (here :: placed) rest
    if before.nodes.get? path = some (.file n) then
      if before.body n = after.body n then more else .write path (after.body n) :: more
    else match nameOf? n placed with
      | some source => .link source path :: more
      | none => .write path (after.body n) :: more

/-- The changes in an order in which they can be made. -/
def changes (before after : Disk) : List Change :=
  let kept := after.nodes.rows.filter fun (path, node) => before.nodes.get? path = some node
  let fresh := after.nodes.rows.filter fun (path, node) => before.nodes.get? path ≠ some node
  removals before after ++ newDirectories before after ++
    newContents before after [] (kept ++ fresh)

end ArtifactCache.Disk
