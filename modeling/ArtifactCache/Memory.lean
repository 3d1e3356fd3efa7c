import ArtifactCache.Backend
import ArtifactCache.Table
import ArtifactCache.Text.Ascending

/-!
The store in memory. A file is a name for an entry, and an alias is a second
name for the same entry, so what is written through one is read through the
other. Directories need not be created: whatever lies above something stored
is one.
-/
namespace ArtifactCache

structure Memory where
  /-- The entry of each file. -/
  files : Table Address Nat := ∅
  entries : Table Nat Bytes := ∅
  /-- The first entry that was never used. -/
  fresh : Nat := 0
  /-- The directories that were created on purpose, each once. -/
  directories : List Address := []

namespace Memory

def empty : Memory := {}

def isFile (a : Address) (m : Memory) : Bool := m.files.contains a

/-- The content of a file. -/
def content? (a : Address) (m : Memory) : Option Bytes :=
  (m.files.get? a).map fun entry => (m.entries.get? entry).getD []

/-- Everything that is stored: files and created directories. -/
def stored (m : Memory) : List Address := m.files.keys ++ m.directories

/-- Something stored lies strictly beneath. -/
def hasBeneath (a : Address) (m : Memory) : Bool := m.stored.any a.textIsAbove

def isDirectory (a : Address) (m : Memory) : Bool :=
  m.directories.contains a || m.hasBeneath a

/-- The nearest file above the resource, which bars it from being stored. -/
def fileAbove? (r : Resource) (m : Memory) : Option Resource :=
  r.ancestors.find? fun above => m.isFile above.address

/-- Replaces the content of a file, or makes a new one. -/
def commit (a : Address) (bytes : Bytes) (m : Memory) : Memory :=
  match m.files.get? a with
  | some entry => { m with entries := m.entries.insert entry bytes }
  | none =>
    { m with
      files := m.files.insert a m.fresh
      entries := m.entries.insert m.fresh bytes
      fresh := m.fresh + 1 }

def place (r : Resource) : String := "memory:" ++ r.display

def refuse (activity : Activity) (r : Resource) (why : Refusal) : Failure :=
  .storage activity (place r) (.refused why)

/-- Goes on unless a file lies above the resource. -/
def unlessBarred {α : Type} (activity : Activity) (r : Resource) (m : Memory)
    (go : Except Failure α × Memory) : Except Failure α × Memory :=
  match m.fileAbove? r with
  | some file => (.error (refuse activity r (.beneathFile file)), m)
  | none => go

/-- A writer collects everything and publishes all of it on flush and close. -/
structure Writer where
  resource : Resource
  buffer : Bytes := []
  /-- There are bytes that were not published yet. -/
  dirty : Bool := false
  deriving DecidableEq

def openWriter (r : Resource) (m : Memory) : Except Failure Writer × Memory :=
  unlessBarred .openOutput r m <|
    if m.directories.contains r.address then (.error (refuse .openOutput r .directory), m)
    else (.ok { resource := r }, m.commit r.address [])

def Writer.write (w : Writer) (bytes : Bytes) : Writer :=
  { w with buffer := w.buffer ++ bytes, dirty := true }

def publish (w : Writer) (m : Memory) : Memory :=
  if w.dirty then m.commit w.resource.address w.buffer else m

def copy (source target : Resource) (m : Memory) : Except Failure Unit × Memory :=
  match m.content? source.address with
  | none => (.error (refuse .copy source .noSource), m)
  | some bytes => unlessBarred .copy target m (.ok (), m.commit target.address bytes)

def delete (r : Resource) (m : Memory) : Except Failure Bool × Memory :=
  let a := r.address
  if m.isFile a then (.ok true, { m with files := m.files.erase a })
  else if m.hasBeneath a then (.error (refuse .delete r .notEmpty), m)
  else (.ok (m.directories.contains a), { m with directories := m.directories.erase a })

/-- The segments that follow `a` in what lies beneath it. -/
def names (a : Address) (m : Memory) : List String :=
  Text.ascending <| (m.stored.filter a.textIsAbove).filterMap fun b =>
    b.path.segments[a.path.segments.length]?

def mkdirs (r : Resource) (m : Memory) : Except Failure Unit × Memory :=
  if m.isFile r.address then (.error (refuse .mkdirs r .file), m)
  else unlessBarred .mkdirs r m
    (.ok (), { m with directories := m.directories.insert r.address })

def createFile (r : Resource) (m : Memory) : Except Failure Unit × Memory :=
  if m.isFile r.address then (.ok (), m)
  else unlessBarred .createFile r m (.ok (), m.commit r.address [])

/-- Gives the entry of the source a second name. -/
def link (source target : Resource) (m : Memory) : (Except Failure Unit × List Line) × Memory :=
  match m.files.get? source.address with
  | none => ((.ok (), []), m)
  | some entry =>
    let (result, after) := unlessBarred .createAlias target m
      (.ok (), { m with files := m.files.insert target.address entry })
    let replaced : Line :=
      ⟨.warn, .memory, "alias " ++ target.display ++ " replaced existing content"⟩
    let barred := (m.fileAbove? target).isSome
    ((result, if m.isFile target.address && !barred then [replaced] else []), after)

/-- Links or copies. Nothing is done where source and target are the same, or
where there is no source. -/
def createAlias (linking : Bool) (source target : Resource) (m : Memory) :
    (Except Failure Unit × List Line) × Memory :=
  if source.same target || !m.isFile source.address then ((.ok (), []), m)
  else if linking then m.link source target
  else
    let (result, after) := m.copy source target
    ((result, []), after)

/-- A reader holds what is left of the content as it was when it was opened. -/
def readRest (rest : Bytes) (limit : Option Nat) : Bytes × Bytes :=
  match limit with
  | none => (rest, [])
  | some n => (rest.take n, rest.drop n)

/-- The store as a backend; aliases are links or copies. -/
def backend (linking : Bool) : Backend Memory Bytes Writer where
  isFile r m := m.isFile r.address
  isDirectory r m := m.isDirectory r.address
  present r m := m.isFile r.address || m.isDirectory r.address
  length r m := ((m.content? r.address).getD []).length
  isDated r m := m.isFile r.address
  place := place
  openReader r m := .ok (m.content? r.address)
  read rest limit _ := readRest rest limit
  openWriter := openWriter
  write w bytes m := (w.write bytes, m)
  flush w m := ({ w with dirty := false }, publish w m)
  closeWriter := publish
  copy := copy
  delete := delete
  list r m := .ok (m.names r.address)
  mkdirs := mkdirs
  createFile := createFile
  createAlias := createAlias linking

end Memory
end ArtifactCache
