import ArtifactCache.CommandLine.Reach
import ArtifactCache.Disk.Changes

/-!
The program. It takes in the part of the disk that a run may touch, performs
the run on it, and makes the changes on the real disk.
-/
namespace ArtifactCache.CommandLine

def realText (path : List PathText) : String := "/" ++ PathText.joined path

/-- Takes in what is at a path of names. Every second name of a file counts as
a file of its own. -/
partial def takeIn (deep : Bool) (path : List PathText) (d : Disk) : IO Disk := do
  try
    let real ← IO.FS.realPath (realText path)
    if (← real.metadata).type == .dir then
      let mut d := if path = [] then d else d.setNode path .directory
      if deep then
        for entry in ← real.readDir do
          d ← takeIn true (path ++ [.text entry.fileName]) d
      return d
    else
      let bytes ← IO.FS.readBinFile real
      let placed := d.setNode path (.file d.fresh)
      return { placed.setBody d.fresh bytes.toList with fresh := d.fresh + 1 }
  catch _ => return d

/-- Takes in a place and the directories on the way, and if `deep` all that lies below. -/
def takeInPlace (deep : Bool) (p : Place) (d : Disk) : IO Disk := do
  let start := if p.isAbsolute then [] else d.workingDirectory
  let path := p.names.foldl (fun path name =>
    if name = .text ".." then path.dropLast else path ++ [name]) start
  let mut d := d
  for n in List.range path.length do
    d ← takeIn false (path.take n) d
  takeIn deep path d

def perform : Disk.Change → IO Unit
  | .removeFile path => IO.FS.removeFile (realText path)
  | .removeDirectory path => IO.FS.removeDir (realText path)
  | .makeDirectory path => IO.FS.createDir (realText path)
  | .write path bytes => IO.FS.writeBinFile (realText path) ⟨bytes.toArray⟩
  | .link source path => IO.FS.hardLink (realText source) (realText path)

partial def readAll (stream : IO.FS.Stream) (sofar : ByteArray) : IO ByteArray := do
  let more ← stream.read 65536
  if more.isEmpty then return sofar else readAll stream (sofar ++ more)

end ArtifactCache.CommandLine

open ArtifactCache ArtifactCache.CommandLine in
def main (args : List String) : IO UInt32 := do
  let surroundings : Surroundings :=
    { home? := ← IO.getEnv "HOME", cacheHome? := ← IO.getEnv "XDG_CACHE_HOME" }
  let bare : Invocation := { args, cacheRoot? := ← IO.getEnv "REPO_CACHE_ROOT", surroundings }
  let input ← if readsInput bare then readAll (← IO.getStdin) .empty else pure .empty
  let invocation := { bare with input := input.toList }
  let here := Place.stepsOf (toString (← IO.currentDir))
  let mut d : Disk := { workingDirectory := here }
  d ← takeInPlace false { base := realText here } d
  for path in (configPath? invocation).toList do
    d ← takeInPlace false { base := path } d
  let (below, alone) := reach invocation d
  for p in alone do
    d ← takeInPlace false p d
  for p in below do
    d ← takeInPlace true p d
  let (outcome, after) := run invocation d
  (Disk.changes d after).forM perform
  let output ← IO.getStdout
  output.write ⟨outcome.printed.toArray⟩
  output.flush
  IO.eprint outcome.remarks
  return outcome.code.toUInt32
