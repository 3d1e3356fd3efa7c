import ArtifactCache.Disk.Basic

/-!
Open files. A writer keeps bytes back until its buffer is full; what is
written goes to the offset that it has reached, whoever changed the file
meanwhile.
-/
namespace ArtifactCache.Disk

/-- How many bytes a writer keeps back at most. -/
def bufferSize : Nat := 8192

structure Writer where
  body : Nat
  offset : Nat := 0
  /-- Written to the writer, but not to the disk. -/
  pending : Bytes := []
  deriving DecidableEq

namespace Writer

/-- Writes to the disk at once. -/
def deliver (w : Writer) (bytes : Bytes) (d : Disk) : Writer × Disk :=
  if bytes = [] then (w, d)
  else ({ w with offset := w.offset + bytes.length },
    d.setBody w.body ((d.body w.body).writeAt w.offset bytes))

/-- Writes what was kept back. -/
def flush (w : Writer) (d : Disk) : Writer × Disk :=
  { w with pending := [] }.deliver w.pending d

/-- Keeps the bytes back while there is room. Bytes that do not fit push out
the ones before, and as many as the buffer holds do not wait at all. -/
def write (w : Writer) (bytes : Bytes) (d : Disk) : Writer × Disk :=
  let (w, d) := if bufferSize < w.pending.length + bytes.length then w.flush d else (w, d)
  if bufferSize ≤ bytes.length then w.deliver bytes d
  else ({ w with pending := w.pending ++ bytes }, d)

end Writer

structure Reader where
  body : Nat
  offset : Nat := 0

/-- The next bytes of the file as it is now. -/
def Reader.read (r : Reader) (limit : Option Nat) (d : Disk) : Bytes × Reader :=
  let rest := (d.body r.body).drop r.offset
  let bytes := match limit with
    | none => rest
    | some n => rest.take n
  (bytes, { r with offset := r.offset + bytes.length })

end ArtifactCache.Disk
