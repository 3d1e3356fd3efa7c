import ArtifactCache.Proofs.FileFilling
import ArtifactCache.Proofs.Keeping

/-!
Order on disk, whether or not the root stands. The number of a file is never one that
comes later (`Files.numbered_after`), and where there is a file below the root, the root
stands (`Files.standing_of_isFile`).
-/
namespace ArtifactCache

namespace Disk
variable {d d' : Disk} {path : List PathText}

namespace Numbered

theorem grows (numbered : d.Numbered) (grows : Grows d d') : d'.Numbered := by
  intro path n there
  rw [grows.fresh]
  exact numbered path n (grows.file_back there)

theorem shrinks (numbered : d.Numbered) (shrinks : Shrinks d d') (fresh : d'.fresh = d.fresh) :
    d'.Numbered := by
  intro path n there
  rw [fresh]
  exact numbered path n (shrinks.node path _ there)

theorem setFile (numbered : d.Numbered) (empty : d.node? path = none) {n : Nat}
    (old : n < d.fresh) : (d.setNode path (.file n)).Numbered := by
  intro other k there
  rw [node?_setNode _ _ _ _ (ne_nil_of_node?_eq_none empty)] at there
  split at there
  · obtain rfl := Node.file.inj (Option.some.inj there)
    exact old
  · exact numbered other k there

theorem addFile (numbered : d.Numbered) (empty : d.node? path = none) :
    (d.addFile path).Numbered := by
  intro other k there
  rw [node?_addFile empty] at there
  split at there
  · obtain rfl := Node.file.inj (Option.some.inj there)
    exact Nat.lt_succ_self _
  · exact Nat.lt_succ_of_lt (numbered other k there)

end Numbered
end Disk

namespace Files
variable {f : Files} {d : Disk} {r : Resource}

/-- Whatever a store does to a disk, files have numbers that were given out. -/
theorem spares_numbered (f : Files) : f.Spares Disk.Numbered where
  setNode {_ _ _ n} numbered _ _ empty source := by
    cases n with
    | directory => exact numbered.grows (Disk.grows_setNode empty)
    | file n =>
      obtain ⟨q, stat⟩ := source (by simp)
      exact numbered.setFile empty (numbered.number? (Disk.number?_eq_some_iff.2 stat))
  addFile numbered _ _ empty := numbered.addFile empty
  setBody _ _ numbered := numbered
  removeNode path numbered _ := numbered.shrinks (Disk.shrinks_removeNode _ path) rfl

theorem numbered_after (numbered : d.Numbered) (calls : List Call) :
    (Usage.after f.backend d calls).store.Numbered :=
  (spares_numbered f).after calls numbered

/-- A disk in use is in order, as long as the way to the root begins at a directory. -/
theorem orderly_after (closed : d.Closed) (numbered : d.Numbered) {calls : List Call}
    (home : f.HasHome d calls) : f.numbering.sound (Usage.after f.backend d calls).store :=
  ⟨⟨closed_after closed home, home calls List.prefix_rfl⟩, numbered_after numbered calls⟩

/-- Where there is a file below the root, the root stands. -/
theorem standing_of_isFile (orderly : f.numbering.sound d)
    (file : d.isFile (f.placeOf r) = true) : ∃ home, f.Standing home d := by
  obtain ⟨sound, numbered⟩ := orderly
  obtain ⟨n, stat⟩ := Disk.isFile_iff.1 file
  obtain ⟨path, found, _, _⟩ := Disk.stat_eq_file_iff.1 stat
  have below := trail_ne_nil_of_isFile file
  obtain ⟨_, dir, ends, _⟩ := Disk.locate_eq_ok_iff.1 found
  rw [steps_placeOf, List.dropLast_append_of_ne_nil below,
    Disk.follow_append_eq_ok_iff] at ends
  obtain ⟨root, leads, _⟩ := ends
  have directory : d.node? root = some .directory := Disk.node?_of_follow (sound.start rfl) leads
  have stands : f.StandsAt root d :=
    ⟨_, [], root, (List.append_nil _).symm, nofun, leads, directory, by simp [Disk.moves]⟩
  exact ⟨root, sound, numbered, stands⟩

end Files
end ArtifactCache
