import ArtifactCache.Proofs.PathEnds
import ArtifactCache.Proofs.Ways
import Mathlib.Data.List.Induction

/-!
How disks change. Making directories only adds directories (`Disk.Grows`), and
on a disk whose directories are closed (`Disk.Closed`) that lets no file appear
at the end of a way that does not lead up (`follow_of_above`).
-/
namespace ArtifactCache.Disk
variable {d d' d'' : Disk} {p : Place} {dir path : List PathText}

/-! ## New directories -/

/-- Directories where there was nothing, and else the same. -/
structure Grows (d d' : Disk) : Prop where
  node (path : List PathText) :
    d'.node? path = d.node? path ∨ d.node? path = none ∧ d'.node? path = some .directory
  bodies : d'.bodies = d.bodies
  fresh : d'.fresh = d.fresh
  workingDirectory : d'.workingDirectory = d.workingDirectory

namespace Grows

theorem refl (d : Disk) : Grows d d := ⟨fun _ => .inl rfl, rfl, rfl, rfl⟩

theorem node_of_some (grows : Grows d d') {n : Node} (node : d.node? path = some n) :
    d'.node? path = some n := by
  obtain same | ⟨nothing, _⟩ := grows.node path
  · exact same.trans node
  · cases nothing.symm.trans node

theorem trans (first : Grows d d') (second : Grows d' d'') : Grows d d'' where
  node path := by
    obtain same | ⟨nothing, made⟩ := first.node path
    · obtain same' | ⟨nothing, made⟩ := second.node path
      · exact .inl (same'.trans same)
      · exact .inr ⟨same ▸ nothing, made⟩
    · exact .inr ⟨nothing, second.node_of_some made⟩
  bodies := second.bodies.trans first.bodies
  fresh := second.fresh.trans first.fresh
  workingDirectory := second.workingDirectory.trans first.workingDirectory

/-- Files do not come by growing. -/
theorem file_back (grows : Grows d d') {n : Nat} (file : d'.node? path = some (.file n)) :
    d.node? path = some (.file n) := by
  obtain same | ⟨_, made⟩ := grows.node path
  · exact same.symm.trans file
  · cases made.symm.trans file

theorem body (grows : Grows d d') (n : Nat) : d'.body n = d.body n := by
  rw [Disk.body, Disk.body, grows.bodies]

theorem passable (grows : Grows d d') : Passable d d' :=
  ⟨fun _ => grows.node_of_some, grows.workingDirectory⟩

theorem stat_file (grows : Grows d d') {n : Nat} (file : d.stat p = .ok (.file n)) :
    d'.stat p = .ok (.file n) := by
  obtain ⟨path, found, node, plain⟩ := stat_eq_file_iff.1 file
  exact stat_eq_file_iff.2 ⟨path, grows.passable.locate found, grows.node_of_some node, plain⟩

end Grows

theorem node?_setNode (d : Disk) (path other : List PathText) (n : Node) (below : path ≠ []) :
    (d.setNode path n).node? other = if path = other then some n else d.node? other := by
  unfold setNode node?
  by_cases root : other = []
  · simp [root, below]
  · simp [root, Table.get?_insert]

theorem ne_nil_of_node?_eq_none (empty : d.node? path = none) : path ≠ [] := by
  rintro rfl
  cases empty

theorem grows_setNode (empty : d.node? path = none) : Grows d (d.setNode path .directory) where
  node other := by
    rw [node?_setNode _ _ _ _ (ne_nil_of_node?_eq_none empty)]
    split
    · next same => exact .inr ⟨same ▸ empty, rfl⟩
    · exact .inl rfl
  bodies := rfl
  fresh := rfl
  workingDirectory := rfl

theorem grows_makeDirectory (p : Place) (d : Disk) : Grows d (d.makeDirectory p).2 := by
  unfold makeDirectory
  split
  · exact .refl d
  · split
    · exact .refl d
    · next empty => exact grows_setNode (by simpa using empty)

/-- What making one directory keeps, making all of them keeps. -/
theorem makeFirst_keeps {holds : Disk → Prop} {ps : List Place}
    (keeps : ∀ p ∈ ps, ∀ d, holds d → holds (d.makeDirectory p).2) {d : Disk} (before : holds d) :
    holds (makeFirst ps d).2 := by
  induction ps generalizing d with
  | nil => exact before
  | cons p above ih =>
    have once {d : Disk} (before : holds d) := keeps p List.mem_cons_self d before
    have higher {d : Disk} (before : holds d) : holds (makeFirst above d).2 :=
      ih (fun q mem => keeps q (List.mem_cons_of_mem _ mem)) before
    unfold makeFirst
    split
    · exact before
    have first := once before
    generalize d.makeDirectory p = outcome at first ⊢
    split
    · exact first
    · next d₁ =>
      have second := higher first
      dsimp only at second
      generalize makeFirst above d₁ = outcome at second ⊢
      split
      · exact second
      · next d₂ =>
        have third := once second
        dsimp only at third
        generalize d₂.makeDirectory p = outcome at third ⊢
        split <;> exact third
    · exact first

theorem grows_makeDirectories (p : Place) (d : Disk) : Grows d (d.makeDirectories p).2 :=
  makeFirst_keeps (fun q _ _ grown => grown.trans (grows_makeDirectory q _)) (.refl d)

/-! ## Closed directories -/

/-- What is on the disk is in a directory. -/
def Closed (d : Disk) : Prop :=
  ∀ path n, d.node? path = some n → d.node? path.dropLast = some .directory

theorem node?_empty (path : List PathText) :
    ({} : Disk).node? path = if path = [] then some .directory else none := rfl

theorem closed_empty : Disk.Closed {} := by
  intro path n there
  rw [node?_empty] at there
  split at there
  · next root => rw [root]; rfl
  · cases there

/-- What is above something is a directory. -/
theorem Closed.above (closed : d.Closed) {n : Node} (there : d.node? path = some n)
    {higher : List PathText} (le : higher <+: path) (ne : higher ≠ path) :
    d.node? higher = some .directory := by
  induction path using List.reverseRecOn generalizing n with
  | nil => exact absurd (List.prefix_nil.1 le) ne
  | append_singleton init last ih =>
    have parent : d.node? init = some .directory := by simpa using closed _ _ there
    obtain eq | le := List.prefix_concat_iff.1 le
    · exact absurd eq ne
    by_cases here : higher = init
    · exact here ▸ parent
    · exact ih parent le here

theorem Closed.setNode (closed : d.Closed) (empty : d.node? path = none)
    (parent : d.node? path.dropLast = some .directory) (n : Node) : (d.setNode path n).Closed := by
  have below := ne_nil_of_node?_eq_none empty
  intro other n' there
  rw [node?_setNode _ _ _ _ below] at there ⊢
  have higher : d.node? other.dropLast = some .directory := by
    split at there
    · next same => exact same ▸ parent
    · exact closed other n' there
  rw [if_neg, higher]
  rintro rfl
  cases empty.symm.trans higher

theorem node?_removeNode (d : Disk) (path other : List PathText) :
    (d.removeNode path).node? other =
      if other ≠ [] ∧ path = other then none else d.node? other := by
  unfold removeNode node?
  by_cases root : other = []
  · simp [root]
  · by_cases here : path = other <;> simp [root, here, Table.get?_erase]

theorem Closed.removeNode (closed : d.Closed)
    (leaf : ∀ other n, other ≠ [] → d.node? other = some n → other.dropLast ≠ path) :
    (d.removeNode path).Closed := by
  intro other n there
  rw [node?_removeNode] at there ⊢
  split at there
  · cases there
  by_cases root : other = []
  · simp [root, node?]
  · rw [if_neg fun here => leaf other n root there here.2.symm]
    exact closed other n there

/-- Fewer things than before, each what it was. -/
structure Shrinks (d d' : Disk) : Prop where
  node (path : List PathText) (n : Node) : d'.node? path = some n → d.node? path = some n
  workingDirectory : d'.workingDirectory = d.workingDirectory

theorem Shrinks.refl (d : Disk) : Shrinks d d := ⟨fun _ _ => id, rfl⟩

theorem Shrinks.passable (shrinks : Shrinks d d') : Passable d' d :=
  ⟨fun path => shrinks.node path _, shrinks.workingDirectory.symm⟩

theorem shrinks_removeNode (d : Disk) (path : List PathText) : Shrinks d (d.removeNode path) where
  node other n there := by
    rw [node?_removeNode] at there
    split at there
    · cases there
    · exact there
  workingDirectory := rfl

theorem shrinks_removeFile (p : Place) (d : Disk) : Shrinks d (d.removeFile p).2 := by
  unfold removeFile
  split
  · exact .refl d
  · split
    · exact .refl d
    · exact .refl d
    · exact shrinks_removeNode d _

theorem shrinks_removeDirectory (p : Place) (d : Disk) : Shrinks d (d.removeDirectory p).2 := by
  unfold removeDirectory
  split
  · exact .refl d
  · split
    · exact .refl d
    · exact .refl d
    · split
      · exact shrinks_removeNode d _
      · exact .refl d

/-- Without a file, the same directories are passable. -/
theorem passable_removeNode {n : Nat} (file : d.node? path = some (.file n)) :
    Passable d (d.removeNode path) where
  directory other there := by
    rw [node?_removeNode, if_neg, there]
    rintro ⟨_, rfl⟩
    cases file.symm.trans there
  workingDirectory := rfl

theorem contentOf_removeNode_self (found : d.locate p = .ok path) {n : Nat}
    (file : d.node? path = some (.file n)) : (d.removeNode path).contentOf p = none := by
  have located := (passable_removeNode file).locate found
  have below : path ≠ [] := by
    rintro rfl
    cases file
  simp [contentOf, stat_of_locate located, node?_removeNode, below]

theorem contentOf_removeNode_of_ne {n : Nat} (file : d.node? path = some (.file n))
    (other : d.locate p ≠ .ok path) : (d.removeNode path).contentOf p = d.contentOf p := by
  have same (there : List PathText) (ne : there ≠ path) :
      (d.removeNode path).node? there = d.node? there := by
    rw [node?_removeNode, if_neg fun here => ne here.2.symm]
  cases found : d.locate p with
  | ok there =>
    have located := (passable_removeNode file).locate found
    have ne : there ≠ path := fun eq => other (eq ▸ found)
    simp only [contentOf, stat_of_locate located, stat_of_locate found, same there ne]
    rfl
  | error fault =>
    cases lost : (d.removeNode path).locate p with
    | ok there => cases found.symm.trans ((shrinks_removeNode d path).passable.locate lost)
    | error fault' => simp [contentOf, stat_of_error lost, stat_of_error found]

/-- A closed disk on which the ways begin at a directory. -/
structure Sound (absolute : Bool) (d : Disk) : Prop where
  closed : d.Closed
  begins : d.node? (if absolute then [] else d.workingDirectory) = some .directory

namespace Sound
variable {absolute : Bool}

theorem start (sound : d.Sound absolute) (begins : p.isAbsolute = absolute) :
    d.node? (d.start p) = some .directory := by
  unfold Disk.start
  rw [begins]
  exact sound.begins

/-- What can be found is in a directory, even if it is not there. -/
theorem parent (sound : d.Sound absolute) (begins : p.isAbsolute = absolute)
    (found : d.locate p = .ok path) : d.node? path.dropLast = some .directory := by
  obtain ⟨_, dir, way, last⟩ := locate_eq_ok_iff.1 found
  have there : d.node? dir = some .directory := node?_of_follow (sound.start begins) way
  have higher : d.node? dir.dropLast = some .directory := sound.closed dir _ there
  split at last
  · exact last ▸ higher
  · unfold step at last
    split at last
    · exact Except.ok.inj last ▸ higher
    split at last
    · exact Except.ok.inj last ▸ sound.closed _ _ higher
    split at last
    · cases last
    · rw [← Except.ok.inj last, List.dropLast_concat]
      exact there

theorem setNode (sound : d.Sound absolute) (begins : p.isAbsolute = absolute)
    (found : d.locate p = .ok path) (empty : d.node? path = none) (n : Node) :
    (d.setNode path n).Sound absolute where
  closed := sound.closed.setNode empty (sound.parent begins found) n
  begins := by
    have start := sound.begins
    rw [node?_setNode _ _ _ _ (ne_nil_of_node?_eq_none empty), if_neg]
    · exact start
    · intro same
      rw [same] at empty
      cases empty.symm.trans start

theorem makeDirectory (sound : d.Sound absolute) (begins : p.isAbsolute = absolute) :
    (d.makeDirectory p).2.Sound absolute := by
  unfold Disk.makeDirectory
  split
  · exact sound
  · next found =>
    split
    · exact sound
    · next empty => exact sound.setNode begins found (by simpa using empty) _

theorem makeDirectories (sound : d.Sound absolute) (begins : p.Begins absolute) :
    (d.makeDirectories p).2.Sound absolute := by
  refine makeFirst_keeps (fun q mem d sound => sound.makeDirectory ?_) sound
  obtain ⟨_, _, same⟩ := Place.begins_of_mem_upward begins mem
  exact same

theorem openForWriting (sound : d.Sound absolute) (begins : p.isAbsolute = absolute) :
    (d.openForWriting p).2.Sound absolute := by
  unfold Disk.openForWriting
  split
  · exact sound
  · next found =>
    split
    · exact sound
    next plain =>
    split
    · exact sound
    · exact sound
    · next empty =>
      rw [if_neg plain] at found
      have made := sound.setNode begins found empty (.file d.fresh)
      exact ⟨made.closed, made.begins⟩

theorem setBody (sound : d.Sound absolute) (n : Nat) (bytes : Bytes) :
    (d.setBody n bytes).Sound absolute := ⟨sound.closed, sound.begins⟩

theorem create (sound : d.Sound absolute) (begins : p.isAbsolute = absolute) :
    (d.create p).2.Sound absolute := by
  have opened := sound.openForWriting begins
  unfold Disk.create
  generalize d.openForWriting p = outcome at opened ⊢
  split
  · exact opened
  · exact opened.setBody _ _

theorem removeFile (sound : d.Sound absolute) (p : Place) :
    (d.removeFile p).2.Sound absolute := by
  unfold Disk.removeFile
  split
  · exact sound
  next path found =>
  split
  · exact sound
  · exact sound
  next n stat =>
  obtain ⟨path', found', file, _⟩ := stat_eq_file_iff.1 stat
  obtain rfl : path' = path := Except.ok.inj (found'.symm.trans found)
  have leaf (other : List PathText) (n' : Node) (there : d.node? other = some n') :
      other.dropLast ≠ path' := by
    rintro rfl
    cases file.symm.trans (sound.closed other n' there)
  refine ⟨sound.closed.removeNode fun other n' _ => leaf other n', ?_⟩
  rw [node?_removeNode, if_neg]
  · exact sound.begins
  · rintro ⟨_, same⟩
    rw [same] at file
    cases file.symm.trans sound.begins

theorem link (sound : d.Sound absolute) (source : Place) (begins : p.isAbsolute = absolute) :
    (d.link source p).2.Sound absolute := by
  unfold Disk.link
  split
  · exact sound
  · exact sound
  · exact sound
  · next found =>
    split
    · exact sound
    next empty =>
    split
    · exact sound
    · exact sound.setNode begins found (by simpa using empty) _

theorem copyFile (sound : d.Sound absolute) (source : Place) (begins : p.isAbsolute = absolute) :
    (d.copyFile source p).2.Sound absolute := by
  unfold Disk.copyFile
  split
  · exact sound
  · exact sound
  · have created := sound.create begins
    generalize d.create p = outcome at created ⊢
    split
    · exact created
    · exact created.setBody _ _

end Sound

/-- Only an empty directory is removed, and it may be the one where ways begin. -/
theorem Closed.removeDirectory (closed : d.Closed) (p : Place) :
    (d.removeDirectory p).2.Closed := by
  unfold Disk.removeDirectory
  split
  · exact closed
  next path found =>
  split
  · exact closed
  · exact closed
  split
  · next empty =>
    refine closed.removeNode fun other n below there parent => ?_
    have key : other ∈ d.nodes.keys := by
      rw [Table.mem_keys_iff]
      simp [node?, below] at there
      simp [there]
    have child : other.getLast below ∈ d.children path := by
      refine List.mem_filterMap.2 ⟨other, key, ?_⟩
      rw [if_pos parent, List.getLast?_eq_some_getLast below]
    simp [empty] at child
  · exact closed

/-! ## Calls that fail, and calls that cannot -/

theorem removeFile_of_error {fault : Fault} (failed : (d.removeFile p).1 = .error fault) : (d.removeFile p).2 = d := by
  unfold removeFile at failed ⊢
  split
  · rfl
  split
  · rfl
  · rfl
  · simp_all

theorem removeDirectory_of_error {fault : Fault}
    (failed : (d.removeDirectory p).1 = .error fault) : (d.removeDirectory p).2 = d := by
  unfold removeDirectory at failed ⊢
  split
  · rfl
  split
  · rfl
  · rfl
  split
  · simp_all
  · rfl

theorem openForWriting_of_error {fault : Fault} (failed : (d.openForWriting p).1 = .error fault) :
    (d.openForWriting p).2 = d := by
  unfold openForWriting at failed ⊢
  split
  · rfl
  split
  · rfl
  split
  · rfl
  · rfl
  · simp_all

theorem create_of_error {fault : Fault} (failed : (d.create p).1 = .error fault) :
    (d.create p).2 = d := by
  have same (fault : Fault) : (d.openForWriting p).1 = .error fault →
      (d.openForWriting p).2 = d := openForWriting_of_error
  unfold create at failed ⊢
  generalize d.openForWriting p = outcome at failed same ⊢
  obtain ⟨_ | _, d'⟩ := outcome
  · exact same _ rfl
  · cases failed

/-- Where nothing is in a directory, a file can be made. -/
theorem create_of_free (found : d.locate p = .ok path) (plain : p.wantsDirectory = false)
    (empty : d.node? path = none) : ∃ n d', d.create p = (.ok n, d') := by
  simp [create, openForWriting, plain, found, empty]

theorem copyFile_of_error {source : Place} {fault : Fault}
    (failed : (d.copyFile source p).1 = .error fault) : (d.copyFile source p).2 = d := by
  have same (fault : Fault) : (d.create p).1 = .error fault → (d.create p).2 = d :=
    create_of_error
  unfold copyFile at failed ⊢
  split
  · rfl
  · rfl
  next stat =>
  rw [stat] at failed
  dsimp only at failed
  generalize d.create p = outcome at failed same ⊢
  obtain ⟨_ | _, d'⟩ := outcome
  · exact same _ rfl
  · cases failed

theorem copyFile_of_free {source : Place} (file : d.isFile source = true)
    (found : d.locate p = .ok path) (plain : p.wantsDirectory = false)
    (empty : d.node? path = none) : (d.copyFile source p).1 = .ok () := by
  obtain ⟨n, stat⟩ := isFile_iff.1 file
  obtain ⟨m, d', created⟩ := create_of_free found plain empty
  simp [copyFile, stat, created]

theorem link_of_error {source : Place} {fault : Fault}
    (failed : (d.link source p).1 = .error fault) : (d.link source p).2 = d := by
  unfold link at failed ⊢
  split
  · rfl
  · rfl
  · rfl
  split
  · rfl
  split
  · rfl
  · simp_all

theorem link_of_free {source : Place} (file : d.isFile source = true)
    (found : d.locate p = .ok path) (plain : p.wantsDirectory = false)
    (empty : d.node? path = none) : (d.link source p).1 = .ok () := by
  obtain ⟨n, stat⟩ := isFile_iff.1 file
  simp [link, stat, found, plain, empty]

/-! ## Ways that do not lead up -/

theorem prefix_of_follow {way last : List PathText} (forward : ∀ name ∈ way, name ≠ .text "..")
    (ends : d.follow dir way = .ok last) : dir <+: last := by
  induction way generalizing dir with
  | nil => exact Except.ok.inj ends ▸ List.prefix_rfl
  | cons name rest ih =>
    obtain ⟨next, stepped, _, ends⟩ := follow_cons_eq_ok_iff.1 ends
    have further := ih (fun n mem => forward n (List.mem_cons_of_mem _ mem)) ends
    unfold step at stepped
    rw [if_neg (forward name List.mem_cons_self)] at stepped
    split at stepped
    · exact Except.ok.inj stepped ▸ further
    split at stepped
    · cases stepped
    · exact (List.prefix_append dir [name]).trans (Except.ok.inj stepped ▸ further)

/-- Such a way can be followed wherever there are directories above its end. -/
theorem follow_of_above {way last : List PathText} (forward : ∀ name ∈ way, name ≠ .text "..")
    (ends : d'.follow dir way = .ok last)
    (above : ∀ higher, higher <+: last → d.node? higher = some .directory) :
    d.follow dir way = .ok last := by
  induction way generalizing dir with
  | nil => exact ends
  | cons name rest ih =>
    obtain ⟨next, stepped, _, ends⟩ := follow_cons_eq_ok_iff.1 ends
    have rest_forward : ∀ n ∈ rest, n ≠ .text ".." :=
      fun n mem => forward n (List.mem_cons_of_mem _ mem)
    exact follow_cons_eq_ok_iff.2
      ⟨next, stepped, above next (prefix_of_follow rest_forward ends), ih rest_forward ends⟩

/-- On a closed disk that is so for the way to what is there. -/
theorem Closed.follow_of_beneath (closed : d.Closed) {way mid : List PathText} {last : PathText}
    {n : Node} (there : d.node? (mid ++ [last]) = some n)
    (forward : ∀ name ∈ way, name ≠ .text "..") (ends : d'.follow dir way = .ok mid) :
    d.follow dir way = .ok mid := by
  refine follow_of_above forward ends fun higher le => ?_
  refine closed.above there (le.trans (List.prefix_append mid [last])) fun eq => ?_
  have short := le.length_le
  simp only [eq, List.length_append, List.length_cons, List.length_nil] at short
  omega

end ArtifactCache.Disk
