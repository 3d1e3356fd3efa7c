import ArtifactCache.Proofs.Climbing
import ArtifactCache.Proofs.FileNames

/-!
What a store leaves of its disk as it was. All that its calls do to a disk is to put
something at a place to which the store comes and where nothing is, to give a file other
bytes, and to take something away (`Files.Spares`). What each of these keeps is kept as long
as the store is in use (`Files.Spares.after`).
-/
namespace ArtifactCache

namespace PathText

section
variable {α : Type} [DecidableEq α] {slash dot : α}

/-- A path has the parent that it has without slashes and dots at its end. -/
theorem parentList?_tidyList {path above : List α}
    (parent : parentList? slash dot path = some above) :
    parentList? slash dot (tidyList slash dot path) = some above := by
  have some_left : trim slash dot path.reverse ≠ [] := by
    intro nothing
    simp [parentList?, nothing] at parent
  have tidied : tidyList slash dot path = (trim slash dot path.reverse).reverse := by
    simp [tidyList, some_left]
  rw [← parent, tidied, parentList?, parentList?, List.reverse_reverse, trim_trim]

/-- The names of a parent come first among those of the path. -/
theorem namesOf_parentList? (ne : dot ≠ slash) {path above : List α}
    (parent : parentList? slash dot path = some above) :
    namesOf slash above <+: namesOf slash path := by
  obtain ⟨k, names⟩ : ∃ k, namesOf slash path =
      namesOf slash (tidyList slash dot path) ++ List.replicate k [dot] := namesOf_tidyList ne path
  obtain ⟨j, last, names_tidy⟩ : ∃ j last, namesOf slash (tidyList slash dot path) =
      namesOf slash above ++ List.replicate j [dot] ++ [last] :=
    namesOf_of_parentList? ne (tidyList_tidyList path) (parentList?_tidyList parent)
  rw [names, names_tidy, List.append_assoc, List.append_assoc]
  exact List.prefix_append _ _

end

theorem stepsOf_parent? {s : String} {q : PathText} (parent : (text s).parent? = some q) :
    ∃ t, q = .text t ∧ q.isAbsolute = (text s).isAbsolute ∧
      Place.stepsOf q <+: Place.stepsOf (.text s) := by
  obtain ⟨above, shorter, rfl⟩ := Option.map_eq_some_iff.1 parent
  refine ⟨_, rfl, ?_, ?_⟩
  · simp [isAbsolute, (of_parentList?_eq_some shorter).2]
  · rw [Place.stepsOf_text, Place.stepsOf_text, String.toList_ofList]
    exact (namesOf_parentList? (by decide) shorter).map _

theorem stepsOf_tidy_prefix_self (s : String) :
    ∃ t, (text s).tidy = .text t ∧ (text t).isAbsolute = (text s).isAbsolute ∧
      Place.stepsOf (.text t) <+: Place.stepsOf (.text s) := by
  obtain ⟨k, steps⟩ := Place.stepsOf_tidy s
  refine ⟨_, rfl, by simp [isAbsolute, head?_tidyList], ?_⟩
  rw [steps]
  exact List.prefix_append _ _

end PathText

namespace Files
variable {f : Files} {p q : Place} {r : Resource}

/-! ## Where a store comes -/

/-- The place of a resource, or one on the way to the root. -/
def ComesTo (f : Files) (p : Place) : Prop :=
  (∃ r, p = f.placeOf r) ∨ ∃ s, p = { base := .text s } ∧
    (PathText.text s).isAbsolute = (PathText.text f.root).isAbsolute ∧
    Place.stepsOf (.text s) <+: Place.stepsOf (.text f.root)

theorem comesTo_placeOf (f : Files) (r : Resource) : f.ComesTo (f.placeOf r) := .inl ⟨r, rfl⟩

/-- Above the place of a resource is that of its parent, or the root or what is above that. -/
theorem comesTo_of_parent?_placeOf (parent : (f.placeOf r).parent? = some q) : f.ComesTo q := by
  have tidied : f.ComesTo { base := (PathText.text f.root).tidy } := by
    obtain ⟨t, eq, absolute, steps⟩ := PathText.stepsOf_tidy_prefix_self f.root
    exact .inr ⟨t, by rw [eq], absolute, steps⟩
  obtain root | ⟨init, last, segments⟩ := List.eq_nil_or_concat r.path.segments
  · by_cases named : Location.directoryName r.location.uri = ""
    · have shown : (f.placeOf r).parent? =
          (PathText.text f.root).parent?.map fun base => { base } := by
        simp [Place.parent?, placeOf, root, named]
      obtain ⟨base, above, rfl⟩ := Option.map_eq_some_iff.1 (shown.symm.trans parent)
      obtain ⟨t, rfl, absolute, steps⟩ := PathText.stepsOf_parent? above
      exact .inr ⟨t, rfl, absolute, steps⟩
    · have split : Location.directoryName r.location.uri :: r.path.segments =
          [] ++ [Location.directoryName r.location.uri] := by simp [root]
      rw [parent?_placeOf named split] at parent
      exact Option.some.inj parent ▸ tidied
  · have segment := r.path.named last (by simp [segments])
    have split : Location.directoryName r.location.uri :: r.path.segments =
        (Location.directoryName r.location.uri :: init) ++ [last] := by simp [segments]
    rw [parent?_placeOf segment.1 split] at parent
    -- Only the name of the directory can be empty.
    have kept : (Location.directoryName r.location.uri :: init).reverse.dropWhile (· = "") = [] ∨
        (Location.directoryName r.location.uri :: init).reverse.dropWhile (· = "") =
          (Location.directoryName r.location.uri :: init).reverse := by
      obtain rfl | ⟨higher, name, rfl⟩ := List.eq_nil_or_concat init
      · by_cases named : Location.directoryName r.location.uri = "" <;> simp [named]
      · have named := (r.path.named name (by simp [segments])).1
        simp [named]
    split at parent
    · exact Option.some.inj parent ▸ tidied
    · next some_left =>
      obtain nothing | whole := kept
      · exact absurd nothing some_left
      · refine .inl ⟨r.parent, ?_⟩
        rw [← Option.some.inj parent, whole, List.reverse_reverse]
        simp [placeOf, Resource.parent, Path.parent, segments]

theorem ComesTo.parent (comes : f.ComesTo p) (parent : p.parent? = some q) : f.ComesTo q := by
  obtain ⟨r, rfl⟩ | ⟨s, rfl, absolute, steps⟩ := comes
  · exact comesTo_of_parent?_placeOf parent
  · obtain ⟨base, above, rfl⟩ := Option.map_eq_some_iff.1
      (show (PathText.text s).parent?.map (fun base => ({ base } : Place)) = some q from parent)
    obtain ⟨t, rfl, absolute_t, steps_t⟩ := PathText.stepsOf_parent? above
    exact .inr ⟨t, rfl, absolute_t.trans absolute, steps_t.trans steps⟩

theorem ComesTo.upward (comes : f.ComesTo p) {n : Nat} (mem : q ∈ p.upward n) : f.ComesTo q := by
  induction n generalizing p with
  | zero => exact List.mem_singleton.1 mem ▸ comes
  | succ n ih =>
    obtain rfl | mem := List.mem_cons.1 mem
    · exact comes
    cases parent : p.parent? with
    | none => simp [parent] at mem
    | some above =>
      rw [parent] at mem
      exact ih (comes.parent parent) mem

/-! ## What a call keeps -/

/-- Whatever the store does to a disk, the property holds on. -/
structure Spares (f : Files) (Q : Disk → Prop) : Prop where
  /-- What is put somewhere is a directory or another name of a file. -/
  setNode {d : Disk} {p : Place} {path : List PathText} {n : Node} : Q d → f.ComesTo p →
    d.locate p = .ok path → d.node? path = none → (n ≠ .directory → ∃ q, d.stat q = .ok n) →
    Q (d.setNode path n)
  addFile {d : Disk} {p : Place} {path : List PathText} : Q d → f.ComesTo p →
    d.locate p = .ok path → d.node? path = none → Q (d.addFile path)
  setBody {d : Disk} (n : Nat) (bytes : Bytes) : Q d → Q (d.setBody n bytes)
  /-- What is taken away is a file, or a directory with nothing in it. -/
  removeNode {d : Disk} (path : List PathText) : Q d →
    ((∃ n, d.node? path = some (.file n)) ∨ d.children path = []) → Q (d.removeNode path)

namespace Spares
variable {Q : Disk → Prop} {d : Disk}

theorem makeDirectory (spares : f.Spares Q) (comes : f.ComesTo p) (here : Q d) :
    Q (d.makeDirectory p).2 := by
  unfold Disk.makeDirectory
  split
  · exact here
  next path found =>
  split
  · exact here
  next empty =>
  exact spares.setNode here comes found (by simpa using empty) fun other => absurd rfl other

theorem makeDirectories (spares : f.Spares Q) (comes : f.ComesTo p) (here : Q d) :
    Q (d.makeDirectories p).2 :=
  Disk.makeFirst_keeps (fun _ mem _ here => spares.makeDirectory (comes.upward mem) here) here

theorem openForWriting (spares : f.Spares Q) (comes : f.ComesTo p) (here : Q d) :
    Q (d.openForWriting p).2 := by
  obtain same | ⟨path, found, _, empty, opened⟩ := Disk.openForWriting_cases p d
  · exact same.symm ▸ here
  · rw [opened]
    exact spares.addFile here comes found empty

theorem create (spares : f.Spares Q) (comes : f.ComesTo p) (here : Q d) : Q (d.create p).2 := by
  have opened := spares.openForWriting comes here
  unfold Disk.create
  generalize d.openForWriting p = outcome at opened ⊢
  obtain ⟨_ | n, d₁⟩ := outcome
  · exact opened
  · exact spares.setBody n [] opened

theorem copyFile (spares : f.Spares Q) (source : Place) (comes : f.ComesTo p) (here : Q d) :
    Q (d.copyFile source p).2 := by
  unfold Disk.copyFile
  split
  · exact here
  · exact here
  next n _ =>
  have created := spares.create comes here
  generalize d.create p = outcome at created ⊢
  obtain ⟨_ | m, d₁⟩ := outcome
  · exact created
  · exact spares.setBody m _ created

theorem link (spares : f.Spares Q) (source : Place) (comes : f.ComesTo p) (here : Q d) :
    Q (d.link source p).2 := by
  unfold Disk.link
  split
  · exact here
  · exact here
  · exact here
  next n path stat found =>
  split
  · exact here
  next empty =>
  split
  · exact here
  · exact spares.setNode here comes found (by simpa using empty) fun _ => ⟨source, stat⟩

theorem removeFile (spares : f.Spares Q) (p : Place) (here : Q d) : Q (d.removeFile p).2 := by
  unfold Disk.removeFile
  split
  · exact here
  next path found =>
  split
  · exact here
  · exact here
  next n stat =>
  obtain ⟨path', found', node, _⟩ := Disk.stat_eq_file_iff.1 stat
  obtain rfl := Except.ok.inj (found.symm.trans found')
  exact spares.removeNode path here (.inl ⟨n, node⟩)

theorem removeDirectory (spares : f.Spares Q) (p : Place) (here : Q d) :
    Q (d.removeDirectory p).2 := by
  unfold Disk.removeDirectory
  split
  · exact here
  split
  · exact here
  · exact here
  split
  · next empty => exact spares.removeNode _ here (.inr empty)
  · exact here

section
variable {α : Type} {activity : Activity} {go : Disk → Except Failure α × Disk}

theorem withParent (spares : f.Spares Q) (comes : f.ComesTo p) (rest : ∀ d, Q d → Q (go d).2)
    (here : Q d) : Q (Files.withParent activity p d go).2 := by
  unfold Files.withParent
  split
  · exact rest d here
  next above parent =>
  split
  · exact rest d here
  have made := spares.makeDirectories (comes.parent parent) here
  generalize d.makeDirectories above = outcome at made ⊢
  split
  · exact made
  · exact rest _ made

theorem replacing (spares : f.Spares Q) (rest : ∀ d, Q d → Q (go d).2) (here : Q d) :
    Q (Files.replacing activity p d go).2 := by
  unfold Files.replacing
  split
  · have removed := spares.removeFile p here
    generalize d.removeFile p = outcome at removed ⊢
    split
    · exact removed
    · exact rest _ removed
  · exact rest d here

end

theorem openWriter (spares : f.Spares Q) (r : Resource) (here : Q d) :
    Q (f.openWriter r d).2 := by
  refine spares.withParent (f.comesTo_placeOf r) (fun d here => ?_) here
  have created := spares.create (f.comesTo_placeOf r) here
  generalize d.create (f.placeOf r) = outcome at created ⊢
  split <;> exact created

theorem copy (spares : f.Spares Q) (source target : Resource) (here : Q d) :
    Q (f.copy source target d).2 := by
  unfold Files.copy
  dsimp only
  split
  · exact here
  refine spares.withParent (f.comesTo_placeOf target) (fun d here => ?_) here
  refine spares.replacing (fun d here => ?_) here
  rw [snd_reporting]
  exact spares.copyFile _ (f.comesTo_placeOf target) here

theorem delete (spares : f.Spares Q) (r : Resource) (here : Q d) : Q (f.delete r d).2 := by
  have removed : Q (if d.isDirectory (f.placeOf r) then d.removeDirectory (f.placeOf r)
      else d.removeFile (f.placeOf r)).2 := by
    split
    · exact spares.removeDirectory _ here
    · exact spares.removeFile _ here
  unfold Files.delete
  dsimp only
  generalize (if d.isDirectory (f.placeOf r) then d.removeDirectory (f.placeOf r)
    else d.removeFile (f.placeOf r)) = outcome at removed ⊢
  split <;> exact removed

theorem createFile (spares : f.Spares Q) (r : Resource) (here : Q d) :
    Q (f.createFile r d).2 := by
  refine spares.withParent (f.comesTo_placeOf r) (fun d here => ?_) here
  have opened := spares.openForWriting (f.comesTo_placeOf r) here
  generalize d.openForWriting (f.placeOf r) = outcome at opened ⊢
  split <;> exact opened

theorem createAlias (spares : f.Spares Q) (source target : Resource) (here : Q d) :
    Q (f.createAlias source target d).2 := by
  unfold Files.createAlias
  dsimp only
  split
  · exact here
  split
  · exact spares.copy source target here
  have prepared : Q (Files.withParent .createAlias (f.placeOf target) d fun d =>
      Files.replacing .createAlias (f.placeOf target) d fun d => (.ok (), d)).2 :=
    spares.withParent (f.comesTo_placeOf target)
      (fun _ => spares.replacing fun _ here => here) here
  split
  · exact prepared
  · rw [snd_reporting]
    exact spares.link _ (f.comesTo_placeOf target) prepared

theorem run (spares : f.Spares Q) (q : Request) (here : Q d) : Q (q.run f.backend d).2 := by
  cases q <;> simp only [Request.run, Request.snd_keeping]
  case openWriter r => exact spares.openWriter r here
  case copy source target => exact spares.copy source target here
  case delete r => exact spares.delete r here
  case mkdirs r =>
    change Q (f.mkdirs r d).2
    rw [mkdirs, snd_reporting]
    exact spares.makeDirectories (f.comesTo_placeOf r) here
  case createFile r => exact spares.createFile r here
  case createAlias source target => exact spares.createAlias source target here

theorem perform (spares : f.Spares Q) {u : Usage Disk Disk.Writer} (call : Call)
    (here : Q u.store) : Q (u.perform f.backend call).store := by
  cases call with
  | ask q =>
    rw [Usage.store_perform_ask]
    exact spares.run q here
  | write i bytes =>
    unfold Usage.perform
    dsimp only
    split
    · exact here
    · exact Disk.Writer.keeps_write (fun _ bytes => spares.setBody _ bytes) bytes here
  | flush i =>
    unfold Usage.perform
    dsimp only
    split
    · exact here
    · exact Disk.Writer.keeps_flush (fun _ bytes => spares.setBody _ bytes) here
  | close i =>
    unfold Usage.perform
    dsimp only
    split
    · exact here
    · exact Disk.Writer.keeps_flush (fun _ bytes => spares.setBody _ bytes) here

/-- **What every change keeps holds while the store is in use.** -/
theorem after (spares : f.Spares Q) (calls : List Call) (here : Q d) :
    Q (Usage.after f.backend d calls).store := by
  induction calls using List.reverseRecOn with
  | nil => exact here
  | append_singleton calls call ih =>
    rw [Usage.after_append_singleton]
    exact spares.perform call ih

end Spares
end Files
end ArtifactCache
