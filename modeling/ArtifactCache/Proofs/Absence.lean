import ArtifactCache.Memory
import ArtifactCache.Proofs.Accord
import ArtifactCache.Proofs.FilePlaces
import ArtifactCache.Proofs.Growth
import ArtifactCache.Proofs.Hierarchy
import ArtifactCache.Proofs.Waiting

/-!
Absence. What is not there is answered for, and not an error: in memory always,
on disk unless the path is too long or goes through a file (`Files.Bars`). Then
the operating system has other words for what is missing than that it is missing,
and the store on disk passes them on (`absence_answered_iff_not_barred`).
-/
namespace ArtifactCache

/-- A name that a file may have. -/
def IsFileName (s : String) : Prop :=
  IsSegment s ∧ '\x00' ∉ s.toList ∧ s.utf8ByteSize ≤ Disk.maxName

instance (s : String) : Decidable (IsFileName s) := by unfold IsFileName; infer_instance

/-- The directory name of the location and all segments are names that files may have. -/
def Resource.IsNameable (r : Resource) : Prop :=
  ∀ name ∈ Location.directoryName r.location.uri :: r.path.segments, IsFileName name

instance (r : Resource) : Decidable r.IsNameable := by
  unfold Resource.IsNameable
  infer_instance

namespace Files

/-- The root is a path that the operating system takes, if it is not too long. -/
structure IsUsable (f : Files) : Prop where
  noNul : '\x00' ∉ f.root.toList
  short : ∀ name ∈ Place.stepsOf f.root, name.size ≤ Disk.maxName

/-- The path of the resource is too long, or there is a file on the way to it. -/
def Bars (f : Files) (r : Resource) (d : Disk) : Prop :=
  let p := f.placeOf r
  Disk.maxPath < p.path.size ∨ d.MeetsFile (d.start p) p.steps.dropLast

end Files

/-- How a store answers for what is not there. -/
structure Backend.AnswersAbsence {S R W : Type} (b : Backend S R W) (bars : Prop) (r : Resource)
    (s : S) : Prop where
  read : b.isFile r s = false → (b.openReader r s = .ok none ↔ ¬ bars)
  deleteAbsent : b.present r s = false → ((b.delete r s).1 = .ok false ↔ ¬ bars)
  deletePresent : b.present r s = true →
    (b.delete r s).1 = .ok true ∨ ∃ e, (b.delete r s).1 = .error e

/-! ## In memory -/

namespace Memory
variable {linking : Bool} {m : Memory} {r q : Resource}

theorem present_eq_false_iff : (backend linking).present r m = false ↔
    m.isFile r.address = false ∧ m.isDirectory r.address = false := by
  simp [backend]

theorem answersAbsence (linking : Bool) (m : Memory) (r : Resource) :
    (backend linking).AnswersAbsence False r m where
  read absent := by
    have nothing : m.content? r.address = none := by
      simpa [backend, content?, isFile, Table.contains] using absent
    simp [backend, nothing]
  deleteAbsent absent := by
    obtain ⟨noFile, noDirectory⟩ := present_eq_false_iff.1 absent
    rw [isDirectory, Bool.or_eq_false_iff] at noDirectory
    obtain ⟨explicit, beneath⟩ := noDirectory
    simp [backend, delete, noFile, beneath, -List.contains_eq_mem, explicit]
  deletePresent there := by
    simp only [backend, delete]
    cases file : m.isFile r.address with
    | true => exact .inl rfl
    | false =>
      cases beneath : m.hasBeneath r.address with
      | true => exact .inr ⟨_, rfl⟩
      | false =>
        have explicit : r.address ∈ m.directories := by
          simpa [backend, isDirectory, file, beneath] using there
        exact .inl (by simp [explicit])

/-- Deleting makes nothing appear. -/
theorem absent_delete (q : Resource) (absent : (backend linking).present r m = false) :
    (backend linking).present r (m.delete q).2 = false := by
  rw [present_eq_false_iff] at absent ⊢
  refine ⟨Bool.not_eq_true _ |>.mp fun file => ?_, Bool.not_eq_true _ |>.mp fun directory => ?_⟩
  · have before := isFile_of_isFile_delete file
    simp [absent.1] at before
  · have before := isDirectory_mono (fun _ => isFile_of_isFile_delete)
      (directories_delete_subset m q) directory
    simp [absent.2] at before

end Memory

/-! ## On disk -/

namespace Disk
variable {d d' : Disk} {p : Place}

theorem Shrinks.isPresent (shrinks : Shrinks d d') (there : d'.isPresent p = true) :
    d.isPresent p = true := by
  obtain ⟨node, stat⟩ := isPresent_iff.1 there
  cases node with
  | directory =>
    obtain ⟨path, found, node⟩ := stat_eq_directory_iff.1 stat
    exact isPresent_iff.2 ⟨_, stat_eq_directory_iff.2
      ⟨path, shrinks.passable.locate found, shrinks.node path _ node⟩⟩
  | file n =>
    obtain ⟨path, found, node, plain⟩ := stat_eq_file_iff.1 stat
    exact isPresent_iff.2 ⟨_, stat_eq_file_iff.2
      ⟨path, shrinks.passable.locate found, shrinks.node path _ node, plain⟩⟩

theorem Shrinks.meetsFile (shrinks : Shrinks d d') {dir way : List PathText}
    (meets : d'.MeetsFile dir way) : d.MeetsFile dir way := by
  obtain ⟨before, name, rest, mid, next, n, eq, there, step, file⟩ := meets
  exact ⟨before, name, rest, mid, next, n, eq, shrinks.passable.follow there, step,
    shrinks.node next _ file⟩

/-- What cannot be found cannot be removed, for the same reason. -/
theorem removeFile_of_stat_error {fault : Fault} (lost : d.stat p = .error fault) :
    d.removeFile p = (.error fault, d) := by
  unfold removeFile
  cases found : d.locate p with
  | error fault' =>
    obtain rfl : fault' = fault := Except.error.inj ((stat_of_error found).symm.trans lost)
    rfl
  | ok path => simp [lost]

end Disk

namespace Files
variable {f : Files} {d : Disk} {r q : Resource}

theorem shrinks_delete (f : Files) (r : Resource) (d : Disk) : Disk.Shrinks d (f.delete r d).2 := by
  have removed : Disk.Shrinks d (if d.isDirectory (f.placeOf r) then
      d.removeDirectory (f.placeOf r) else d.removeFile (f.placeOf r)).2 := by
    split
    · exact Disk.shrinks_removeDirectory _ d
    · exact Disk.shrinks_removeFile _ d
  unfold delete
  dsimp only
  split <;> simp_all

theorem trail_ne_nil_of_isNameable (nameable : r.IsNameable) : r.trail ≠ [] := by
  have named : Location.directoryName r.location.uri ≠ "" :=
    (nameable _ List.mem_cons_self).1.1
  simp [Resource.trail, named]

theorem size_le_of_mem_steps (usable : f.IsUsable) (nameable : r.IsNameable) {name : PathText}
    (mem : name ∈ (f.placeOf r).steps) : name.size ≤ Disk.maxName := by
  obtain above | below := List.mem_append.1 (steps_placeOf f r ▸ mem)
  · exact usable.short name above
  · obtain ⟨s, kept, rfl⟩ := List.mem_map.1 below
    exact (nameable s (List.mem_filter.1 kept).1).2.2

theorem hasNul_placeOf (usable : f.IsUsable) (nameable : r.IsNameable) :
    (f.placeOf r).path.hasNul = false := by
  rw [path_placeOf]
  simpa [PathText.hasNul] using PathText.notMem_pushNames (by decide) usable.noNul
    fun name mem => (nameable name mem).2.1

/-- What the operating system answers for a place with a proper name. -/
theorem stat_placeOf_cases (d : Disk) (usable : f.IsUsable) (nameable : r.IsNameable) :
    f.Bars r d ∧ (∃ fault, d.stat (f.placeOf r) = .error fault ∧ fault ≠ .notFound) ∨
    ¬ f.Bars r d ∧ (d.stat (f.placeOf r) = .error .notFound ∨
      ∃ node, d.stat (f.placeOf r) = .ok node) := by
  have below := trail_ne_nil_of_isNameable nameable
  have noNul := hasNul_placeOf usable nameable
  have notEmpty := size_path_placeOf (f := f) below
  by_cases long : Disk.maxPath < (f.placeOf r).path.size
  · exact .inl ⟨.inl long, .nameTooLong,
      Disk.stat_of_error (Disk.locate_of_long noNul notEmpty long), by decide⟩
  have accepted : (f.placeOf r).IsAccepted := ⟨noNul, notEmpty, Nat.not_lt.1 long⟩
  obtain none_left | ⟨way, last, steps⟩ := List.eq_nil_or_concat (f.placeOf r).steps
  · simp [steps_placeOf, below] at none_left
  rw [List.concat_eq_append] at steps
  have short (name : PathText) (mem : name ∈ way ++ [last]) : ¬ Disk.maxName < name.size :=
    Nat.not_lt.2 (size_le_of_mem_steps usable nameable (steps ▸ mem))
  have located := Disk.locate_of_accepted (d := d) accepted steps
  have bars_iff : f.Bars r d ↔ d.MeetsFile (d.start (f.placeOf r)) way := by
    simp [Bars, long, steps]
  rw [bars_iff]
  cases ends : d.follow (d.start (f.placeOf r)) way with
  | error fault =>
    rw [ends] at located
    have lost := Disk.stat_of_error located
    obtain rfl | ⟨_, name, mem, size⟩ | ⟨rfl, meets⟩ := Disk.of_follow_eq_error ends
    · refine .inr ⟨fun meets => ?_, .inl lost⟩
      cases ends.symm.trans (Disk.follow_of_meetsFile meets)
    · exact absurd size (short name (List.mem_append_left _ mem))
    · exact .inl ⟨meets, _, lost, by decide⟩
  | ok dir =>
    rw [ends] at located
    refine .inr ⟨fun meets => ?_, ?_⟩
    · cases ends.symm.trans (Disk.follow_of_meetsFile meets)
    change d.locate (f.placeOf r) = Disk.step dir last at located
    cases stepped : Disk.step dir last with
    | error fault => exact absurd (Disk.of_step_eq_error stepped).2 (short last (by simp))
    | ok path =>
      rw [Disk.stat_of_locate (located.trans stepped), wantsDirectory_placeOf below]
      obtain _ | _ | n := d.node? path
      · exact .inl rfl
      · exact .inr ⟨_, rfl⟩
      · exact .inr ⟨_, rfl⟩

theorem delete_of_notFound (missing : d.stat (f.placeOf r) = .error .notFound) :
    f.delete r d = (.ok false, d) := by
  simp [delete, Disk.isDirectory, missing, Disk.removeFile_of_stat_error missing]

theorem delete_of_stat_error {fault : Fault} (lost : d.stat (f.placeOf r) = .error fault)
    (other : fault ≠ .notFound) :
    f.delete r d = (.error (fail .delete (f.placeOf r) fault), d) := by
  simp [delete, Disk.isDirectory, lost, Disk.removeFile_of_stat_error lost]

theorem answersAbsence (d : Disk) (usable : f.IsUsable) (nameable : r.IsNameable) :
    f.backend.AnswersAbsence (f.Bars r d) r d where
  read absent := by
    simp only [backend, openReader] at absent ⊢
    obtain ⟨bars, fault, lost, other⟩ | ⟨clear, missing | ⟨node, there⟩⟩ :=
      stat_placeOf_cases d usable nameable
    · rw [lost]
      cases fault <;> simp_all
    · simp [missing, clear]
    · cases node with
      | directory => simp [there, clear]
      | file n => simp [Disk.isFile, there] at absent
  deleteAbsent absent := by
    simp only [backend] at absent ⊢
    obtain ⟨bars, fault, lost, other⟩ | ⟨clear, missing | ⟨node, there⟩⟩ :=
      stat_placeOf_cases d usable nameable
    · simp [delete_of_stat_error lost other, bars]
    · simp [delete_of_notFound missing, clear]
    · rw [Disk.isPresent_iff.2 ⟨node, there⟩] at absent
      cases absent
  deletePresent there := by
    simp only [backend] at there ⊢
    obtain ⟨node, stat⟩ := Disk.isPresent_iff.1 there
    cases node with
    | file n =>
      obtain ⟨path, found, _⟩ := Disk.stat_eq_file_iff.1 stat
      simp [delete, Disk.isDirectory, Disk.removeFile, stat, found]
    | directory =>
      obtain ⟨path, found, _⟩ := Disk.stat_eq_directory_iff.1 stat
      by_cases empty : d.children path = []
      · simp [delete, Disk.isDirectory, Disk.removeDirectory, stat, found, empty]
      · simp [delete, Disk.isDirectory, Disk.removeDirectory, stat, found, empty]

/-- Deleting makes nothing appear, and no file that was not in the way. -/
theorem absent_delete (q : Resource) (absent : f.backend.present r d = false)
    (clear : ¬ f.Bars r d) :
    f.backend.present r (f.delete q d).2 = false ∧ ¬ f.Bars r (f.delete q d).2 := by
  have shrinks := shrinks_delete f q d
  refine ⟨Bool.not_eq_true _ |>.mp fun there => ?_, fun bars => clear ?_⟩
  · have before : f.backend.present r d = true := shrinks.isPresent there
    simp [absent] at before
  · obtain long | meets := bars
    · exact .inl long
    · refine .inr (shrinks.meetsFile ?_)
      rwa [shrinks.passable.start]

end Files

/-! ## Deleting everywhere -/

namespace Handle
variable {S R W : Type} {h : Handle S R W} {holds : S → Prop}

/-- The answer of a deletion is that of the store in some state on the way. -/
theorem heeds_delete {good : Except Failure Bool → Prop} (plain : h.cache.hooks? = none)
    (keeps : ∀ s, holds s → holds (h.cache.backend.delete h.resource s).2)
    (answers : ∀ s, holds s → good (h.cache.backend.delete h.resource s).1)
    (t : Thread) (fire : Bool) (m : Metadata) :
    (h.delete t fire m).Heeds (.ofInvariant fun w => holds w.storage)
      (fun _ => False) (fun result _ => good result) () := by
  have idles := Accord.Idles.ofInvariant holds
  refine (idles.awaitFree t h.resource).seq fun _ _ _ => ?_
  rw [consult_of_plain plain]
  have deleted : (Action.alter (h.cache.backend.delete h.resource)).Heeds
      (.ofInvariant fun w => holds w.storage) (fun _ => False) (fun result _ => good result) () :=
    .change fun w _ here _ => .inr ⟨(), keeps _ here, trivial, answers _ here⟩
  refine deleted.seq fun result _ fits => ?_
  obtain e | _ | _ := result
  · exact (idles.reportFailure h fire m _).seq fun _ _ _ => fits
  · exact (idles.reportFailure h fire m _).seq fun _ _ _ => fits
  · cases fire
    · exact fits
    · exact (idles.fire h _).seq fun _ _ _ => fits

end Handle

namespace Search
variable {S R W : Type} {c : Cache S R W} {r : Resource} {absent : S → Prop}

/-- One outcome for each resource, and for `r` none but absence. -/
def TellsAbsent (r : Resource) (rs : List Resource)
    (outcomes : List (Resource × DeleteOutcome)) : Prop :=
  outcomes.map (·.1) = rs ∧ ∀ outcome, (r, outcome) ∈ outcomes → outcome = .absent

theorem TellsAbsent.cons {q : Resource} {rs : List Resource}
    {outcomes : List (Resource × DeleteOutcome)} {outcome : DeleteOutcome}
    (right : q = r → outcome = .absent) (rest : TellsAbsent r rs outcomes) :
    TellsAbsent r (q :: rs) ((q, outcome) :: outcomes) := by
  refine ⟨by simp [rest.1], fun outcome' mem => ?_⟩
  obtain eq | mem := List.mem_cons.1 mem
  · obtain ⟨rfl, rfl⟩ := Prod.mk.inj eq
    exact right rfl
  · exact rest.2 outcome' mem

theorem heeds_visit (plain : c.hooks? = none)
    (keeps : ∀ q s, absent s → absent (c.backend.delete q s).2)
    (answers : ∀ s, absent s → (c.backend.delete r s).1 = .ok false)
    (t : Thread) (m : Metadata) (rs : List Resource) :
    (deleteAll.visit (c.supplier t) m rs).Heeds (.ofInvariant fun w => absent w.storage)
      (fun _ => False) (fun outcomes _ => TellsAbsent r rs outcomes) () := by
  induction rs with
  | nil => exact ⟨rfl, fun _ mem => by cases mem⟩
  | cons q rest ih =>
    have deleted : ((c.handle q).delete t true m).Heeds
        (.ofInvariant fun w => absent w.storage) (fun _ => False)
        (fun result _ => q = r → result = .ok false) () :=
      Handle.heeds_delete plain (keeps q) (fun s here eq => eq ▸ answers s here) t true m
    refine deleted.seq fun result _ fits => ?_
    obtain e | _ | _ := result
    · refine ((Accord.Idles.ofInvariant absent).note _).seq fun _ _ _ => ih.seq fun _ _ visited => ?_
      exact visited.cons fun eq => by cases fits eq
    · exact ih.seq fun _ _ visited => visited.cons fun _ => rfl
    · exact ih.seq fun _ _ visited => visited.cons fun eq => by cases fits eq

/-- Deleting everywhere reports as absent what is absent all the time. -/
theorem heeds_deleteAll (plain : c.hooks? = none)
    (keeps : ∀ q s, absent s → absent (c.backend.delete q s).2)
    (answers : ∀ s, absent s → (c.backend.delete r s).1 = .ok false)
    (t : Thread) (spread : Spread) (m : Metadata) :
    (deleteAll (c.supplier t) spread m).Heeds (.ofInvariant fun w => absent w.storage)
      (fun _ => False) (fun report _ => TellsAbsent r spread.resources report.outcomes) () := by
  have visit := heeds_visit plain keeps answers t m spread.resources
  refine visit.seq fun outcomes _ visited => ?_
  dsimp only
  split
  · exact ((Accord.Idles.ofInvariant absent).note _).seq fun _ _ _ => visited
  · exact visited

/-- As long as nobody makes the resource appear, deleting everywhere reports it as
absent, whatever others do meanwhile; and it ends if no lock is in the way. -/
def ReportsAbsence (c : Cache S R W) (r : Resource) (absent : S → Prop) : Prop :=
  ∀ (t : Thread) (spread : Spread) (m : Metadata) (w : World S), absent w.storage →
    (Locks.Open t w.locks →
      ∃ report e, (deleteAll (c.supplier t) spread m).run w = .finished report e) ∧
    ∀ report e, (deleteAll (c.supplier t) spread m).Yields
      (fun w w' => absent w.storage → absent w'.storage) w report e →
      TellsAbsent r spread.resources report.outcomes

theorem reportsAbsence (plain : c.hooks? = none)
    (keeps : ∀ q s, absent s → absent (c.backend.delete q s).2)
    (answers : ∀ s, absent s → (c.backend.delete r s).1 = .ok false) :
    ReportsAbsence c r absent := by
  intro t spread m w here
  constructor
  · intro way
    have follows : Follows t .guards (fun _ => []) [] (deleteAll (c.supplier t) spread m) :=
      (keeps_deleteAll spread m).follows
    obtain ⟨report, e, ends, _⟩ := follows.finishes way
    exact ⟨report, e, ends⟩
  · intro report e yields
    exact ((heeds_deleteAll plain keeps answers t spread m).of_yields
      (fun _ _ moved => moved) yields here).1

end Search

/-- **Absence is an answer.** In memory it always is, and on disk it is exactly
unless the resource is barred. -/
theorem absence_answered_iff_not_barred (r : Resource) :
    (∀ (linking : Bool) (m : Memory), (Memory.backend linking).AnswersAbsence False r m) ∧
    (∀ (f : Files) (d : Disk), f.IsUsable → r.IsNameable →
      f.backend.AnswersAbsence (f.Bars r d) r d) ∧
    (∀ (linking : Bool) (c : Cache Memory Bytes Memory.Writer),
      c.backend = Memory.backend linking → c.hooks? = none →
      Search.ReportsAbsence c r fun m => (Memory.backend linking).present r m = false) ∧
    (∀ (f : Files) (c : Cache Disk Disk.Reader Disk.Writer),
      c.backend = f.backend → c.hooks? = none → f.IsUsable → r.IsNameable →
      Search.ReportsAbsence c r fun d => f.backend.present r d = false ∧ ¬ f.Bars r d) := by
  refine ⟨fun linking m => Memory.answersAbsence linking m r, fun f d => Files.answersAbsence d,
    fun linking c inside plain => ?_, fun f c inside plain usable nameable => ?_⟩
  · refine Search.reportsAbsence plain (fun q m absent => ?_) fun m absent => ?_
    · rw [inside]
      exact Memory.absent_delete q absent
    · rw [inside]
      exact ((Memory.answersAbsence linking m r).deleteAbsent absent).2 id
  · refine Search.reportsAbsence plain (fun q d absent => ?_) fun d absent => ?_
    · rw [inside]
      exact Files.absent_delete q absent.1 absent.2
    · rw [inside]
      exact ((Files.answersAbsence d usable nameable).deleteAbsent absent.1).2 absent.2

/-- A path on an empty disk, in one location. -/
theorem absence_answered_on_empty_disk :
    let f : Files := { root := "/cache" }
    let l : Location := { name := "local", uri := "file:///srv/local" }
    let r : Resource := .ofText l "a/b"
    let spread : Spread := ⟨[l], .ofText "a/b", by simp⟩
    f.IsUsable ∧ r.IsNameable ∧ f.backend.isFile r {} = false ∧
      f.backend.openReader r {} = .ok none ∧ (f.backend.delete r {}).1 = .ok false ∧
      (∃ report e, (Search.deleteAll (Cache.supplier { backend := f.backend } 0) spread ∅).run
          { storage := {} } = .finished report e ∧ report.outcomes = [(r, .absent)]) ∧
      ∃ report e, (Search.deleteAll (Cache.supplier { backend := Memory.backend false } 0)
        spread ∅).run { storage := .empty } = .finished report e ∧
        report.outcomes = [(r, .absent)] := by
  intro f l r spread
  obtain ⟨_, onDisk, everywhere, everywhereOnDisk⟩ := absence_answered_iff_not_barred r
  have usable : f.IsUsable := ⟨by decide, by decide⟩
  have nameable : r.IsNameable := by decide
  have clear : ¬ f.Bars r {} := by
    rintro (long | ⟨_, _, _, _, next, n, _, _, _, file⟩)
    · exact absurd long (by decide)
    · simp only [Disk.node?] at file
      split at file <;> cases file
  have answers := onDisk f {} usable nameable
  have absent : f.backend.present r {} = false := by decide
  have only {report : DeleteReport}
      (told : Search.TellsAbsent r spread.resources report.outcomes) :
      report.outcomes = [(r, .absent)] := by
    obtain ⟨⟨q, outcome⟩, eq, here⟩ := List.map_eq_singleton_iff.1 told.1
    obtain rfl : q = r := here
    rw [eq, told.2 outcome (by rw [eq]; exact List.mem_singleton_self _)]
  refine ⟨usable, nameable, by decide, (answers.read (by decide)).2 clear,
    (answers.deleteAbsent absent).2 clear, ?_, ?_⟩
  · obtain ⟨ends, tells⟩ := everywhereOnDisk f { backend := f.backend } rfl rfl usable nameable
      0 spread ∅ { storage := {} } ⟨absent, clear⟩
    obtain ⟨report, e, run⟩ := ends fun _ => rfl
    exact ⟨report, e, run, only (tells report e (.of_run run))⟩
  · obtain ⟨ends, tells⟩ := everywhere false { backend := Memory.backend false } rfl rfl
      0 spread ∅ { storage := .empty } rfl
    obtain ⟨report, e, run⟩ := ends fun _ => rfl
    exact ⟨report, e, run, only (tells report e (.of_run run))⟩

/-- Below a file there is nothing, but reading and deleting fail. -/
theorem absence_refused_below_file :
    let f : Files := { root := "/cache" }
    let l : Location := { name := "local", uri := "file:///srv/local" }
    let r : Resource := .ofText l "a/b"
    let spread : Spread := ⟨[l], .ofText "a/b", by simp⟩
    let d := (Usage.after f.backend {} [.ask (.createFile (.ofText l "a"))]).store
    f.IsUsable ∧ r.IsNameable ∧ f.backend.isFile r d = false ∧ f.backend.present r d = false ∧
      f.backend.openReader r d = .error (Files.fail .openInput (f.placeOf r) .notADirectory) ∧
      (f.backend.delete r d).1 = .error (Files.fail .delete (f.placeOf r) .notADirectory) ∧
      (((Search.deleteAll (Cache.supplier { backend := f.backend } 0) spread ∅).run
        { storage := d }).value?.map fun report => report.failures.map (·.1)) = some [r] := by
  intro f l r spread d
  have lost : d.stat (f.placeOf r) = .error .notADirectory := by decide +kernel
  refine ⟨⟨by decide, by decide⟩, by decide, by decide, by decide, ?_, ?_, ?_⟩
  · simp [Files.backend, Files.openReader, lost]
  · simp [Files.backend, Files.delete_of_stat_error lost]
  · decide +kernel

end ArtifactCache
