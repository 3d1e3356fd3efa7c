import ArtifactCache.Proofs.FileStore
import ArtifactCache.Proofs.Hierarchy
import Mathlib.Data.List.Infix

/-!
A file that is stored can be stored anew: a writer opens on it, nothing keeps
it from being created, and any file can be copied to it. On disk it always
can. In memory a file is refused that lies beneath another, or where a
directory was created; and the root of a location, once it is a file, since it
counts as its own ancestor.
-/
namespace ArtifactCache

/-- The resource can be stored, in every way that needs no alias. -/
structure Backend.Accepts {S R W : Type} (b : Backend S R W) (r : Resource) (s : S) : Prop where
  opens : ∃ w, (b.openWriter r s).1 = .ok w
  creates : (b.createFile r s).1 = .ok ()
  copies (q : Resource) : b.isFile q s = true → (b.copy q r s).1 = .ok ()

/-! ## On disk -/

namespace Disk
variable {d : Disk} {p : Place}

theorem openForWriting_of_isFile (file : d.isFile p = true) :
    ∃ n, d.openForWriting p = (.ok n, d) := by
  obtain ⟨n, stat⟩ := isFile_iff.1 file
  obtain ⟨path, found, node, plain⟩ := stat_eq_file_iff.1 stat
  exact ⟨n, by simp [openForWriting, plain, found, node]⟩

theorem create_of_isFile (file : d.isFile p = true) :
    ∃ n, d.create p = (.ok n, d.setBody n []) := by
  obtain ⟨n, opened⟩ := openForWriting_of_isFile file
  exact ⟨n, by simp [create, opened]⟩

end Disk

namespace Files
variable {f : Files} {d : Disk} {q r : Resource}

theorem fst_reporting_of_ok {α : Type} {activity : Activity} {p : Place}
    {outcome : Except Fault α × Disk} {a : α} (done : outcome.1 = .ok a) :
    (reporting activity p outcome).1 = .ok a := by
  obtain ⟨_ | _, d'⟩ := outcome
  · cases done
  · obtain rfl := Except.ok.inj done
    rfl

/-- The target goes first, and what is copied stays: it is at another place. -/
theorem copy_of_isFile (source : d.isFile (f.placeOf q) = true)
    (target : d.isFile (f.placeOf r) = true) : (f.copy q r d).1 = .ok () := by
  cases same : (f.placeOf q).same (f.placeOf r) with
  | true => simp [copy, same]
  | false =>
    obtain ⟨path, n, found, node, plain⟩ := exists_of_isFile target
    obtain ⟨room, empty⟩ := room_of_removeNode found node
    have still : (d.removeNode path).isFile (f.placeOf q) = true := by
      rw [← Disk.contentOf_isSome, contentOf_removeNode target found node same,
        Disk.contentOf_isSome, source]
    have copied := Disk.copyFile_of_free still room plain empty
    simp only [copy, same, Bool.false_eq_true, if_false, withParent_of_isFile _ target,
      replacing_of_isFile found target]
    exact fst_reporting_of_ok copied

/-- No disk refuses what it holds already. -/
theorem accepts_of_isFile (file : f.backend.isFile r d = true) : f.backend.Accepts r d where
  opens := by
    obtain ⟨n, created⟩ := Disk.create_of_isFile file
    exact ⟨{ body := n }, by simp [backend, openWriter, withParent_of_isFile _ file, created]⟩
  creates := by
    obtain ⟨n, opened⟩ := Disk.openForWriting_of_isFile file
    simp [backend, createFile, withParent_of_isFile _ file, opened]
  copies _ source := copy_of_isFile source file

end Files

/-! ## In memory -/

namespace Memory
variable {m : Memory} {q r : Resource} {linking : Bool}

theorem fst_unlessBarred_eq_ok_iff {α : Type} {activity : Activity}
    {go : Except Failure α × Memory} {a : α} :
    (unlessBarred activity r m go).1 = .ok a ↔ m.barred r = false ∧ go.1 = .ok a := by
  unfold unlessBarred barred
  cases m.fileAbove? r <;> simp

theorem content?_isSome (a : Address) (m : Memory) : (m.content? a).isSome = m.isFile a := by
  simp [content?, isFile, Table.contains]

theorem openWriter_accepted_iff : (∃ w, (m.openWriter r).1 = .ok w) ↔
    m.barred r = false ∧ r.address ∉ m.directories := by
  simp only [openWriter, fst_unlessBarred_eq_ok_iff, exists_and_left]
  by_cases created : r.address ∈ m.directories <;> simp [created]

theorem createFile_of_isFile (file : m.isFile r.address = true) :
    (m.createFile r).1 = .ok () := by
  simp [createFile, file]

theorem copy_accepted_iff (source : m.isFile q.address = true) :
    (m.copy q r).1 = .ok () ↔ m.barred r = false := by
  obtain ⟨bytes, found⟩ := Option.isSome_iff_exists.1 ((content?_isSome q.address m).trans source)
  simp [copy, found, fst_unlessBarred_eq_ok_iff]

/-- What bars a file from being stored anew: another file above it, a directory
created in its place, or that it is the root. -/
theorem accepts_iff (file : m.isFile r.address = true) :
    (backend linking).Accepts r m ↔ m.barred r = false ∧ r.address ∉ m.directories := by
  constructor
  · intro accepts
    exact openWriter_accepted_iff.1 accepts.opens
  · rintro ⟨clear, free⟩
    exact {
      opens := openWriter_accepted_iff.2 ⟨clear, free⟩
      creates := createFile_of_isFile file
      copies _ source := (copy_accepted_iff source).2 clear }

/-- In a tree only the root can be barred by what is stored. -/
theorem IsTree.accepts_iff (tree : m.IsTree) (file : m.isFile r.address = true) :
    (backend linking).Accepts r m ↔ r.isRoot = false := by
  have free : r.address ∉ m.directories := fun created => by
    have directory := isDirectory_iff.2 (.inl created)
    simp [tree.apart _ file] at directory
  have alone (a : Address) (higher : m.isFile a = true) : ¬ a.isAbove r.address = true := by
    simp [tree.clear a r.address higher (mem_stored_iff.2 (.inl file))]
  have barred : m.barred r = true ↔ r.isRoot = true := by
    rw [barred_iff]
    constructor
    · rintro (⟨a, higher, above⟩ | ⟨root, _⟩)
      · exact absurd above (alone a higher)
      · exact root
    · exact fun root => .inr ⟨root, file⟩
  rw [Memory.accepts_iff file, ← Bool.not_eq_true, ← Bool.not_eq_true, barred]
  exact and_iff_left free

end Memory

/-- **A file can be stored anew unless it is barred.** On disk it always can, in
every state. In memory creating it never fails; a writer opens exactly if it is
neither barred nor a directory that was created, and files can be copied to it
exactly if it is not barred. As long as no call misplaces anything, this means:
exactly if it is not the root of its location. -/
theorem file_accepted_unless_barred (r : Resource) :
    (∀ (f : Files) (d : Disk), f.backend.isFile r d = true → f.backend.Accepts r d) ∧
    (∀ (linking : Bool) (m : Memory), (Memory.backend linking).isFile r m = true →
      ((Memory.backend linking).createFile r m).1 = .ok () ∧
      ((∃ w, ((Memory.backend linking).openWriter r m).1 = .ok w) ↔
        m.barred r = false ∧ r.address ∉ m.directories) ∧
      ∀ q, (Memory.backend linking).isFile q m = true →
        (((Memory.backend linking).copy q r m).1 = .ok () ↔ m.barred r = false)) ∧
    ∀ (linking : Bool) (calls : List Call),
      (∀ done call, done ++ [call] <+: calls →
        (Usage.after (Memory.backend linking) .empty done).misplaces call = false) →
      let m := (Usage.after (Memory.backend linking) .empty calls).store
      (Memory.backend linking).isFile r m = true →
        ((Memory.backend linking).Accepts r m ↔ r.isRoot = false) := by
  refine ⟨fun f d => Files.accepts_of_isFile, fun linking m file => ?_, ?_⟩
  · exact ⟨Memory.createFile_of_isFile file, Memory.openWriter_accepted_iff,
      fun q source => Memory.copy_accepted_iff source⟩
  · intro linking calls never m file
    have tree : m.IsTree :=
      (Memory.isTree_iff_never_misplaced linking calls).2 never calls List.prefix_rfl
    exact tree.accepts_iff file

/-- A file below a directory, and a root that is a file, on disk and in memory. -/
theorem file_accepted_again :
    let f : Files := { root := "/cache" }
    let r : String → Resource := .ofText { name := "local", uri := "file:///srv/local" }
    let calls : List Call := [.ask (.openWriter (r "a/b")), .write 0 [1], .close 0]
    let rooted : List Call := [.ask (.openWriter (r "")), .write 0 [1], .close 0]
    let m := (Usage.after (Memory.backend false) .empty calls).store
    f.backend.Accepts (r "a/b") (Usage.after f.backend {} calls).store ∧
      f.backend.Accepts (r "") (Usage.after f.backend {} rooted).store ∧
      (Memory.backend false).Accepts (r "a/b") m ∧
      ((Memory.backend false).copy (r "a/b") (r "a/b") m).1 = .ok () := by
  intro f r calls rooted m
  obtain ⟨onDisk, _, _⟩ := file_accepted_unless_barred (r "")
  obtain ⟨onDisk', inMemory, inTree⟩ := file_accepted_unless_barred (r "a/b")
  have file : (Memory.backend false).isFile (r "a/b") m = true := by decide
  have each : ∀ done ∈ calls.inits, done.getLast?.any
      (Usage.after (Memory.backend false) .empty done.dropLast).misplaces = false := by decide
  have never : ∀ done call, done ++ [call] <+: calls →
      (Usage.after (Memory.backend false) .empty done).misplaces call = false := by
    intro done call next
    simpa using each _ ((List.mem_inits _ _).2 next)
  exact ⟨onDisk' f _ (by decide +kernel), onDisk f _ (by decide +kernel),
    (inTree false calls never file).2 (by decide),
    ((inMemory false m file).2.2 _ file).2 (by decide)⟩

/-- The root of a location can be written once, and a file not at all where a
directory was created in its place. -/
theorem file_refused_that_is_stored :
    let r : String → Resource := .ofText { name := "local", uri := "file:///srv/local" }
    let root := (Usage.after (Memory.backend false) .empty
      [.ask (.openWriter (r "")), .close 0]).store
    let created := (Usage.after (Memory.backend false) .empty
      [.ask (.mkdirs (r "d")), .ask (.createFile (r "d"))]).store
    ((Memory.backend false).isFile (r "") root = true ∧
      ((Memory.backend false).openWriter (r "") root).1 =
        .error (Memory.refuse .openOutput (r "") (.beneathFile (r ""))) ∧
      ((Memory.backend false).copy (r "") (r "") root).1 =
        .error (Memory.refuse .copy (r "") (.beneathFile (r "")))) ∧
    ((Memory.backend false).isFile (r "d") created = true ∧
      ((Memory.backend false).openWriter (r "d") created).1 =
        .error (Memory.refuse .openOutput (r "d") .directory)) ∧
    ¬ (Memory.backend false).Accepts (r "") root ∧
      ¬ (Memory.backend false).Accepts (r "d") created := by
  intro r root created
  have rooted : (Memory.backend false).isFile (r "") root = true ∧
      ((Memory.backend false).openWriter (r "") root).1 =
        .error (Memory.refuse .openOutput (r "") (.beneathFile (r ""))) ∧
      ((Memory.backend false).copy (r "") (r "") root).1 =
        .error (Memory.refuse .copy (r "") (.beneathFile (r ""))) := by decide
  have there : (Memory.backend false).isFile (r "d") created = true ∧
      ((Memory.backend false).openWriter (r "d") created).1 =
        .error (Memory.refuse .openOutput (r "d") .directory) := by decide
  refine ⟨rooted, there, fun accepts => ?_, fun accepts => ?_⟩
  · obtain ⟨w, opened⟩ := accepts.opens
    cases rooted.2.1.symm.trans opened
  · obtain ⟨w, opened⟩ := accepts.opens
    cases there.2.symm.trans opened

end ArtifactCache
