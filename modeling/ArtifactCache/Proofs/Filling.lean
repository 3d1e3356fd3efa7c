import ArtifactCache.Proofs.Absence
import ArtifactCache.Proofs.Failing
import ArtifactCache.Proofs.MemoryDeals

/-!
What becomes of a store when a file is written where nothing was. If the writer is
refused, or what it wrote is deleted again, every file is as it was, and what is new
are directories above the resource (`Backend.Unharmed`). `Backend.Fills` says so of a
store, `Memory.fills` of that in memory, where not even the directories are new.
-/
namespace ArtifactCache

namespace Backend
variable {S R W : Type}

/-- No file has changed, and nothing has come or gone but above the resource. -/
structure Unharmed (b : Backend S R W) (named : Resource → Prop) (r : Resource) (s s' : S) :
    Prop where
  keeps (q : Resource) : b.Keeps q s s'
  present (q : Resource) : named q → q.address.isAbove r.address = false →
    b.present q s' = b.present q s

/-- What a store in order does with a resource for which a writer is wanted. -/
structure Fills (b : Backend S R W) (order : S → Prop) (named : Resource → Prop) : Prop where
  /-- Who is there is read, or is a directory. -/
  read {r : Resource} {s : S} : b.present r s = true →
    ∃ reader?, b.openReader r s = .ok reader? ∧ reader?.isSome = b.isFile r s
  /-- Files are there. -/
  absent {r : Resource} {s : S} : b.present r s = false → b.isFile r s = false
  file (r : Resource) (s : S) : b.isFile r s = (b.content? r s).isSome
  keepsFile {r : Resource} {s s' : S} {e : Failure} : order s →
    b.openWriter r s = (.error e, s') → b.Keeps r s s'
  refused {r : Resource} {s s' : S} {e : Failure} : order s → named r →
    b.openWriter r s = (.error e, s') → order s' ∧ b.Unharmed named r s s'
  written {r : Resource} {s s₁ : S} {w : W} (parts : List Part) : order s →
    b.openWriter r s = (.ok w, s₁) → order (b.pour w parts s₁) ∧
      b.content? r (b.pour w parts s₁) = some (Part.written parts)
  spared {r q : Resource} {s s₁ : S} {w : W} (parts : List Part) : order s → named r → named q →
    r.same q = false → b.present r s = false → b.openWriter r s = (.ok w, s₁) →
    b.Keeps q s (b.pour w parts s₁)
  cleared {r : Resource} {s s₁ : S} {w : W} (parts : List Part) : order s → named r →
    b.present r s = false → b.openWriter r s = (.ok w, s₁) →
    order (b.delete r (b.pour w parts s₁)).2 ∧
      b.Unharmed named r s (b.delete r (b.pour w parts s₁)).2

variable {b : Backend S R W} {named : Resource → Prop} {r : Resource} {s s₁ s' : S}

theorem Keeps.trans {q : Resource} (first : b.Keeps q s s₁) (second : b.Keeps q s₁ s') :
    b.Keeps q s s' :=
  ⟨second.file.trans first.file, second.content.trans first.content⟩

theorem Unharmed.refl (s : S) : b.Unharmed named r s s := ⟨fun q => .refl b q s, fun _ _ _ => rfl⟩

end Backend

/-! ## Files by number -/

namespace Numbering
variable {S R W : Type} {N : Numbering S W} {b : Backend S R W} {place : Address → Prop}
  {k : Nat} {bytes : Bytes} {s s₁ s' : S} {r : Resource} {w : W}

/-- A new file that is taken away again leaves the others as they were. -/
theorem Puts.undone (puts : N.Puts place k bytes s s₁)
    (missing : ∀ a, place a → N.number? a s = none) (unused : ¬ N.Used k s)
    (gone : N.Renames place none s₁ s') (same : ∀ j, N.bytes s' j = N.bytes s₁ j) (a : Address) :
    N.number? a s' = N.number? a s ∧ N.content? a s' = N.content? a s := by
  have number : N.number? a s' = N.number? a s := by
    by_cases here : place a
    · rw [gone.here a here, missing a here]
    · rw [gone.elsewhere a here, puts.renames.elsewhere a here]
  refine ⟨number, ?_⟩
  rw [content?, content?, number]
  cases old : N.number? a s with
  | none => rfl
  | some j =>
    have apart : j ≠ k := fun eq => unused ⟨a, eq ▸ old⟩
    rw [Option.map_some, Option.map_some, same, puts.rest j apart]

/-- A writer that was granted leaves a file with all that it was given. -/
theorem content?_pour (serves : N.Serves b) (rewriting : N.Rewriting b) (sound : N.sound s)
    (opened : b.openWriter r s = (.ok w, s₁)) (parts : List Part) :
    N.sound (b.pour w parts s₁) ∧
      N.content? r.address (b.pour w parts s₁) = some (Part.written parts) := by
  have granted := serves.openWriter sound (congrArg Prod.fst opened)
  rw [opened] at granted
  obtain ⟨spares, writing⟩ := granted
  obtain ⟨bytes, content, _⟩ := serves.part writing
  obtain ⟨k, number, _⟩ := content?_eq_some_iff.1 content
  obtain ⟨sound', rewrites, filled⟩ :=
    rewrites_pour serves rewriting parts spares.sound writing number
  refine ⟨sound', content?_eq_some_iff.2 ⟨k, (rewrites.number _).trans number, ?_⟩⟩
  rw [filled, List.nil_append]

end Numbering

/-! ## In memory -/

namespace Memory
variable {m m₁ m' : Memory} {r q : Resource} {w : Writer} {e : Failure}

/-- A writer that was granted has put its file. -/
theorem puts_pour (linking : Bool) (sound : numbering.sound m)
    (opened : m.openWriter r = (.ok w, m₁)) (parts : List Part) :
    numbering.Puts (· = r.address) ((numbering.number? r.address m).getD m.fresh)
      (Part.written parts) m ((backend linking).pour w parts m₁) := by
  obtain ⟨rfl, made⟩ := of_openWriter_eq_ok (congrArg Prod.fst opened)
  have granted := (serves linking).openWriter sound (congrArg Prod.fst opened)
  simp only [backend, opened] at granted made
  have puts := puts_commit r.address [] m
  rw [← made] at puts
  exact puts.pour rfl (serves linking) (rewriting linking) parts granted.1.sound granted.2

/-- Deleting a file takes its name away. -/
theorem delete_of_isFile (file : m.isFile r.address = true) :
    m.delete r = (.ok true, { m with files := m.files.erase r.address }) := by
  simp [delete, file]

theorem number?_of_absent {linking : Bool} (missing : (backend linking).present r m = false) :
    numbering.number? r.address m = none := by
  simpa [isFile_eq] using (present_eq_false_iff.1 missing).1

/-- What is there is what the names and the directories tell. -/
theorem present_congr {linking : Bool}
    (number : ∀ a, numbering.number? a m' = numbering.number? a m)
    (directories : m'.directories = m.directories) (q : Resource) :
    (backend linking).present q m' = (backend linking).present q m := by
  have file (a : Address) : m'.isFile a = m.isFile a := by rw [isFile_eq, isFile_eq, number]
  have directory : m'.isDirectory q.address = m.isDirectory q.address := by
    apply Bool.eq_iff_iff.2
    constructor
    · exact isDirectory_mono (fun b there => (file b).symm.trans there)
        fun b mem => directories ▸ mem
    · exact isDirectory_mono (fun b there => (file b).trans there) fun b mem => directories ▸ mem
  simp only [backend, file, directory]

theorem same_of_refused (failed : m.openWriter r = (.error e, m')) : m' = m := by
  have same := openWriter_of_error (congrArg Prod.fst failed)
  rwa [failed] at same

theorem fills (linking : Bool) :
    (backend linking).Fills numbering.sound fun _ => True where
  read {r m} _ := by
    refine ⟨_, rfl, ?_⟩
    rw [← content?_numbering, ← isFile_eq_content?]
    rfl
  absent missing := (present_eq_false_iff.1 missing).1
  file r m := by
    rw [(serves linking).content]
    exact isFile_eq_content? r m
  keepsFile _ failed := same_of_refused failed ▸ .refl _ _ _
  refused sound _ failed := by
    rw [same_of_refused failed]
    exact ⟨sound, .refl _⟩
  written {r m m₁ w} parts sound opened := by
    obtain ⟨sound', content⟩ :=
      Numbering.content?_pour (serves linking) (rewriting linking) sound opened parts
    exact ⟨sound', ((serves linking).content _ _).trans content⟩
  spared {r q m m₁ w} parts sound _ _ other missing opened := by
    have ne : q.address ≠ r.address := by simpa [Resource.same, eq_comm] using other
    have nothing := number?_of_absent missing
    refine keeps_iff.2 ((puts_pour linking sound opened parts).content_of_ne ne ?_)
    rw [nothing]
    exact fun used => not_used_fresh sound ⟨_, used⟩
  cleared {r m m₁ w} parts sound _ missing opened := by
    have puts := puts_pour linking sound opened parts
    have nothing := number?_of_absent missing
    rw [nothing] at puts
    have made := (of_openWriter_eq_ok (congrArg Prod.fst opened)).2
    have directories : m₁.directories = m.directories := by
      rw [← directories_commit m r.address [], ← made]
      exact (congrArg (·.2.directories) opened).symm
    obtain ⟨sound', _⟩ :=
      Numbering.content?_pour (serves linking) (rewriting linking) sound opened parts
    generalize filled : (backend linking).pour w parts m₁ = m₂ at puts sound'
    have same : m₂.directories = m.directories := by
      rw [← filled, directories_pour, directories]
    have file : m₂.isFile r.address = true := by
      rw [isFile_eq, puts.renames.here _ rfl]
      rfl
    have undone := puts.undone (fun a here => here ▸ nothing) (not_used_fresh sound)
      (renames_delete m₂ r) (bytes_delete m₂ r)
    refine ⟨?_, fun q => keeps_iff.2 (undone q.address).2, fun q _ _ => ?_⟩
    · exact (tells_delete sound' r).1
    · refine present_congr (fun a => (undone a).1) ?_ q
      simp only [delete_of_isFile file, same]

/-- It fills so in every state that it can be in. -/
theorem fills_after {linking : Bool} {b : Backend Memory Bytes Writer} {calls : List Call}
    (inside : b = backend linking) (reached : m = (Usage.after b .empty calls).store) :
    b.Fills numbering.sound (fun _ => True) ∧ numbering.sound m := by
  subst inside reached
  exact ⟨fills linking, sound_after linking calls⟩

end Memory
end ArtifactCache
