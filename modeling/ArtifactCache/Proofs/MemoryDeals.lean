import ArtifactCache.Proofs.Copies
import ArtifactCache.Proofs.Deals
import ArtifactCache.Proofs.Hierarchy

/-!
Deals with the store in memory. If none of the resources is above another, no file
is ever in the way of one of them, so every deal is granted, and does what is seen
of it (`Memory.simulates`).
-/
namespace ArtifactCache.Memory
variable {P : Resource → Prop} {m m' : Memory} {r source : Resource} {c : Contents} {a : Address}

/-- All that is stored are files of the resources. -/
structure Keeping (P : Resource → Prop) (m : Memory) : Prop where
  sound : numbering.sound m
  bare : m.directories = []
  files (a : Address) : (numbering.number? a m).isSome → ∃ q, P q ∧ q.address = a

theorem keeping_empty (P : Resource → Prop) : Keeping P empty where
  sound := sound_empty
  bare := rfl
  files a file := by cases file

theorem isFile_eq (a : Address) (m : Memory) : m.isFile a = (numbering.number? a m).isSome := rfl

theorem isFile_eq_content? (r : Resource) (m : Memory) :
    m.isFile r.address = (numbering.content? r.address m).isSome := by
  rw [isFile_eq, Numbering.content?, Option.isSome_map]

namespace Keeping

theorem not_barred (keeping : Keeping P m) (level : Resource.AreLevel P) (mem : P r) :
    m.barred r = false := by
  rw [← Bool.not_eq_true, barred_iff]
  rintro (⟨a, file, above⟩ | ⟨root, _⟩)
  · obtain ⟨q, mem', rfl⟩ := keeping.files a file
    rw [level.apart q r mem' mem] at above
    cases above
  · rw [level.below r mem] at root
    cases root

/-- Nothing lies beneath the resources. -/
theorem not_hasBeneath (keeping : Keeping P m) (level : Resource.AreLevel P) (mem : P r) :
    m.hasBeneath r.address = false := by
  rw [← Bool.not_eq_true, hasBeneath_iff]
  rintro ⟨b, stored, above⟩
  obtain file | explicit := mem_stored_iff.1 stored
  · obtain ⟨q, mem', rfl⟩ := keeping.files b file
    rw [level.apart r q mem mem'] at above
    cases above
  · rw [keeping.bare] at explicit
    cases explicit

/-- A resource may get a number, or lose it. -/
theorem renames {k? : Option Nat} (keeping : Keeping P m) (mem : P r)
    (renames : numbering.Renames (· = r.address) k? m m') (sound : numbering.sound m')
    (bare : m'.directories = m.directories) : Keeping P m' where
  sound := sound
  bare := bare.trans keeping.bare
  files a file := by
    by_cases here : a = r.address
    · exact ⟨r, mem, here.symm⟩
    · rw [renames.elsewhere a here] at file
      exact keeping.files a file

theorem commit (keeping : Keeping P m) (mem : P r) (bytes : Bytes) :
    Keeping P (m.commit r.address bytes) :=
  keeping.renames mem (puts_commit r.address bytes m).renames
    (sound_commit keeping.sound _ bytes) (directories_commit m _ bytes)

end Keeping

/-! ## Writers -/

theorem rewrites_commit {k : Nat} {bytes : Bytes} (number : numbering.number? a m = some k) :
    numbering.Rewrites k m (m.commit a bytes) := by
  have puts := puts_commit a bytes m
  rw [number, Option.getD_some] at puts
  constructor
  · exact number?_commit_of_some number bytes
  · exact puts.rest

theorem rewrites_publish {w : Writer} {given : Bytes} {k : Nat}
    (writing : numbering.writing a w given m) (number : numbering.number? a m = some k) :
    numbering.Rewrites k m (publish w m) := by
  obtain ⟨rfl, _⟩ := writing
  unfold publish
  split
  · exact rewrites_commit number
  · exact .refl k m

theorem rewriting (linking : Bool) : numbering.Rewriting (backend linking) where
  write _ _ _ := .refl _ _
  flush := rewrites_publish
  closeWriter := rewrites_publish

theorem directories_publish (w : Writer) (m : Memory) :
    (publish w m).directories = m.directories := by
  unfold publish
  split
  · exact directories_commit m _ _
  · rfl

theorem directories_pour (linking : Bool) (w : Writer) (parts : List Part) (m : Memory) :
    ((backend linking).pour w parts m).directories = m.directories := by
  induction parts generalizing w m with
  | nil => exact directories_publish w m
  | cons part rest ih =>
    cases part with
    | write bytes => exact ih _ m
    | flush => exact (ih _ _).trans (directories_publish w m)

/-! ## The deals -/

theorem openWriter_of_keeping (keeping : Keeping P m) (level : Resource.AreLevel P) (mem : P r) :
    m.openWriter r = (.ok { resource := r }, m.commit r.address []) := by
  rw [openWriter, unlessBarred_of_clear (keeping.not_barred level mem), keeping.bare]
  rfl

theorem copy_of_keeping (keeping : Keeping P m) (level : Resource.AreLevel P) (mem : P r)
    {bytes : Bytes} (content : numbering.content? source.address m = some bytes) :
    m.copy source r = (.ok (), m.commit r.address bytes) := by
  have held : m.content? source.address = some bytes := content
  rw [copy, held]
  exact unlessBarred_of_clear (keeping.not_barred level mem)

/-- Whether there is a file or not, there is none afterwards. -/
theorem renames_delete (m : Memory) (r : Resource) :
    numbering.Renames (· = r.address) none m (m.delete r).2 := by
  unfold delete
  dsimp only
  split
  · exact renames_erase m r.address
  · next missing =>
    have nothing : numbering.number? r.address m = none := by
      simpa [isFile_eq] using missing
    split
    all_goals
      constructor
      · rintro b rfl
        exact nothing
      · intro b _
        rfl

theorem bytes_delete (m : Memory) (r : Resource) (k : Nat) :
    numbering.bytes (m.delete r).2 k = numbering.bytes m k := by
  unfold delete
  dsimp only
  split
  · rfl
  · split <;> rfl

theorem shows_commit (keeping : Keeping P m) (shows_ : numbering.Shows P m c) (mem : P r)
    (bytes : Bytes) : numbering.Shows P (m.commit r.address bytes) (c.put r.address bytes) :=
  shows_.put mem (fun _ _ => .rfl) (puts_commit r.address bytes m) (takes keeping.sound r.address)

theorem isFile_of_shows (shows_ : numbering.Shows P m c) (mem : P r) :
    m.isFile r.address = c.isFile r := by
  rw [isFile_eq_content?, shows_.content r mem]
  rfl

/-- Without links, a copy over a file is as good as a new file. -/
theorem shows_copy (keeping : Keeping P m) (shows_ : numbering.Shows P m c)
    (unlinked : c.IsUnlinked) (mem : P r) (mem' : P source) {bytes : Bytes}
    (content : c.bytes? source.address = some bytes) :
    numbering.Shows P (m.commit r.address bytes)
      (if source.same r then c else c.replace r.address bytes) := by
  split
  · next same =>
    have eq : source.address = r.address := by simpa [Resource.same] using same
    apply shows_.alike
    apply alike_commit
    rw [← eq, shows_.content source mem', content]
  · rw [← Contents.put_eq_replace unlinked]
    exact shows_commit keeping shows_ mem bytes

section
variable (keeping : Keeping P m) (shows_ : numbering.Shows P m c) (level : Resource.AreLevel P)
  (linking : Bool)
include keeping shows_ level

theorem does_write (mem : P r) (parts : List Part) :
    numbering.Does (backend linking) linking P (Keeping P) m c (.write r parts) := by
  have opened := openWriter_of_keeping keeping level mem
  have granted : ((backend linking).openWriter r m).1 = .ok { resource := r } :=
    congrArg Prod.fst opened
  have after : ((backend linking).openWriter r m).2 = m.commit r.address [] :=
    congrArg Prod.snd opened
  obtain ⟨spares, writing⟩ := (serves linking).openWriter keeping.sound granted
  rw [after] at spares writing
  have made := puts_commit r.address [] m
  have puts := made.pour rfl (serves linking) (rewriting linking) parts spares.sound writing
  obtain ⟨sound, _⟩ := Numbering.rewrites_pour (serves linking) (rewriting linking) parts
    spares.sound writing (made.renames.here r.address rfl)
  apply Numbering.Does.of_eq ((backend linking).pour { resource := r } parts (m.commit r.address []))
  · simp only [Backend.deal, backend, opened, Contents.deal]
  · apply keeping.renames mem puts.renames sound
    rw [directories_pour, directories_commit]
  · exact shows_.put mem (fun _ _ => .rfl) puts (takes keeping.sound r.address)

theorem does_delete (mem : P r) :
    numbering.Does (backend linking) linking P (Keeping P) m c (.delete r) := by
  have file := isFile_of_shows shows_ mem
  have gone := renames_delete m r
  apply Numbering.Does.of_eq (m.delete r).2
  · have empty := keeping.not_hasBeneath level mem
    cases there : m.isFile r.address with
    | true => simp [Backend.deal, backend, delete, Contents.deal, ← file, there]
    | false =>
      simp [Backend.deal, backend, delete, Contents.deal, ← file, there, empty, keeping.bare]
  · apply keeping.renames mem gone (tells_delete keeping.sound r).1
    have fewer := directories_delete_subset m r
    rw [keeping.bare] at fewer ⊢
    exact List.eq_nil_iff_forall_not_mem.2 fun b mem => List.not_mem_nil (fewer b mem)
  · exact shows_.remove (fun _ _ => .rfl) gone (bytes_delete m r)

theorem does_createFile (mem : P r) :
    numbering.Does (backend linking) linking P (Keeping P) m c (.createFile r) := by
  have file := isFile_of_shows shows_ mem
  cases there : m.isFile r.address with
  | true =>
    apply Numbering.Does.of_eq m
    · simp [Backend.deal, backend, createFile, Contents.deal, there, Answer.ofOutcome]
    · exact keeping
    · simpa [Contents.deal, ← file, there] using shows_
  | false =>
    apply Numbering.Does.of_eq (m.commit r.address [])
    · simp [Backend.deal, backend, createFile, Contents.deal, there, Answer.ofOutcome,
        unlessBarred_of_clear (keeping.not_barred level mem)]
    · exact keeping.commit mem []
    · simpa [Contents.deal, ← file, there] using shows_commit keeping shows_ mem []

theorem does_copy (unlinked : c.IsUnlinked) (mem : P r) (mem' : P source)
    (file : c.isFile source = true) :
    numbering.Does (backend linking) linking P (Keeping P) m c (.copy source r) := by
  obtain ⟨bytes, content⟩ := Option.isSome_iff_exists.1 file
  have held := (shows_.content source mem').trans content
  apply Numbering.Does.of_eq (m.commit r.address bytes)
  · simp only [Backend.deal, backend, copy_of_keeping keeping level mem held, Contents.deal, content,
      Answer.ofOutcome]
  · exact keeping.commit mem bytes
  · simp only [Contents.deal, content]
    exact shows_copy keeping shows_ unlinked mem mem' content

theorem does_createAlias (unlinked : linking = false → c.IsUnlinked) (mem : P r)
    (mem' : P source) :
    numbering.Does (backend linking) linking P (Keeping P) m c (.createAlias source r) := by
  have file := isFile_of_shows shows_ mem'
  cases content : c.bytes? source.address with
  | none =>
    have missing : m.isFile source.address = false := by simp [file, Contents.isFile, content]
    apply Numbering.Does.of_eq m
    · simp [Backend.deal, backend, createAlias, Contents.deal, missing, Answer.ofOutcome]
    · exact keeping
    · simpa [Contents.deal, content] using shows_
  | some bytes =>
    have there : m.isFile source.address = true := by simp [file, Contents.isFile, content]
    have held := (shows_.content source mem').trans content
    cases same : source.same r with
    | true =>
      apply Numbering.Does.of_eq m
      · simp [Backend.deal, backend, createAlias, Contents.deal, same, Answer.ofOutcome]
      · exact keeping
      · simpa [Contents.deal, content, same] using shows_
    | false =>
      cases linking with
      | false =>
        have made := shows_copy keeping shows_ (unlinked rfl) mem mem' content
        apply Numbering.Does.of_eq (m.commit r.address bytes)
        · simp [Backend.deal, backend, createAlias, same, there,
            copy_of_keeping keeping level mem held, Contents.deal, Answer.ofOutcome]
        · exact keeping.commit mem bytes
        · simpa [Contents.deal, content, same] using made
      | true =>
        obtain ⟨k, number, _⟩ := Numbering.content?_eq_some_iff.1 held
        have found : m.files.get? source.address = some k := number
        have linked : (m.createAlias true source r).1.1 = .ok () ∧
            (m.createAlias true source r).2 = { m with files := m.files.insert r.address k } := by
          simp [createAlias, same, there, link, found,
            unlessBarred_of_clear (keeping.not_barred level mem)]
        have renames := renames_insert m r.address k
        have sound := (tells_createAlias keeping.sound true source r).1
        rw [linked.2] at sound
        apply Numbering.Does.of_eq { m with files := m.files.insert r.address k }
        · simp [Backend.deal, backend, linked, Contents.deal, Answer.ofOutcome]
        · exact keeping.renames mem renames sound rfl
        · simpa [Contents.deal, content, same] using
            shows_.join mem' (fun _ _ => .rfl) renames number fun _ => rfl

end

/-- **Deals in memory.** -/
theorem simulates (level : Resource.AreLevel P) (linking : Bool) :
    numbering.Simulates (backend linking) linking P (Keeping P) := by
  intro m c deal keeping shows_ unlinked mem fair
  cases deal with
  | write r parts =>
    exact does_write keeping shows_ level linking (mem r (.head _)) parts
  | read r =>
    exact Numbering.does_read keeping shows_ (mem r (.head _)) (serves linking) rfl
  | isFile r =>
    exact Numbering.does_isFile keeping shows_ (mem r (.head _)) (isFile_eq_content? r m)
  | length r =>
    exact Numbering.does_length keeping shows_ (mem r (.head _)) rfl
  | delete r =>
    exact does_delete keeping shows_ level linking (mem r (.head _))
  | createFile r =>
    exact does_createFile keeping shows_ level linking (mem r (.head _))
  | createAlias source target =>
    have mem_source := mem source (.head _)
    have mem_target := mem target (.tail _ (.head _))
    exact does_createAlias keeping shows_ level linking unlinked mem_target mem_source
  | copy source target =>
    obtain ⟨rfl, file⟩ := fair
    have mem_source := mem source (.head _)
    have mem_target := mem target (.tail _ (.head _))
    exact does_copy keeping shows_ level false (unlinked rfl) mem_target mem_source file

end ArtifactCache.Memory
