import ArtifactCache.Memory
import ArtifactCache.Proofs.Spelling
import ArtifactCache.Proofs.Usage

/-!
The store in memory as a tree. A file may lie neither above nor below what is
stored, and most ways to make one see to that. Those that do not are
`Request.misplaces` and `Writer.misplaces`, and a store is a tree exactly as
long as none of them happens (`isTree_iff_never_misplaced`).
-/
namespace ArtifactCache

/-! ## What lies above a path -/

namespace Path

theorem isAbove_iff {d p : Path} : d.isAbove p = true ↔ d.segments <+: p.segments ∧ d ≠ p := by
  simp [isAbove]

/-- Above a path are its parent and what is above that; above the root is nothing. -/
theorem isAbove_iff_parent {d p : Path} :
    d.isAbove p = true ↔ p.isRoot = false ∧ (d = p.parent ∨ d.isAbove p.parent = true) := by
  simp only [isAbove_iff, ne_eq, eq_iff]
  obtain root | ⟨init, last, segments⟩ := List.eq_nil_or_concat p.segments
  · simp [isRoot, root]
  · have parent : p.parent.segments = init := by simp [Path.parent, segments]
    have below : p.isRoot = false := by simp [isRoot, segments]
    rw [parent, segments, List.concat_eq_append, List.prefix_concat_iff]
    constructor
    · rintro ⟨same | above, ne⟩
      · exact absurd same ne
      · exact ⟨below, (Decidable.em (d.segments = init)).imp_right (⟨above, ·⟩)⟩
    · rintro ⟨_, eq | ⟨above, _⟩⟩
      · exact ⟨.inr (eq ▸ List.prefix_rfl), fun same => by simp [eq] at same⟩
      · refine ⟨.inr above, fun same => ?_⟩
        exact absurd above.length_le (by simp [same])

end Path

namespace Address

theorem isAbove_iff {d a : Address} :
    d.isAbove a = true ↔ d.uri = a.uri ∧ d.path.isAbove a.path = true := by
  simp [isAbove]

/-- Above an address are its parent and what is above that. -/
theorem isAbove_iff_parent {d a : Address} :
    d.isAbove a = true ↔
      a.path.isRoot = false ∧ (d = a.parent ∨ d.isAbove a.parent = true) := by
  obtain ⟨uri, path⟩ := d
  simp only [isAbove_iff, Path.isAbove_iff_parent (p := a.path), parent, mk.injEq, ← and_or_left]
  exact and_left_comm

end Address

namespace Resource

@[simp] theorem address_parent (r : Resource) : r.parent.address = r.address.parent := rfl

theorem isRoot_of_length {n : Nat} {r : Resource} (length : r.path.segments.length = n + 1) :
    r.address.path.isRoot = false := by
  simp [address, Path.isRoot, ← List.length_eq_zero_iff, length]

theorem isRoot_parent_iff {n : Nat} {r : Resource} (length : r.path.segments.length = n + 1) :
    r.parent.isRoot = true ↔ n = 0 := by
  simp [isRoot, Path.isRoot, parent, Path.parent, ← List.length_eq_zero_iff, length]

theorem exists_mem_climb {n : Nat} {r : Resource} (length : r.path.segments.length = n + 1)
    (a : Address) :
    (∃ above ∈ ancestors.climb (n + 1) r, above.address = a) ↔ a.isAbove r.address = true := by
  induction n generalizing r with
  | zero =>
    have root : r.parent.isRoot = true := (isRoot_parent_iff length).2 rfl
    have nothing : a.isAbove r.address.parent = false := by
      rw [← Bool.not_eq_true, Address.isAbove_iff_parent]
      exact fun above => absurd (above.1.symm.trans root) (by decide)
    rw [Address.isAbove_iff_parent]
    simp [ancestors.climb, root, nothing, isRoot_of_length length, eq_comm]
  | succ n ih =>
    have inner : ¬ r.parent.isRoot = true := mt (isRoot_parent_iff length).1 n.succ_ne_zero
    have shorter : r.parent.path.segments.length = n + 1 := by simp [parent, Path.parent, length]
    have step : ancestors.climb (n + 1 + 1) r = r.parent :: ancestors.climb (n + 1) r.parent :=
      if_neg inner
    simp only [step, List.mem_cons, exists_eq_or_imp, ih shorter, address_parent]
    rw [Address.isAbove_iff_parent (a := r.address), isRoot_of_length length]
    exact ⟨fun found => ⟨rfl, found.imp_left Eq.symm⟩, fun above => above.2.imp_left Eq.symm⟩

/-- The ancestors of a resource are what lies above it, and the root for itself. -/
theorem exists_mem_ancestors (r : Resource) (a : Address) :
    (∃ above ∈ r.ancestors, above.address = a) ↔
      a.isAbove r.address = true ∨ r.isRoot = true ∧ a = r.address := by
  cases length : r.path.segments.length with
  | zero =>
    have segments := List.length_eq_zero_iff.1 length
    have root : r.isRoot = true := by simp [isRoot, Path.isRoot, segments]
    have here : r.parent.address = r.address := by
      simp [address, parent, Path.parent, Path.eq_iff, segments]
    have only : r.ancestors = [r.parent] := by rw [ancestors, length, ancestors.climb]
    have nothing : ¬ a.isAbove r.address = true := by
      rw [Address.isAbove_iff_parent]
      exact fun above => absurd (above.1.symm.trans root) (by decide)
    simp [only, here, root, nothing, eq_comm]
  | succ n =>
    have below : r.isRoot = false := isRoot_of_length length
    simp [ancestors, length, exists_mem_climb length, below]

end Resource

/-! ## The tree -/

namespace Memory

/-- No resource is both file and directory, and nothing is stored beneath a file. -/
structure IsTree (m : Memory) : Prop where
  apart (a : Address) : m.isFile a = true → m.isDirectory a = false
  clear (a b : Address) : m.isFile a = true → b ∈ m.stored → a.isAbove b = false

/-- A file lies above the resource, or the resource is the root and a file. -/
def barred (r : Resource) (m : Memory) : Bool := (m.fileAbove? r).isSome

end Memory

/-- The request is granted, and makes a file of what is a directory. -/
def Request.misplaces (m : Memory) : Request → Bool
  | openWriter r =>
    !m.barred r && !m.directories.contains r.address && m.hasBeneath r.address
  | createFile r => !m.barred r && m.isDirectory r.address
  | copy source target | createAlias source target =>
    m.isFile source.address && !m.barred target && m.isDirectory target.address
  | delete _ | mkdirs _ => false

namespace Memory

/-- What was written is published where the file is gone, and where by now a
directory is or a file lies above. -/
def Writer.misplaces (m : Memory) (w : Writer) : Bool :=
  w.dirty && !m.isFile w.resource.address &&
    (m.isDirectory w.resource.address || m.barred w.resource)

end Memory

namespace Usage

/-- The call makes a file where there is no place for one. -/
def misplaces (u : Usage Memory Memory.Writer) : Call → Bool
  | .ask q => q.misplaces u.store
  | .write .. => false
  | .flush i | .close i => u.writers[i]?.any (Memory.Writer.misplaces u.store)

end Usage

namespace Memory

theorem mem_stored_iff {a : Address} {m : Memory} :
    a ∈ m.stored ↔ m.isFile a = true ∨ a ∈ m.directories := by
  simp [stored, isFile, Table.contains, Table.mem_keys_iff]

theorem hasBeneath_iff {a : Address} {m : Memory} :
    m.hasBeneath a = true ↔ ∃ b ∈ m.stored, a.isAbove b = true := by
  simp [hasBeneath, Address.textIsAbove_eq_isAbove]

theorem isDirectory_iff {a : Address} {m : Memory} :
    m.isDirectory a = true ↔ a ∈ m.directories ∨ m.hasBeneath a = true := by
  simp [isDirectory]

theorem barred_iff {r : Resource} {m : Memory} :
    m.barred r = true ↔ (∃ a, m.isFile a = true ∧ a.isAbove r.address = true) ∨
      r.isRoot = true ∧ m.isFile r.address = true := by
  simp only [barred, fileAbove?, List.find?_isSome]
  constructor
  · rintro ⟨above, mem, file⟩
    obtain higher | ⟨root, here⟩ := (r.exists_mem_ancestors _).1 ⟨above, mem, rfl⟩
    · exact .inl ⟨_, file, higher⟩
    · exact .inr ⟨root, here ▸ file⟩
  · rintro (⟨a, file, higher⟩ | ⟨root, file⟩)
    · obtain ⟨above, mem, rfl⟩ := (r.exists_mem_ancestors a).2 (.inl higher)
      exact ⟨above, mem, file⟩
    · obtain ⟨above, mem, here⟩ := (r.exists_mem_ancestors r.address).2 (.inr ⟨root, rfl⟩)
      exact ⟨above, mem, here ▸ file⟩

/-- Nothing beneath a file: a file with something beneath it is a directory. -/
theorem IsTree.of_apart {m : Memory}
    (apart : ∀ a, m.isFile a = true → m.isDirectory a = false) : m.IsTree where
  apart := apart
  clear a b file stored := by
    refine Bool.not_eq_true _ |>.mp fun above => ?_
    have directory : m.isDirectory a = true :=
      isDirectory_iff.2 (.inr (hasBeneath_iff.2 ⟨b, stored, above⟩))
    simp [apart a file] at directory

/-- Fewer things stored make no new directories. -/
theorem isDirectory_mono {m m' : Memory} (files : ∀ b, m'.isFile b = true → m.isFile b = true)
    (directories : ∀ b ∈ m'.directories, b ∈ m.directories) {a : Address}
    (directory : m'.isDirectory a = true) : m.isDirectory a = true := by
  rw [isDirectory_iff] at directory ⊢
  refine directory.imp (directories a) fun beneath => ?_
  obtain ⟨b, stored, above⟩ := hasBeneath_iff.1 beneath
  exact hasBeneath_iff.2
    ⟨b, mem_stored_iff.2 ((mem_stored_iff.1 stored).imp (files b) (directories b)), above⟩

theorem IsTree.anti {m m' : Memory} (tree : m.IsTree)
    (files : ∀ b, m'.isFile b = true → m.isFile b = true)
    (directories : ∀ b ∈ m'.directories, b ∈ m.directories) : m'.IsTree := by
  refine .of_apart fun a file => Bool.not_eq_true _ |>.mp fun directory => ?_
  have before := isDirectory_mono files directories directory
  simp [tree.apart a (files a file)] at before

/-- A directory that is one after a file was made was one before, or is above the file. -/
theorem isDirectory_or_isAbove {m m' : Memory} {r : Resource} {a : Address}
    (files : ∀ b, m'.isFile b = true ↔ b = r.address ∨ m.isFile b = true)
    (directories : m'.directories = m.directories) (directory : m'.isDirectory a = true) :
    m.isDirectory a = true ∨ a.isAbove r.address = true := by
  obtain explicit | beneath := isDirectory_iff.1 directory
  · exact .inl (isDirectory_iff.2 (.inl (directories ▸ explicit)))
  obtain ⟨b, stored, above⟩ := hasBeneath_iff.1 beneath
  have beneath_stored (stored : b ∈ m.stored) : m.isDirectory a = true :=
    isDirectory_iff.2 (.inr (hasBeneath_iff.2 ⟨b, stored, above⟩))
  obtain now | explicit := mem_stored_iff.1 stored
  · obtain rfl | before := (files b).1 now
    · exact .inr above
    · exact .inl (beneath_stored (mem_stored_iff.2 (.inl before)))
  · exact .inl (beneath_stored (mem_stored_iff.2 (.inr (directories ▸ explicit))))

/-- A store is a tree after a file was made if it was one already, or if there is
nothing at the resource, nothing beneath it and no file above it. -/
theorem isTree_iff_of_file {m m' : Memory} {r : Resource} (tree : m.IsTree)
    (files : ∀ b, m'.isFile b = true ↔ b = r.address ∨ m.isFile b = true)
    (directories : m'.directories = m.directories) :
    m'.IsTree ↔ m.isFile r.address = true ∨
      m.isDirectory r.address = false ∧ m.barred r = false := by
  by_cases file : m.isFile r.address = true
  · refine ⟨fun _ => .inl file, fun _ => tree.anti (fun b here => ?_) (directories ▸ fun _ => id)⟩
    obtain rfl | before := (files b).1 here
    · exact file
    · exact before
  have made : m'.isFile r.address = true := (files _).2 (.inl rfl)
  constructor
  · intro tree'
    refine .inr ⟨Bool.not_eq_true _ |>.mp fun directory => ?_,
      Bool.not_eq_true _ |>.mp fun barred => ?_⟩
    · have still := isDirectory_mono (m := m') (fun b before => (files b).2 (.inr before))
        (directories ▸ fun _ => id) directory
      simp [tree'.apart _ made] at still
    · obtain ⟨a, higher, above⟩ | ⟨_, here⟩ := barred_iff.1 barred
      · have clear := tree'.clear a r.address ((files a).2 (.inr higher))
          (mem_stored_iff.2 (.inl made))
        simp [above] at clear
      · exact file here
  · rintro (here | ⟨empty, unbarred⟩)
    · exact absurd here file
    refine .of_apart fun a file' => Bool.not_eq_true _ |>.mp fun directory => ?_
    have beneath := isDirectory_or_isAbove files directories directory
    obtain rfl | before := (files a).1 file'
    · obtain directory | self := beneath
      · simp [empty] at directory
      · exact absurd rfl (Path.isAbove_iff.1 (Address.isAbove_iff.1 self).2).2
    · obtain directory | above := beneath
      · simp [tree.apart a before] at directory
      · have barred : m.barred r = true := barred_iff.2 (.inl ⟨a, before, above⟩)
        simp [unbarred] at barred

/-! ## What the requests do -/

section
variable {m : Memory} {r : Resource}

theorem unlessBarred_of_barred {α : Type} {activity : Activity} {go : Except Failure α × Memory}
    (barred : m.barred r = true) : (unlessBarred activity r m go).2 = m := by
  obtain ⟨file, above⟩ := Option.isSome_iff_exists.1 barred
  rw [unlessBarred, above]

theorem unlessBarred_of_clear {α : Type} {activity : Activity} {go : Except Failure α × Memory}
    (clear : m.barred r = false) : unlessBarred activity r m go = go := by
  have nothing : m.fileAbove? r = none := by simpa [barred] using clear
  rw [unlessBarred, nothing]

theorem isFile_insert (m : Memory) (a b : Address) (entry : Nat) :
    { m with files := m.files.insert a entry }.isFile b = true ↔ b = a ∨ m.isFile b = true := by
  by_cases here : a = b
  · simp [isFile, Table.contains, here]
  · simp [isFile, Table.contains, Table.get?_insert_of_ne _ here, Ne.symm here]

theorem isFile_commit (m : Memory) (a b : Address) (bytes : Bytes) :
    (m.commit a bytes).isFile b = true ↔ b = a ∨ m.isFile b = true := by
  unfold commit
  cases found : m.files.get? a with
  | none => exact isFile_insert m a b m.fresh
  | some entry =>
    have file : m.isFile a = true := by simp [isFile, Table.contains, found]
    exact ⟨.inr, fun here => here.elim (fun eq => eq ▸ file) id⟩

@[simp] theorem directories_commit (m : Memory) (a : Address) (bytes : Bytes) :
    (m.commit a bytes).directories = m.directories := by
  unfold commit
  split <;> rfl

/-- Where nothing is in the way, a file may be made unless there is a directory. -/
theorem isTree_iff_of_granted {m' : Memory} (tree : m.IsTree) (clear : m.barred r = false)
    (files : ∀ b, m'.isFile b = true ↔ b = r.address ∨ m.isFile b = true)
    (directories : m'.directories = m.directories) :
    m'.IsTree ↔ m.isDirectory r.address = false := by
  rw [isTree_iff_of_file tree files directories]
  exact ⟨fun allowed => allowed.elim (tree.apart _) And.left, fun empty => .inr ⟨empty, clear⟩⟩

theorem isTree_commit_iff (tree : m.IsTree) (clear : m.barred r = false) (bytes : Bytes) :
    (m.commit r.address bytes).IsTree ↔ m.isDirectory r.address = false :=
  isTree_iff_of_granted tree clear (fun b => isFile_commit m _ b bytes) (directories_commit m _ _)

theorem isTree_openWriter_iff (tree : m.IsTree) :
    (m.openWriter r).2.IsTree ↔ (Request.openWriter r).misplaces m = false := by
  unfold openWriter
  cases barred : m.barred r with
  | true =>
    rw [unlessBarred_of_barred barred]
    simp [Request.misplaces, barred, tree]
  | false =>
    rw [unlessBarred_of_clear barred]
    by_cases explicit : r.address ∈ m.directories
    · simp [Request.misplaces, explicit, tree]
    · simp [isTree_commit_iff tree barred, Request.misplaces, barred, explicit, isDirectory]

theorem isTree_createFile_iff (tree : m.IsTree) :
    (m.createFile r).2.IsTree ↔ (Request.createFile r).misplaces m = false := by
  unfold createFile
  cases file : m.isFile r.address with
  | true => simp [Request.misplaces, tree, tree.apart _ file]
  | false =>
    cases barred : m.barred r with
    | true =>
      simp only [Bool.false_eq_true, if_false, unlessBarred_of_barred barred]
      simp [Request.misplaces, barred, tree]
    | false =>
      simp [unlessBarred_of_clear barred, isTree_commit_iff tree barred, Request.misplaces, barred]

variable {source target : Resource}

theorem isTree_copy_iff (tree : m.IsTree) :
    (m.copy source target).2.IsTree ↔ (Request.copy source target).misplaces m = false := by
  unfold copy
  cases found : m.content? source.address with
  | none =>
    have absent : m.isFile source.address = false := by
      simpa [content?, isFile, Table.contains] using found
    simp [Request.misplaces, absent, tree]
  | some bytes =>
    have file : m.isFile source.address = true := by
      obtain ⟨entry, here, _⟩ := Option.map_eq_some_iff.1 found
      simp [isFile, Table.contains, here]
    cases barred : m.barred target with
    | true =>
      simp only [unlessBarred_of_barred barred]
      simp [Request.misplaces, barred, tree]
    | false =>
      simp [unlessBarred_of_clear barred, isTree_commit_iff tree barred, Request.misplaces, barred,
        file]

theorem isTree_link_iff (tree : m.IsTree) (file : m.isFile source.address = true) :
    (m.link source target).2.IsTree ↔ (Request.createAlias source target).misplaces m = false := by
  obtain ⟨entry, found⟩ := Option.isSome_iff_exists.1 file
  simp only [link, found]
  cases barred : m.barred target with
  | true =>
    simp only [unlessBarred_of_barred barred]
    simp [Request.misplaces, barred, tree]
  | false =>
    have linked := isTree_iff_of_granted tree barred
      (isFile_insert m target.address · entry) rfl
    simp [unlessBarred_of_clear barred, linked, Request.misplaces, barred, file]

theorem isTree_createAlias_iff (tree : m.IsTree) (linking : Bool) :
    (m.createAlias linking source target).2.IsTree ↔
      (Request.createAlias source target).misplaces m = false := by
  unfold createAlias
  cases file : m.isFile source.address with
  | false => simp [Request.misplaces, file, tree]
  | true =>
    cases same : source.same target with
    | true =>
      have here : target.address = source.address := by
        simpa [Resource.same, eq_comm] using same
      simp [Request.misplaces, here, tree.apart _ file, tree]
    | false =>
      cases linking with
      | true => simpa using isTree_link_iff tree file
      | false => exact isTree_copy_iff tree

theorem isFile_of_isFile_delete {b : Address} (file : (m.delete r).2.isFile b = true) :
    m.isFile b = true := by
  unfold delete at file
  dsimp only at file
  split at file
  · by_cases here : r.address = b
    · simp [isFile, Table.contains, Table.get?_erase, here] at file
    · simpa [isFile, Table.contains, Table.get?_erase, here] using file
  · split at file <;> exact file

theorem directories_delete_subset (m : Memory) (r : Resource) :
    ∀ b ∈ (m.delete r).2.directories, b ∈ m.directories := by
  intro b mem
  unfold delete at mem
  dsimp only at mem
  split at mem
  · exact mem
  split at mem
  · exact mem
  · exact List.mem_of_mem_erase mem

theorem isTree_delete (tree : m.IsTree) : (m.delete r).2.IsTree :=
  tree.anti (fun _ => isFile_of_isFile_delete) (directories_delete_subset m r)

/-- A directory that is made lies beneath no file, and is none. -/
theorem isTree_mkdirs (tree : m.IsTree) : (m.mkdirs r).2.IsTree := by
  unfold mkdirs
  cases file : m.isFile r.address with
  | true => simpa using tree
  | false =>
    cases barred : m.barred r with
    | true => simpa [unlessBarred_of_barred barred] using tree
    | false =>
      simp only [Bool.false_eq_true, if_false, unlessBarred_of_clear barred]
      refine .of_apart fun a higher => Bool.not_eq_true _ |>.mp fun directory => ?_
      have before : m.isDirectory a = false := tree.apart a higher
      obtain explicit | beneath := isDirectory_iff.1 directory
      · obtain rfl | explicit := List.mem_insert_iff.1 explicit
        · exact absurd (show m.isFile r.address = true from higher) (by simp [file])
        · simp [isDirectory, explicit] at before
      · obtain ⟨b, stored, above⟩ := hasBeneath_iff.1 beneath
        obtain here | explicit := mem_stored_iff.1 stored
        · have still := tree.clear a b higher (mem_stored_iff.2 (.inl here))
          simp [above] at still
        · obtain rfl | explicit := List.mem_insert_iff.1 explicit
          · have higher' : m.barred r = true := barred_iff.2 (.inl ⟨a, higher, above⟩)
            simp [barred] at higher'
          · have still := tree.clear a b higher (mem_stored_iff.2 (.inr explicit))
            simp [above] at still

theorem isTree_publish_iff (tree : m.IsTree) (w : Writer) :
    (publish w m).IsTree ↔ w.misplaces m = false := by
  unfold publish
  cases dirty : w.dirty with
  | false => simpa [Writer.misplaces, dirty] using tree
  | true =>
    have written := isTree_iff_of_file tree
      (isFile_commit m w.resource.address · w.buffer) (directories_commit m _ _)
    cases file : m.isFile w.resource.address <;> simp [written, Writer.misplaces, dirty, file]

end

/-- A request leaves a tree a tree unless it misplaces something. -/
theorem isTree_run_iff (tree : m.IsTree) (linking : Bool) (q : Request) :
    (q.run (backend linking) m).2.IsTree ↔ q.misplaces m = false := by
  cases q with
  | openWriter r => exact isTree_openWriter_iff tree
  | copy source target => exact isTree_copy_iff tree
  | delete r => exact iff_of_true (isTree_delete tree) rfl
  | mkdirs r => exact iff_of_true (isTree_mkdirs tree) rfl
  | createFile r => exact isTree_createFile_iff tree
  | createAlias source target => exact isTree_createAlias_iff tree linking

/-- What a call preserves. -/
theorem isTree_perform_iff {u : Usage Memory Writer} (tree : u.store.IsTree) (linking : Bool)
    (call : Call) :
    (u.perform (backend linking) call).store.IsTree ↔ u.misplaces call = false := by
  cases call with
  | ask q =>
    rw [Usage.store_perform_ask]
    exact isTree_run_iff tree linking q
  | write i bytes =>
    simp only [Usage.perform, Usage.misplaces]
    cases u.writers[i]? with
    | none => exact iff_of_true tree trivial
    | some w => exact iff_of_true tree trivial
  | flush i =>
    simp only [Usage.perform, Usage.misplaces]
    cases u.writers[i]? with
    | none => simpa using tree
    | some w => exact isTree_publish_iff tree w
  | close i =>
    simp only [Usage.perform, Usage.misplaces]
    cases u.writers[i]? with
    | none => simpa using tree
    | some w => exact isTree_publish_iff tree w

theorem isTree_empty : empty.IsTree := .of_apart fun _ file => by cases file

/-- **The store is a tree exactly as long as nothing is misplaced.** -/
theorem isTree_iff_never_misplaced (linking : Bool) (calls : List Call) :
    (∀ done, done <+: calls → (Usage.after (backend linking) empty done).store.IsTree) ↔
      ∀ done call, done ++ [call] <+: calls →
        (Usage.after (backend linking) empty done).misplaces call = false := by
  constructor
  · intro always done call next
    have before := always done ((List.prefix_append done [call]).trans next)
    have now := always _ next
    rw [Usage.after_append_singleton] at now
    exact (isTree_perform_iff before linking call).1 now
  · intro never done
    induction done using List.reverseRecOn with
    | nil => exact fun _ => isTree_empty
    | append_singleton done call ih =>
      intro next
      have before := ih ((List.prefix_append done [call]).trans next)
      rw [Usage.after_append_singleton]
      exact (isTree_perform_iff before linking call).2 (never done call next)

/-- A writer is opened on a directory that nobody created, and another publishes
beneath a file that was made after its own was deleted. -/
theorem tree_broken_by_writers :
    let r : String → Resource := .ofText { name := "local", uri := "file:///srv/local" }
    let overDirectory := (Usage.after (backend false) empty
      [.ask (.openWriter (r "a/b")), .close 0, .ask (.openWriter (r "a"))]).store
    let belowFile := (Usage.after (backend false) empty
      [.ask (.openWriter (r "a/b")), .write 0 [1], .ask (.delete (r "a/b")),
        .ask (.createFile (r "a")), .flush 0]).store
    (overDirectory.isFile (r "a").address = true ∧
      overDirectory.isDirectory (r "a").address = true) ∧
    (belowFile.isFile (r "a").address = true ∧ (r "a/b").address ∈ belowFile.stored ∧
      (r "a").address.isAbove (r "a/b").address = true) ∧
    ¬ overDirectory.IsTree ∧ ¬ belowFile.IsTree := by
  intro r overDirectory belowFile
  have both : overDirectory.isFile (r "a").address = true ∧
      overDirectory.isDirectory (r "a").address = true := by decide
  have beneath : belowFile.isFile (r "a").address = true ∧
      (r "a/b").address ∈ belowFile.stored ∧
      (r "a").address.isAbove (r "a/b").address = true := by decide
  refine ⟨both, beneath, fun tree => ?_, fun tree => ?_⟩
  · simp [tree.apart _ both.1] at both
  · simp [tree.clear _ _ beneath.1 beneath.2.1] at beneath

end Memory
end ArtifactCache
