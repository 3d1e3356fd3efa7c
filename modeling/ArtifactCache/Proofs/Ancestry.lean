import ArtifactCache.Proofs.Hierarchy

/-!
# Ancestors

In memory one resource lies above another when its text says so. That is the strict order of
beginnings among the segments of one location, and it leads from parent to parent: what lies
above a resource are its proper ancestors (`Address.textIsAbove_iff_isAncestor`), and directories
are what was created as one or is an ancestor of something stored (`above_means_ancestor`).
-/
namespace ArtifactCache

namespace Address
variable {a b c d : Address}

/-- The parent of a resource below the root, and what is an ancestor of that parent. -/
inductive IsAncestor : Address → Address → Prop
  | parent {a : Address} : a.path.isRoot = false → IsAncestor a.parent a
  | further {d a : Address} : a.path.isRoot = false → IsAncestor d a.parent → IsAncestor d a

theorem textIsAbove_iff : d.textIsAbove a = true ↔ d.uri = a.uri ∧
    d.path.segments <+: a.path.segments ∧ d.path.segments ≠ a.path.segments := by
  rw [textIsAbove_eq_isAbove, isAbove_iff, Path.isAbove_iff, ne_eq, Path.eq_iff]

theorem textIsAbove_self (a : Address) : a.textIsAbove a = false := by
  rw [← Bool.not_eq_true, textIsAbove_iff]
  exact fun above => above.2.2 rfl

theorem textIsAbove_trans (first : a.textIsAbove b = true) (second : b.textIsAbove c = true) :
    a.textIsAbove c = true := by
  rw [textIsAbove_iff] at first second ⊢
  obtain ⟨uri, le, ne⟩ := first
  obtain ⟨uri', le', _⟩ := second
  refine ⟨uri.trans uri', le.trans le', fun same => ne ?_⟩
  -- What lies between two equal beginnings is equal to both.
  exact le.eq_of_length (Nat.le_antisymm le.length_le (same ▸ le'.length_le))

/-- What lies above a resource are its proper ancestors, and nothing else. -/
theorem textIsAbove_iff_isAncestor : d.textIsAbove a = true ↔ d.IsAncestor a := by
  rw [textIsAbove_eq_isAbove]
  constructor
  · intro above
    induction length : a.path.segments.length generalizing a with
    | zero =>
      obtain ⟨below, _⟩ := isAbove_iff_parent.1 above
      simp [Path.isRoot, List.length_eq_zero_iff.1 length] at below
    | succ n ih =>
      obtain ⟨below, rfl | higher⟩ := isAbove_iff_parent.1 above
      · exact .parent below
      · exact .further below (ih higher (by simp [parent, Path.parent, length]))
  · intro ancestor
    induction ancestor with
    | parent below => exact isAbove_iff_parent.2 ⟨below, .inl rfl⟩
    | further below _ ih => exact isAbove_iff_parent.2 ⟨below, .inr ih⟩

end Address

namespace Memory

/-- A directory was created as one, or something stored lies beneath it. -/
theorem isDirectory_iff_isAncestor {m : Memory} {d : Address} : m.isDirectory d = true ↔
    d ∈ m.directories ∨ ∃ b, (m.isFile b = true ∨ b ∈ m.directories) ∧ d.IsAncestor b := by
  rw [isDirectory_iff, hasBeneath_iff]
  simp only [mem_stored_iff, ← Address.textIsAbove_eq_isAbove, Address.textIsAbove_iff_isAncestor]

end Memory

/-- **What lies above is what is an ancestor.** The texts of two resources of one location tell
whether the segments of one are a proper beginning of those of the other. The relation is strict
and transitive, and above a resource are its proper ancestors and nothing else. In memory
a directory is what was created as one, or an ancestor of a file or of such a directory. -/
theorem above_means_ancestor :
    (∀ d a : Address, d.textIsAbove a = true ↔ d.uri = a.uri ∧
      d.path.segments <+: a.path.segments ∧ d.path.segments ≠ a.path.segments) ∧
    (∀ a : Address, a.textIsAbove a = false) ∧
    (∀ a b c : Address, a.textIsAbove b = true → b.textIsAbove c = true →
      a.textIsAbove c = true) ∧
    (∀ d a : Address, d.textIsAbove a = true ↔ d.IsAncestor a) ∧
    ∀ (m : Memory) (d : Address), m.isDirectory d = true ↔ d ∈ m.directories ∨
      ∃ b, (m.isFile b = true ∨ b ∈ m.directories) ∧ d.IsAncestor b :=
  ⟨fun _ _ => Address.textIsAbove_iff, Address.textIsAbove_self,
    fun _ _ _ => Address.textIsAbove_trans, fun _ _ => Address.textIsAbove_iff_isAncestor,
    fun _ _ => Memory.isDirectory_iff_isAncestor⟩

/-- A beginning of the text is not enough. -/
example : (Path.ofText "a/b").textIsAbove (Path.ofText "a/bc/d") = false ∧
    (Path.ofText "a/b").textIsAbove (Path.ofText "a/b/c") = true := by decide

end ArtifactCache
