import ArtifactCache.Proofs.Beneath
import Mathlib.Data.List.Sort
import Mathlib.Data.Set.List
import Mathlib.Data.String.Basic

/-!
Walking and listing agree. A walk from a resource names all files at and beneath it, each
once, in the order of their segments (`Files.Enumerates`), and there is only one such list
(`Files.Enumerates.unique`). So it is what one gets by walking from the children in the order
in which they are listed. A walk ends early only at a directory whose path is too long to be
opened (`Files.Obstructs`); the store puts nothing at such a path if its root never leads up.
-/
namespace ArtifactCache

/-! ## The order of names -/

namespace PathText

/-- Names that are texts are ordered as the texts are. -/
theorem sorted_map_text {base : List String} (once : base.Nodup) :
    ∃ names : List String, names.Pairwise (· < ·) ∧
      sorted (base.map .text) = names.map .text ∧ ∀ n, n ∈ names ↔ n ∈ base := by
  have order : ∀ a ∈ base, ∀ b ∈ base, decide (a ≤ b) =
      !(PathText.text b).precedes (.text a) := by
    intro a _ b _
    rw [show (PathText.text b).precedes (.text a) = decide (b < a) from rfl, ← decide_not]
    exact decide_eq_decide.2 not_lt.symm
  refine ⟨base.mergeSort fun a b => decide (a ≤ b), ?_, ?_, fun n => List.mem_mergeSort⟩
  · have ordered : (base.mergeSort fun a b => decide (a ≤ b)).Pairwise
        fun a b => decide (a ≤ b) := by
      refine List.pairwise_mergeSort (fun a b c ab bc => ?_) (fun a b => ?_) base
      · exact decide_eq_true (le_trans (of_decide_eq_true ab) (of_decide_eq_true bc))
      · rw [Bool.or_eq_true, decide_eq_true_eq, decide_eq_true_eq]
        exact le_total a b
    have apart : (base.mergeSort fun a b => decide (a ≤ b)).Nodup := List.nodup_mergeSort.2 once
    refine ((ordered.imp of_decide_eq_true).and (List.nodup_iff_pairwise_ne.1 apart)).imp ?_
    exact fun both => lt_of_le_of_ne both.1 both.2
  · exact (List.map_mergeSort order).symm

end PathText

/-! ## What is at and beneath a path -/

namespace Disk
variable {d : Disk} {path : List PathText}

theorem IsTreeAt.child (tree : d.IsTreeAt path) (name : PathText) : d.IsTreeAt (path ++ [name]) where
  closed rest last there := by
    have above := tree.closed (name :: rest) last (by simpa using there)
    simpa using above
  named rest last there := tree.named (name :: rest) last (by simpa using there)

/-- The names in a directory of a tree, in ascending order. -/
theorem IsTreeAt.exists_children (tree : d.IsTreeAt path) :
    ∃ names : List String, names.Pairwise (· < ·) ∧
      PathText.sorted (d.children path) = names.map .text ∧
      ∀ n, n ∈ names ↔ (d.node? (path ++ [.text n])).isSome := by
  have range : d.children path ∈ Set.range (List.map PathText.text) := by
    rw [Set.range_list_map]
    intro name mem
    obtain ⟨s, rfl, _⟩ := tree.named [] name (by simpa using mem_children.1 mem)
    exact ⟨s, rfl⟩
  obtain ⟨base, whole⟩ := range
  have once : (base.map PathText.text).Nodup := by
    rw [whole]
    exact nodup_children
  obtain ⟨names, ascending, sorted, mem_names⟩ :=
    PathText.sorted_map_text (List.Nodup.of_map _ once)
  refine ⟨names, ascending, whole ▸ sorted, fun n => ?_⟩
  rw [mem_names, ← mem_children, ← whole,
    List.mem_map_of_injective fun _ _ => PathText.text.inj]

/-- Nothing is deeper than the last level. -/
theorem length_le_height (there : (d.node? path).isSome) : path.length ≤ d.height := by
  by_cases top : path = []
  · simp [top]
  · rw [node?, if_neg top, ← Table.mem_keys_iff] at there
    unfold height
    generalize d.nodes.keys = keys at there
    induction keys with
    | nil => cases there
    | cons key rest ih =>
      rw [List.map_cons, List.foldr_cons]
      obtain rfl | mem := List.mem_cons.1 there
      · exact le_max_left _ _
      · exact le_max_of_le_right (ih mem)

/-- Beneath what is no directory there is nothing. -/
theorem IsTreeAt.eq_nil_of_isSome (tree : d.IsTreeAt path) {names : List String}
    (other : d.node? path ≠ some .directory)
    (there : (d.node? (path ++ names.map .text)).isSome) : names = [] := by
  by_contra below
  exact other (tree.isDirectory there (by simpa using below))

/-- What is beneath a directory is at or beneath one of its children. -/
theorem IsTreeAt.isSome_cons_iff (tree : d.IsTreeAt path) (n : String) (names : List String) :
    (d.node? (path ++ (n :: names).map .text)).isSome ↔
      (d.node? (path ++ [.text n])).isSome ∧
      (d.node? (path ++ [.text n] ++ names.map .text)).isSome := by
  rw [List.map_cons, List.append_cons]
  constructor
  · intro there
    refine ⟨?_, there⟩
    by_cases last : names = []
    · simpa [last] using there
    · have directory := (tree.child (.text n)).isDirectory there (by simpa using last)
      simp [directory]
  · exact And.right

/-- A directory goes first, and what is at and beneath its children follows in their order. -/
theorem pairwise_preorder {children : List String} {beneath : String → List (List String)}
    (ascending : children.Pairwise (· < ·)) (in_order : ∀ n, (beneath n).Pairwise (· < ·)) :
    ([] :: children.flatMap fun n => (beneath n).map (n :: ·)).Pairwise (· < ·) := by
  apply List.Pairwise.cons
  · intro names mem
    obtain ⟨n, _, mem⟩ := List.mem_flatMap.1 mem
    obtain ⟨rest, _, rfl⟩ := List.mem_map.1 mem
    exact List.nil_lt_cons n rest
  · apply List.pairwise_flatMap.2
    constructor
    · intro n _
      apply List.pairwise_map.2
      exact (in_order n).imp fun before => List.cons_lt_cons_iff.2 (.inr ⟨rfl, before⟩)
    · apply ascending.imp
      intro m n before a mem b mem'
      obtain ⟨_, _, rfl⟩ := List.mem_map.1 mem
      obtain ⟨_, _, rfl⟩ := List.mem_map.1 mem'
      exact List.cons_lt_cons_iff.2 (.inl before)

/-- A walk through a tree comes to all that is in it, in the order of the names. -/
theorem IsTreeAt.exists_visitLevels (tree : d.IsTreeAt path) {levels : Nat}
    (deep : d.height < path.length + levels) :
    ∃ found : List (List String), found.Pairwise (· < ·) ∧
      d.visitLevels levels path = found.map (fun names => path ++ names.map .text) ∧
      ∀ names, names ∈ found ↔ (d.node? (path ++ names.map .text)).isSome := by
  induction levels generalizing path with
  | zero =>
    refine ⟨[], List.Pairwise.nil, rfl, fun names => iff_of_false List.not_mem_nil ?_⟩
    intro there
    have short := length_le_height there
    rw [List.length_append] at short
    omega
  | succ levels ih =>
    cases node : d.node? path with
    | none =>
      refine ⟨[], List.Pairwise.nil, by simp [visitLevels, node], fun names =>
        iff_of_false List.not_mem_nil ?_⟩
      intro there
      obtain rfl := tree.eq_nil_of_isSome (by simp [node]) there
      simp [node] at there
    | some n =>
      cases n with
      | file n =>
        refine ⟨[[]], List.pairwise_singleton _ _, by simp [visitLevels, node], fun names => ?_⟩
        rw [List.mem_singleton]
        constructor
        · intro top
          simp [top, node]
        · exact tree.eq_nil_of_isSome (by simp [node])
      | directory =>
        obtain ⟨children, ascending, sorted, mem_children⟩ := tree.exists_children
        have each (n : String) := ih (tree.child (.text n)) (by
          rw [List.length_append, List.length_singleton]
          omega)
        choose beneath in_order whole mem_beneath using each
        refine ⟨[] :: children.flatMap fun n => (beneath n).map (n :: ·),
          pairwise_preorder ascending in_order, ?_, fun names => ?_⟩
        · rw [visitLevels, node, sorted]
          simp [List.flatMap_map, List.map_flatMap, whole, Function.comp_def]
        · cases names with
          | nil => simp [node]
          | cons n rest =>
            rw [tree.isSome_cons_iff, ← mem_children, ← mem_beneath]
            simp [List.mem_flatMap]

/-- The nodes at and beneath a path, by their names from there and in order. -/
theorem IsTreeAt.exists_visit (tree : d.IsTreeAt path) :
    ∃ found : List (List String), found.Pairwise (· < ·) ∧
      d.visit path = found.map (fun names => path ++ names.map .text) ∧
      ∀ names, names ∈ found ↔ (d.node? (path ++ names.map .text)).isSome :=
  tree.exists_visitLevels (by omega)

end Disk

namespace Files
variable {f : Files} {d d₀ : Disk} {r : Resource} {names : List String} {path : List PathText}

/-! ## What a walk meets -/

/-- The path of the directory to which the names lead is too long to be opened. -/
structure Obstructs (f : Files) (d : Disk) (r : Resource) (names : List String) : Prop where
  directory : ∃ path, d.locate (f.placeOf r) = .ok path ∧ d.node? path = some .directory ∧
    d.node? (path ++ names.map .text) = some .directory
  long : Disk.maxPath < (f.placeOf (r.below names)).path.size

/-- The walk ends at the first directory that obstructs it, and names it. -/
structure EndsAt (f : Files) (d : Disk) (r : Resource) (names : List String) : Prop extends
    f.Obstructs d r names where
  first (other : List String) : f.Obstructs d r other → names ≤ other
  error : f.walk r d = .error (fail .walk (f.placeOf (r.below names))
    (.tooLongBelow (f.placeOf (r.below names)).text))

/-- What obstructs the walk from a child obstructs the walk from the resource. -/
theorem Obstructs.of_child {n : String} (given : (f.placeOf r).path ≠ .text "")
    (segment : IsSegment n) (obstructs : f.Obstructs d (r.child n) names) :
    f.Obstructs d r (n :: names) := by
  obtain ⟨⟨inner, found, _, there⟩, long⟩ := obstructs
  obtain ⟨path, found_r, directory, rfl⟩ := exists_of_locate_child given segment found
  exact ⟨⟨path, found_r, directory, by simpa using there⟩, long⟩

theorem wayTo_names (segments : ∀ n ∈ names, IsSegment n) :
    f.wayTo r (names.map .text) = (f.placeOf (r.below names)).path := by
  simp [wayTo, placeOf, Place.path, Resource.segments_below segments, List.foldl_map,
    PathText.enter]

theorem joined_names (segments : ∀ n ∈ names, IsSegment n) :
    PathText.joined (r.path.segments.map .text ++ names.map .text) =
      (r.below names).path.text := by
  rw [Path.text_eq_intercalate, Resource.segments_below segments]
  simp [PathText.joined, PathText.display, Function.comp_def]

theorem walk_of_absent (absent : d.isPresent (f.placeOf r) = false) : f.walk r d = .ok [] := by
  unfold walk
  split
  · rfl
  · simp [absent]

/-- What is told of nodes by the names that lead to them from the path. -/
theorem map_drop_length {β : Type} {met : List (List String)} {k : List PathText → β}
    {tell : List String → β} (same : ∀ names ∈ met, k (names.map .text) = tell names) :
    (met.map fun names => path ++ names.map .text).map (fun found => k (found.drop path.length)) =
      met.map tell := by
  rw [List.map_map]
  refine List.map_congr_left fun names mem => ?_
  rw [Function.comp_apply, List.drop_left, same names mem]

/-- What a walk through a tree answers: it opens the directories in order, and names the files. -/
theorem walk_of_tree (tree : d.IsTreeAt path) (found : d.locate (f.placeOf r) = .ok path)
    (present : d.isPresent (f.placeOf r) = true) :
    ∃ directories files : List (List String),
      directories.Pairwise (· < ·) ∧ files.Pairwise (· < ·) ∧
      (∀ names, names ∈ directories ↔ d.node? (path ++ names.map .text) = some .directory) ∧
      (∀ names, names ∈ files ↔ ∃ n, d.node? (path ++ names.map .text) = some (.file n)) ∧
      f.walk r d =
        (directories.find? fun names => Disk.maxPath < (f.placeOf (r.below names)).path.size).elim
          (.ok (files.map fun names => (r.below names).path.text))
          fun names => .error (fail .walk (f.placeOf (r.below names))
            (.tooLongBelow (f.placeOf (r.below names)).text)) := by
  obtain ⟨met, ascending, whole, mem_met⟩ := tree.exists_visit
  let isDirectory (names : List String) : Bool :=
    d.node? (path ++ names.map .text) = some .directory
  have segments {names : List String} (mem : names ∈ met) : ∀ n ∈ names, IsSegment n :=
    fun n mem' => (tree.isFileName ((mem_met names).1 mem) n mem').1
  have split : (d.visit path).partition (fun found => d.node? found = some .directory) =
      ((met.filter isDirectory).map (fun names => path ++ names.map .text),
        (met.filter fun names => !isDirectory names).map (fun names => path ++ names.map .text)) := by
    rw [whole, List.partition_eq_filter_filter, List.filter_map, List.filter_map]
    rfl
  have ways : (((met.filter isDirectory).map fun names => path ++ names.map .text).map
      fun found => f.wayTo r (found.drop path.length)) =
      (met.filter isDirectory).map fun names => (f.placeOf (r.below names)).path :=
    map_drop_length fun _ mem => wayTo_names (segments (List.mem_of_mem_filter mem))
  have texts : (((met.filter fun names => !isDirectory names).map fun names =>
      path ++ names.map .text).map fun found =>
        PathText.joined (r.path.segments.map .text ++ found.drop path.length)) =
      (met.filter fun names => !isDirectory names).map fun names => (r.below names).path.text :=
    map_drop_length (k := fun names => PathText.joined (r.path.segments.map .text ++ names))
      fun _ mem => joined_names (segments (List.mem_of_mem_filter mem))
  refine ⟨met.filter isDirectory, met.filter fun names => !isDirectory names,
    ascending.filter _, ascending.filter _, fun names => ?_, fun names => ?_, ?_⟩
  · rw [List.mem_filter, mem_met, decide_eq_true_eq]
    exact and_iff_right_of_imp fun directory => by simp [directory]
  · rw [List.mem_filter, mem_met]
    cases node : d.node? (path ++ names.map .text) with
    | none => simp
    | some n => cases n <;> simp [isDirectory, node]
  · unfold walk
    rw [found]
    dsimp only
    rw [if_pos present, split]
    dsimp only
    rw [ways, texts, List.find?_map, Function.comp_def]
    generalize ((met.filter isDirectory).find? fun names =>
      Disk.maxPath < (f.placeOf (r.below names)).path.size) = first
    cases first <;> rfl

/-- A walk through a tree names its files, or ends at the first directory that obstructs it. -/
theorem walk_cases (tree : d.IsTreeAt path) (found : d.locate (f.placeOf r) = .ok path)
    (present : d.isPresent (f.placeOf r) = true) :
    (∃ names, f.EndsAt d r names) ∨ (∀ names, ¬ f.Obstructs d r names) ∧
    ∃ files : List (List String), files.Pairwise (· < ·) ∧
      f.walk r d = .ok (files.map fun names => (r.below names).path.text) ∧
      ∀ names, names ∈ files ↔ ∃ n, d.node? (path ++ names.map .text) = some (.file n) := by
  obtain ⟨directories, files, ascending, sorted, mem_directories_iff, mem_files, walked⟩ :=
    f.walk_of_tree tree found present
  have accepted := (Disk.locate_eq_ok_iff.1 found).1
  have below {names : List String} (long : Disk.maxPath < (f.placeOf (r.below names)).path.size) :
      names ≠ [] := by
    rintro rfl
    exact absurd accepted.short (Nat.not_le.2 long)
  have mem_directories {names : List String} (obstructs : f.Obstructs d r names) :
      names ∈ directories := by
    obtain ⟨⟨path', found', _, there⟩, long⟩ := obstructs
    obtain rfl := Except.ok.inj (found.symm.trans found')
    exact (mem_directories_iff names).2 there
  cases first : directories.find? fun names =>
      Disk.maxPath < (f.placeOf (r.below names)).path.size with
  | none =>
    right
    rw [first] at walked
    constructor
    · intro names obstructs
      have short := List.find?_eq_none.1 first names (mem_directories obstructs)
      simp [obstructs.long] at short
    · exact ⟨files, sorted, walked, mem_files⟩
  | some names =>
    left
    rw [first] at walked
    obtain ⟨long, before, after, eq, clear⟩ := List.find?_eq_some_iff_append.1 first
    have too_long := of_decide_eq_true long
    have directory := (mem_directories_iff names).1 (by simp [eq])
    have there : (d.node? (path ++ names.map .text)).isSome := by simp [directory]
    have top := tree.isDirectory there (by simpa using below too_long)
    refine ⟨names, ⟨⟨⟨path, found, top, directory⟩, too_long⟩, ?_, walked⟩⟩
    intro other obstructs
    have mem := mem_directories obstructs
    rw [eq] at mem ascending
    obtain mem | mem := List.mem_append.1 mem
    · have short := clear other mem
      simp [obstructs.long] at short
    · obtain rfl | mem := List.mem_cons.1 mem
      · exact le_refl _
      · exact le_of_lt (List.rel_of_pairwise_cons (List.pairwise_append.1 ascending).2.1 mem)

/-! ## What a walk names -/

/-- The paths of the files at and beneath the resource, each once and in the order of their
segments. -/
structure Enumerates (f : Files) (d : Disk) (r : Resource) (files : List String) : Prop where
  ascending : files.Pairwise fun p q => (Path.ofText p).segments < (Path.ofText q).segments
  mem_iff (p : String) : p ∈ files ↔ Path.normalize p = p ∧
    r.path.segments <+: (Path.ofText p).segments ∧
    f.backend.isFile (.ofText r.location p) d = true

/-- There is only one such list. -/
theorem Enumerates.unique {files files' : List String} (all : f.Enumerates d r files)
    (all' : f.Enumerates d r files') : files = files' := by
  have irrefl : Std.Irrefl fun p q : String =>
      (Path.ofText p).segments < (Path.ofText q).segments :=
    ⟨fun p => lt_irrefl (Path.ofText p).segments⟩
  have antisymm : Std.Antisymm fun p q : String =>
      (Path.ofText p).segments < (Path.ofText q).segments :=
    ⟨fun _ _ before after => absurd after (lt_asymm before)⟩
  exact all.ascending.eq_of_mem_iff all'.ascending
    fun p => (all.mem_iff p).trans (all'.mem_iff p).symm

/-- A path that is normal and begins as the resource does names what is at or beneath it. -/
theorem exists_below_of_normal {p : String} (normal : Path.normalize p = p)
    (le : r.path.segments <+: (Path.ofText p).segments) :
    ∃ names, (∀ n ∈ names, IsSegment n) ∧ Resource.ofText r.location p = r.below names ∧
      p = (r.below names).path.text := by
  obtain ⟨names, same, segments⟩ :=
    Resource.exists_below (q := .ofText r.location p) (r := r) rfl le
  refine ⟨names, segments, same, ?_⟩
  calc
    p = Path.normalize p := normal.symm
    _ = (Resource.ofText r.location p).path.text := rfl
    _ = (r.below names).path.text := by rw [same]

theorem ofText_text_below (r : Resource) (names : List String) :
    Resource.ofText r.location (r.below names).path.text = r.below names := by
  rw [Resource.ofText, Path.ofText_text, ← Resource.location_below r names]

/-- The text of a resource beneath another is the normal text of what is beneath it. -/
theorem normal_below (segments : ∀ n ∈ names, IsSegment n) :
    Path.normalize (r.below names).path.text = (r.below names).path.text ∧
      r.path.segments <+: (Path.ofText (r.below names).path.text).segments := by
  rw [Path.normalize, Path.ofText_text, Resource.segments_below segments]
  exact ⟨rfl, List.prefix_append _ _⟩

/-- Nothing is at or beneath what is not there. -/
theorem enumerates_nil (given : (f.placeOf r).path ≠ .text "")
    (absent : d.isPresent (f.placeOf r) = false) : f.Enumerates d r [] where
  ascending := List.Pairwise.nil
  mem_iff p := by
    refine iff_of_false List.not_mem_nil fun ⟨normal, le, file⟩ => ?_
    obtain ⟨names, segments, same, _⟩ := exists_below_of_normal normal le
    rw [same] at file
    cases absent.symm.trans (isPresent_of_isFile_below given segments file)

/-- At and beneath a file is the file. -/
theorem enumerates_singleton (given : (f.placeOf r).path ≠ .text "")
    (file : d.isFile (f.placeOf r) = true) : f.Enumerates d r [r.path.text] where
  ascending := List.pairwise_singleton _ _
  mem_iff p := by
    have text : Resource.ofText r.location r.path.text = r := ofText_text_below r []
    rw [List.mem_singleton]
    constructor
    · rintro rfl
      rw [text, Path.normalize, Path.ofText_text]
      exact ⟨rfl, List.prefix_rfl, file⟩
    · rintro ⟨normal, le, below⟩
      obtain ⟨names, segments, same, rfl⟩ := exists_below_of_normal normal le
      rw [same] at below
      by_cases here : names = []
      · rw [here]
        rfl
      · -- Beneath a file nothing is found.
        obtain ⟨n, stat⟩ := Disk.isFile_iff.1 file
        obtain ⟨path, found, node, _⟩ := Disk.stat_eq_file_iff.1 stat
        obtain ⟨_, stat_below⟩ := Disk.isFile_iff.1 below
        obtain ⟨last, found_below, _⟩ := Disk.stat_eq_file_iff.1 stat_below
        obtain ⟨path', found', _, directory⟩ := exists_of_locate_below given segments found_below
        obtain rfl := Except.ok.inj (found.symm.trans found')
        cases node.symm.trans (directory here)

/-- The path of a file does not end in a slash. -/
theorem wantsDirectory_below (found : d.locate (f.placeOf r) = .ok path)
    (present : d.isPresent (f.placeOf r) = true) (segments : ∀ s ∈ names, IsSegment s) {n : Nat}
    (file : d.node? (path ++ names.map .text) = some (.file n)) :
    (f.placeOf (r.below names)).wantsDirectory = false := by
  by_cases here : names = []
  · subst here
    obtain ⟨node, stat⟩ := Disk.isPresent_iff.1 present
    rw [List.map_nil, List.append_nil] at file
    rw [Disk.stat_of_locate found, file] at stat
    rw [Resource.below_nil]
    apply Bool.not_eq_true _ |>.mp
    intro wants
    simp [wants] at stat
  · exact wantsDirectory_placeOf (by simp [Resource.trail_below segments, here])

/-- The files in a tree, in the order of their names, are what is at and beneath the resource. -/
theorem enumerates_of_tree (given : (f.placeOf r).path ≠ .text "") (built : f.Built d₀ d r)
    (arises : f.Arises d₀ d) (tree : d.IsTreeAt path) (found : d.locate (f.placeOf r) = .ok path)
    (present : d.isPresent (f.placeOf r) = true) {files : List (List String)}
    (ascending : files.Pairwise (· < ·))
    (mem_files : ∀ names, names ∈ files ↔ ∃ n, d.node? (path ++ names.map .text) = some (.file n)) :
    f.Enumerates d r (files.map fun names => (r.below names).path.text) where
  ascending := by
    rw [List.pairwise_map]
    refine ascending.imp_of_mem fun {a b} mem mem' before => ?_
    have segments {names : List String} (mem : names ∈ files) : ∀ n ∈ names, IsSegment n := by
      obtain ⟨n, file⟩ := (mem_files names).1 mem
      exact fun s mem => (tree.isFileName (by simp [file]) s mem).1
    rw [Path.ofText_text, Path.ofText_text, Resource.segments_below (segments mem),
      Resource.segments_below (segments mem')]
    exact List.append_left_lt before
  mem_iff p := by
    rw [List.mem_map]
    constructor
    · rintro ⟨names, mem, rfl⟩
      obtain ⟨n, file⟩ := (mem_files names).1 mem
      have there : (d.node? (path ++ names.map .text)).isSome := by simp [file]
      have named := tree.isFileName there
      have segments : ∀ s ∈ names, IsSegment s := fun s mem => (named s mem).1
      refine ⟨(normal_below segments).1, (normal_below segments).2, ?_⟩
      rw [ofText_text_below]
      have accepted := built.isAccepted_of_file arises found tree segments file
      have found_below := locate_below given tree found named there accepted
      have plain := wantsDirectory_below found present segments file
      exact Disk.isFile_iff.2 ⟨n, Disk.stat_eq_file_iff.2 ⟨_, found_below, file, plain⟩⟩
    · rintro ⟨normal, le, below⟩
      obtain ⟨names, segments, same, rfl⟩ := exists_below_of_normal normal le
      rw [same] at below
      obtain ⟨n, stat⟩ := Disk.isFile_iff.1 below
      obtain ⟨last, found_below, file, _⟩ := Disk.stat_eq_file_iff.1 stat
      obtain ⟨path', found', rfl, _⟩ := exists_of_locate_below given segments found_below
      obtain rfl := Except.ok.inj (found.symm.trans found')
      exact ⟨names, (mem_files names).2 ⟨n, file⟩, rfl⟩

/-- A walk that nothing obstructs enumerates the files, and any other ends where it is first
obstructed. -/
theorem walk_enumerates (given : (f.placeOf r).path ≠ .text "") (built : f.Built d₀ d r)
    (arises : f.Arises d₀ d) :
    ((∀ names, ¬ f.Obstructs d r names) ∧
      ∃ files, f.walk r d = .ok files ∧ f.Enumerates d r files) ∨
    ∃ names, f.EndsAt d r names := by
  cases present : d.isPresent (f.placeOf r) with
  | false =>
    left
    constructor
    · intro names obstructs
      obtain ⟨path, found, there, _⟩ := obstructs.directory
      have stat := Disk.stat_eq_directory_iff.2 ⟨path, found, there⟩
      cases present.symm.trans (Disk.isPresent_iff.2 ⟨_, stat⟩)
    · exact ⟨[], walk_of_absent present, enumerates_nil given present⟩
  | true =>
    obtain ⟨path, n, found, there⟩ := Disk.exists_of_isPresent present
    have tree := built.isTreeAt arises found (by simp [there])
    obtain obstructed | ⟨clear, files, ascending, walked, mem_files⟩ :=
      f.walk_cases tree found present
    · exact .inr obstructed
    · exact .inl ⟨clear, _, walked,
        enumerates_of_tree given built arises tree found present ascending mem_files⟩

/-- In a directory that nothing obstructs all names are those of what exists. -/
theorem lists_of_clear (given : (f.placeOf r).path ≠ .text "") (built : f.Built d₀ d r)
    (arises : f.Arises d₀ d) (clear : ∀ names, ¬ f.Obstructs d r names)
    (found : d.locate (f.placeOf r) = .ok path) (directory : d.node? path = some .directory) :
    ∃ names, f.list r d = .ok names ∧ f.backend.Lists (fun _ => True) r d names := by
  have tree := built.isTreeAt arises found (by simp [directory])
  refine exists_lists given fun path' name found' there _ => ?_
  obtain rfl := Except.ok.inj (found.symm.trans found')
  obtain ⟨s, rfl, named⟩ := tree.named [] name (by simpa using there)
  refine ⟨rfl, named, ?_⟩
  obtain ⟨n | n, node⟩ := Option.isSome_iff_exists.1 there
  · have accepted := (Disk.locate_eq_ok_iff.1 found).1
    refine isAccepted_child accepted named (Nat.not_lt.1 fun long => ?_)
    exact clear [s] ⟨⟨path, found, directory, node⟩, long⟩
  · have accepted : (f.placeOf (r.below [s])).IsAccepted :=
      built.isAccepted_of_file arises found tree (by simpa using named.1) node
    exact accepted

/-- The files beneath a directory are those beneath its children, in the order of the listing. -/
theorem enumerates_flatMap (directory : d.isDirectory (f.placeOf r) = true)
    {part : String → List String}
    (lists : f.backend.Lists (fun _ => True) r d names)
    (parts : ∀ n ∈ names, f.Enumerates d (r.child n) (part n)) :
    f.Enumerates d r (names.flatMap part) where
  ascending := by
    have segment {n : String} (mem : n ∈ names) : IsSegment n := ((lists.mem_iff n trivial).1 mem).1
    refine List.pairwise_flatMap.2 ⟨fun n mem => (parts n mem).ascending, ?_⟩
    refine lists.ascending.imp_of_mem fun {n m} mem mem' before p of_n q of_m => ?_
    obtain ⟨_, ⟨rest, eq⟩, _⟩ := ((parts n mem).mem_iff p).1 of_n
    obtain ⟨_, ⟨rest', eq'⟩, _⟩ := ((parts m mem').mem_iff q).1 of_m
    rw [← eq, ← eq', Resource.segments_child (segment mem), Resource.segments_child (segment mem'),
      List.append_assoc, List.append_assoc]
    exact List.append_left_lt (List.cons_lt_cons_iff.2 (.inl (before.2 trivial)))
  mem_iff p := by
    rw [List.mem_flatMap]
    constructor
    · rintro ⟨n, mem, of_n⟩
      obtain ⟨normal, le, file⟩ := ((parts n mem).mem_iff p).1 of_n
      have segment := ((lists.mem_iff n trivial).1 mem).1
      rw [Resource.segments_child segment] at le
      exact ⟨normal, (List.prefix_append _ _).trans le, file⟩
    · rintro ⟨normal, le, file⟩
      obtain ⟨all, segments, same, rfl⟩ := exists_below_of_normal normal le
      have below := file
      rw [same] at below
      cases all with
      | nil =>
        obtain ⟨n, stat⟩ := Disk.isFile_iff.1 below
        cases stat.symm.trans (Disk.isDirectory_iff.1 directory)
      | cons n rest =>
        have segment := segments n List.mem_cons_self
        have inner : ∀ s ∈ rest, IsSegment s := fun s mem => segments s (List.mem_cons_of_mem _ mem)
        have there : d.isPresent (f.placeOf (r.child n)) = true :=
          isPresent_of_isFile_below (path_child_ne segment) inner below
        have mem := (lists.mem_iff n trivial).2 ⟨segment, there⟩
        refine ⟨n, mem, ((parts n mem).mem_iff _).2 ⟨normal, ?_, file⟩⟩
        exact (normal_below (r := r.child n) inner).2

/-- What a walk from the resource gives: nothing where nothing is, the path of a file, and for a
directory what the walks from its children give, in the order in which they are listed. -/
structure Walks (f : Files) (d : Disk) (r : Resource) (files : List String) : Prop extends
    f.Enumerates d r files where
  absent : f.backend.present r d = false → files = []
  file : f.backend.isFile r d = true → files = [r.path.text]
  directory : f.backend.isDirectory r d = true → ∃ names part, f.backend.list r d = .ok names ∧
    (∀ n ∈ names, f.walk (r.child n) d = .ok (part n)) ∧ files = names.flatMap part

theorem walks_of_clear (given : (f.placeOf r).path ≠ .text "") (built : f.Built d₀ d r)
    (arises : f.Arises d₀ d) (clear : ∀ names, ¬ f.Obstructs d r names) {files : List String}
    (all : f.Enumerates d r files) : f.Walks d r files where
  toEnumerates := all
  absent absent := all.unique (enumerates_nil given absent)
  file file := all.unique (enumerates_singleton given file)
  directory directory := by
    obtain ⟨path, found, there⟩ := Disk.isDirectory_iff_locate.1 directory
    obtain ⟨names, listed, lists⟩ := lists_of_clear given built arises clear found there
    have each (n : String) (mem : n ∈ names) :
        ∃ part, f.walk (r.child n) d = .ok part ∧ f.Enumerates d (r.child n) part := by
      have segment := ((lists.mem_iff n trivial).1 mem).1
      obtain ⟨_, enumerated⟩ | ⟨inner, ends⟩ :=
        walk_enumerates (path_child_ne segment) (built.child given segment) arises
      · exact enumerated
      · exact absurd (ends.toObstructs.of_child given segment) (clear _)
    choose! part walked parts using each
    exact ⟨names, part, listed, walked, all.unique (enumerates_flatMap directory lists parts)⟩

/-- Nothing obstructs a walk if the root never leads up. -/
theorem not_obstructs_of_forward (built : f.Built d₀ d r) (arises : f.Arises d₀ d)
    (forward : ∀ name ∈ Place.stepsOf (.text f.root), name ≠ .text "..") (names : List String) :
    ¬ f.Obstructs d r names := by
  rintro ⟨⟨path, found, directory, there⟩, long⟩
  have tree := built.isTreeAt arises found (by simp [directory])
  have some_node : (d.node? (path ++ names.map .text)).isSome := by simp [there]
  have named := tree.isFileName some_node
  have accepted := built.isAccepted_of_forward arises found forward tree
    (fun n mem => (named n mem).1) some_node
  exact absurd accepted.short (Nat.not_le.2 long)

end Files

/-- **A walk is the recursive listing.** However the store was used, a walk from a resource
beneath which all was put there by the store gives what walks from the children give in the
order in which they are listed, and names every file once, in the order of the segments and by
the path that leads back to it; where the resource has a path. Only where a directory has a path
too long to be opened, which takes a root that leads up, the walk ends at the first of them. -/
theorem walk_is_recursive_listing (f : Files) (d₀ : Disk) (calls : List Call) (r : Resource)
    (sound : f.Sound d₀) (given : (f.placeOf r).path ≠ .text "") :
    let now := (Usage.after f.backend d₀ calls).store
    f.Built d₀ now r →
      ((∀ names, ¬ f.Obstructs now r names) ∧
          (∃ files, f.walk r now = .ok files ∧ f.Walks now r files) ∨
        ∃ names, f.EndsAt now r names) ∧
      ((∀ name ∈ Place.stepsOf (.text f.root), name ≠ .text "..") →
        ∀ names, ¬ f.Obstructs now r names) := by
  intro now built
  have arises : f.Arises d₀ now := Files.arises_after sound calls
  refine ⟨?_, Files.not_obstructs_of_forward built arises⟩
  obtain ⟨clear, files, walked, all⟩ | obstructed := Files.walk_enumerates given built arises
  · exact .inl ⟨clear, files, walked, Files.walks_of_clear given built arises clear all⟩
  · exact .inr obstructed

/-- A store that began with nothing has built all there is. -/
theorem Files.built_of_empty (f : Files) (d : Disk) (r : Resource) : f.Built {} d r where
  beneath path rest _ below := by
    rw [Disk.node?_empty, if_neg]
    simp [below]
  file path n _ file := by
    rw [Disk.node?_empty, if_neg]
    rintro rfl
    cases file

/-- Two files whose paths would be in the other order as texts, and one that was deleted. -/
theorem walk_of_used_disk :
    let f : Files := { root := "/cache" }
    let r : String → Resource := .ofText { name := "local", uri := "file:///srv/local" }
    let now := (Usage.after f.backend {} [.ask (.openWriter (r "a/b.c")),
      .ask (.createFile (r "a/d")), .ask (.delete (r "a/d")), .ask (.createFile (r "a/b/x"))]).store
    f.Sound {} ∧ (f.placeOf (r "a")).path ≠ .text "" ∧ f.Built {} now (r "a") ∧
      ∃ files, f.walk (r "a") now = .ok files ∧ f.Walks now (r "a") files ∧
        "a/b/x" ∈ files ∧ "a/b.c" ∈ files ∧ "a/d" ∉ files := by
  intro f r now
  have sound : f.Sound {} := ⟨Disk.closed_empty, by decide⟩
  have given : (f.placeOf (r "a")).path ≠ .text "" := by decide
  have built : f.Built {} now (r "a") := f.built_of_empty now (r "a")
  obtain ⟨outcome, clear⟩ := walk_is_recursive_listing f {} _ (r "a") sound given built
  obtain ⟨_, files, walked, walks⟩ | ⟨names, ends⟩ := outcome
  · refine ⟨sound, given, built, files, walked, walks, (walks.mem_iff _).2 ?_,
      (walks.mem_iff _).2 ?_, mt (walks.mem_iff _).1 ?_⟩
    · decide +kernel
    · decide +kernel
    · decide +kernel
  · exact absurd ends.toObstructs (clear (by decide) names)

/-- The walk from the first location ends at what was made on the way to the root. -/
theorem Files.IsCramped.walk_ends {f : Files} (cramped : f.IsCramped) :
    let a : Resource := .root { name := "a", uri := "a" }
    let now := (Usage.after f.backend {} [.ask (.mkdirs (.root { name := "b", uri := "b" }))]).store
    (∃ names, f.backend.list a now = .ok names ∧ "n" ∈ names ∧
      ∀ n ∈ names, f.walk (a.child n) now = .ok []) ∧ ∃ e, f.walk a now = .error e := by
  intro a now
  obtain ⟨found, at_a, at_n⟩ : now.locate (f.placeOf a) = .ok [.text "a"] ∧
    now.node? [.text "a"] = some .directory ∧ now.node? [.text "a", .text "n"] = some .directory :=
    cramped.found_after
  have sound : f.Sound {} := ⟨Disk.closed_empty, by split <;> rfl⟩
  have built : f.Built {} now a := f.built_of_empty now a
  have arises : f.Arises {} now := Files.arises_after sound _
  clear_value now
  have tree := built.isTreeAt arises found (by simp [at_a])
  refine ⟨⟨_, Files.list_of_locate found at_a, ?_, fun n mem => ?_⟩, ?_⟩
  · refine Text.mem_sorted.2 (List.mem_map.2 ⟨.text "n", Disk.mem_children.2 ?_, rfl⟩)
    rw [List.singleton_append, at_n]
    rfl
  · obtain ⟨name, child, rfl⟩ := List.mem_map.1 (Text.mem_sorted.1 mem)
    obtain ⟨s, rfl, named⟩ := tree.named [] name (by simpa using Disk.mem_children.1 child)
    refine Files.walk_of_absent (Bool.not_eq_true _ |>.mp fun present => ?_)
    obtain ⟨_, _, located, _⟩ := Disk.exists_of_isPresent present
    exact cramped.not_isAccepted_child named.1 (Disk.locate_eq_ok_iff.1 located).1
  · have obstructs : f.Obstructs now a ["n"] :=
      ⟨⟨_, found, at_a, at_n⟩, cramped.lt_size_child (by decide)⟩
    have given : (f.placeOf a).path ≠ .text "" := by
      rw [cramped.path_placeOf (s := "a") (by decide)]
      simp
    obtain ⟨clear, _⟩ | ⟨_, ends⟩ := Files.walk_enumerates given built arises
    · exact absurd obstructs (clear _)
    · exact ⟨_, ends.error⟩

/-- A root that leads up through the directory of a location, along a path that leaves no room
behind it; and the root of the location without a name, below no root. The walk from the first
fails, though what it lists can be walked; the walk from the second misses a file. -/
theorem walk_without_listing :
    let f : Files := { root := String.ofList (List.replicate 4084 '/' ++ "a/n/../..".toList) }
    let a : Resource := .root { name := "a", uri := "a" }
    let now := (Usage.after f.backend {} [.ask (.mkdirs (.root { name := "b", uri := "b" }))]).store
    let g : Files := { root := "" }
    let u : Resource := .root { name := "u", uri := "" }
    let later := (Usage.after g.backend {} [.ask (.createFile (u.child "x"))]).store
    (∃ names, f.backend.list a now = .ok names ∧ "n" ∈ names ∧
      (∀ n ∈ names, f.walk (a.child n) now = .ok []) ∧ ∃ e, f.walk a now = .error e) ∧
    (g.backend.isFile (u.child "x") later = true ∧ g.walk u later = .ok []) ∧
    (¬ ∃ files, f.walk a now = .ok files ∧ f.Walks now a files) ∧
    ¬ ∃ files, g.walk u later = .ok files ∧ g.Walks later u files := by
  intro f a now g u later
  have cramped : f.IsCramped := Files.isCramped_of_slashes
  obtain ⟨⟨names, listed, mem, walked⟩, e, ended⟩ := cramped.walk_ends
  have missed : g.backend.isFile (u.child "x") later = true ∧
      g.backend.present u later = false := by
    decide +kernel
  have nothing : g.walk u later = .ok [] := Files.walk_of_absent missed.2
  refine ⟨⟨names, listed, mem, walked, e, ended⟩, ⟨missed.1, nothing⟩, ?_, ?_⟩
  · rintro ⟨files, found, _⟩
    cases ended.symm.trans found
  · rintro ⟨files, found, walks⟩
    obtain rfl := Except.ok.inj (nothing.symm.trans found)
    have named : "x" ∈ ([] : List String) := (walks.mem_iff "x").2
      ⟨by decide, by decide, missed.1⟩
    cases named

end ArtifactCache
