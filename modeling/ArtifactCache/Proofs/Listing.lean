import ArtifactCache.Proofs.FileFilling
import ArtifactCache.Proofs.Hierarchy
import ArtifactCache.Proofs.Origins
import Mathlib.Data.List.Nodup

/-!
Listing and existence agree. The names in a directory come in ascending order, each once,
and they are the segments that lead to what exists below it (`Backend.Lists`). In memory
this is so for all names, in every state. On disk it is so for the names that are the
store's own (`Files.Own`), whatever else lay in the directory from the start.
-/
namespace ArtifactCache

variable {S R W : Type}

/-- The names are those of the children of the resource, each once as far as they are `own`.
Whatever exists is listed, and nothing is where there is no directory. -/
structure Backend.Lists (b : Backend S R W) (own : String → Prop) (r : Resource) (s : S)
    (names : List String) : Prop where
  ascending : names.Pairwise fun a c => a ≤ c ∧ (own a → a < c)
  mem_iff (n : String) : own n → (n ∈ names ↔ IsSegment n ∧ b.present (r.child n) s = true)
  listed (q : Resource) : q.isRoot = false → q.parent = r → b.present q s = true →
    b.isDirectory r s = true ∧ ∃ n, q.fileName = some n ∧ n ∈ names
  nothing : b.isDirectory r s = false → names = []

/-! ## Names in order -/

namespace Text

theorem insertName_ascending {name : String} {names : List String}
    (sorted : names.Pairwise (· < ·)) : (insertName name names).Pairwise (· < ·) := by
  induction names with
  | nil => simp [insertName]
  | cons first rest ih =>
    obtain ⟨before, rest_sorted⟩ := List.pairwise_cons.1 sorted
    unfold insertName
    split
    · next first_of_all =>
      refine List.pairwise_cons.2 ⟨fun other mem => ?_, sorted⟩
      obtain rfl | mem := List.mem_cons.1 mem
      · exact first_of_all
      · exact String.lt_trans first_of_all (before other mem)
    next not_before =>
    split
    · exact sorted
    · next other =>
      refine List.pairwise_cons.2 ⟨fun next mem => ?_, ih rest_sorted⟩
      obtain rfl | mem := mem_insertName.1 mem
      · exact Std.lt_of_le_of_ne (String.not_lt.1 not_before) (Ne.symm other)
      · exact before next mem

theorem pairwise_ascending (names : List String) : (ascending names).Pairwise (· < ·) := by
  induction names with
  | nil => exact List.Pairwise.nil
  | cons name rest ih => exact insertName_ascending ih

theorem mem_sorted {n : String} {names : List String} : n ∈ sorted names ↔ n ∈ names :=
  List.mem_mergeSort

theorem pairwise_sorted (names : List String) : (sorted names).Pairwise (· ≤ ·) := by
  have le_iff {a b : String} : (!decide (b < a)) = true ↔ a ≤ b := by
    rw [Bool.not_eq_true', decide_eq_false_iff_not, String.not_lt]
  have ordered : (sorted names).Pairwise fun a b => !decide (b < a) := by
    refine List.pairwise_mergeSort (fun a b c ab bc => ?_) (fun a b => ?_) names
    · exact le_iff.2 (String.le_trans (le_iff.1 ab) (le_iff.1 bc))
    · rw [Bool.or_eq_true]
      exact (String.le_total a b).imp le_iff.2 le_iff.2
  exact ordered.imp le_iff.1

/-- A name that is given once has all others before or behind it. -/
theorem sorted_lt_of_once {names : List String} {own : String → Prop}
    (once : names.Pairwise fun a c => own a → a ≠ c) :
    (sorted names).Pairwise fun a c => a ≤ c ∧ (own a → a < c) := by
  have apart : (sorted names).Pairwise fun a c => own a → a ≠ c := by
    refine List.Perm.pairwise (List.mergeSort_perm names _).symm once ?_
    rintro a c apart own rfl
    exact apart own rfl
  refine ((pairwise_sorted names).and apart).imp fun both => ⟨both.1, fun own => ?_⟩
  exact Std.lt_of_le_of_ne both.1 (both.2 own)

theorem concat_prefix_iff {α : Type} {front whole : List α} {a : α} :
    front ++ [a] <+: whole ↔ front <+: whole ∧ whole[front.length]? = some a := by
  constructor
  · rintro ⟨rest, rfl⟩
    simp
  · rintro ⟨⟨rest, rfl⟩, next⟩
    rw [List.getElem?_append_right (Nat.le_refl _), Nat.sub_self, ← List.head?_eq_getElem?] at next
    obtain ⟨more, rfl⟩ := List.head?_eq_some_iff.1 next
    exact ⟨more, by simp⟩

end Text

namespace Resource
variable {r : Resource} {n : String}

/-- The root of the location without a name is at the root of the store. -/
theorem names_of_trail_eq_nil (top : r.trail = []) :
    Location.directoryName r.location.uri = "" ∧ r.path.segments = [] := by
  have empty : ∀ name ∈ Location.directoryName r.location.uri :: r.path.segments, name = "" := by
    simpa [trail] using top
  refine ⟨empty _ List.mem_cons_self, List.eq_nil_iff_forall_not_mem.2 fun s mem => ?_⟩
  exact (r.path.named s mem).1 (empty s (List.mem_cons_of_mem _ mem))

theorem segments_child (segment : IsSegment n) :
    (r.child n).path.segments = r.path.segments ++ [n] := by
  simp [child, Path.ofText_of_isSegment segment]

end Resource

/-! ## In memory -/

namespace Memory
variable {m : Memory} {r : Resource} {n : String} {linking : Bool}

/-- A resource exists if something is stored at or beneath it. -/
theorem present_iff : (backend linking).present r m = true ↔
    ∃ b ∈ m.stored, r.location.uri = b.uri ∧ r.path.segments <+: b.path.segments := by
  change (m.isFile r.address || m.isDirectory r.address) = true ↔ _
  rw [Bool.or_eq_true, isDirectory_iff, ← or_assoc, ← mem_stored_iff, hasBeneath_iff]
  constructor
  · rintro (here | ⟨b, mem, above⟩)
    · exact ⟨_, here, rfl, List.prefix_rfl⟩
    · obtain ⟨uri, higher⟩ := Address.isAbove_iff.1 above
      exact ⟨b, mem, uri, (Path.isAbove_iff.1 higher).1⟩
  · rintro ⟨b, mem, uri, le⟩
    by_cases here : r.path = b.path
    · have eq : r.address = b := by
        rw [Resource.address, uri, here]
      exact .inl (eq ▸ mem)
    · exact .inr ⟨b, mem, Address.isAbove_iff.2 ⟨uri, Path.isAbove_iff.2 ⟨le, here⟩⟩⟩

/-- A name is listed if something is stored at or beneath it. -/
theorem mem_names_iff : n ∈ m.names r.address ↔
    ∃ b ∈ m.stored, r.location.uri = b.uri ∧ r.path.segments ++ [n] <+: b.path.segments := by
  rw [names, Address.textIsAbove_eq_isAbove, Text.mem_ascending, List.mem_filterMap]
  simp only [List.mem_filter, and_assoc, Text.concat_prefix_iff]
  constructor
  · rintro ⟨b, mem, above, next⟩
    obtain ⟨uri, higher⟩ := Address.isAbove_iff.1 above
    exact ⟨b, mem, uri, (Path.isAbove_iff.1 higher).1, next⟩
  · rintro ⟨b, mem, uri, le, next⟩
    refine ⟨b, mem, Address.isAbove_iff.2 ⟨uri, Path.isAbove_iff.2 ⟨le, fun here => ?_⟩⟩, next⟩
    rw [show b.path = r.path from here.symm, List.getElem?_eq_none (Nat.le_refl _)] at next
    cases next

theorem isDirectory_of_mem_names (mem : n ∈ m.names r.address) :
    m.isDirectory r.address = true := by
  rw [names, Address.textIsAbove_eq_isAbove, Text.mem_ascending, List.mem_filterMap] at mem
  obtain ⟨b, stored, _⟩ := mem
  obtain ⟨stored, above⟩ := List.mem_filter.1 stored
  exact isDirectory_iff.2 (.inr (hasBeneath_iff.2 ⟨b, stored, above⟩))

theorem mem_names_iff_present :
    n ∈ m.names r.address ↔ IsSegment n ∧ (backend linking).present (r.child n) m = true := by
  rw [mem_names_iff]
  constructor
  · rintro ⟨b, mem, uri, le⟩
    have segment := b.path.named n (le.mem (by simp))
    exact ⟨segment, present_iff.2 ⟨b, mem, uri, Resource.segments_child segment ▸ le⟩⟩
  · rintro ⟨segment, there⟩
    obtain ⟨b, mem, uri, le⟩ := present_iff.1 there
    exact ⟨b, mem, uri, Resource.segments_child segment ▸ le⟩

theorem lists (linking : Bool) (m : Memory) (r : Resource) :
    (backend linking).Lists (fun _ => True) r m (m.names r.address) where
  ascending := (Text.pairwise_ascending _).imp fun before =>
    ⟨Std.le_of_lt before, fun _ => before⟩
  mem_iff _ _ := mem_names_iff_present
  listed q below parent there := by
    obtain ⟨n, name, segment, whole⟩ := Resource.exists_child below
    rw [← whole, parent] at there
    have mem := mem_names_iff_present.2 ⟨segment, there⟩
    exact ⟨isDirectory_of_mem_names mem, n, name, mem⟩
  nothing empty := by
    refine List.eq_nil_iff_forall_not_mem.2 fun n mem => ?_
    cases empty.symm.trans (isDirectory_of_mem_names mem)

end Memory

/-! ## On disk -/

namespace Disk
variable {d : Disk} {p : Place} {path : List PathText}

theorem mem_children {name : PathText} :
    name ∈ d.children path ↔ (d.node? (path ++ [name])).isSome := by
  have key : d.node? (path ++ [name]) = d.nodes.get? (path ++ [name]) := by simp [node?]
  rw [key, ← Table.mem_keys_iff, children, List.mem_filterMap]
  constructor
  · rintro ⟨key, mem, last⟩
    split at last
    · next parent =>
      obtain ⟨init, rfl⟩ := List.getLast?_eq_some_iff.1 last
      rw [List.dropLast_concat] at parent
      exact parent ▸ mem
    · cases last
  · exact fun mem => ⟨_, mem, by simp⟩

theorem nodup_children : (d.children path).Nodup := by
  refine List.Nodup.filterMap ?_ d.nodes.distinct
  intro a a' name last last'
  simp only [Option.mem_def] at last last'
  split at last
  · split at last'
    · next parent parent' =>
      obtain ⟨init, rfl⟩ := List.getLast?_eq_some_iff.1 last
      obtain ⟨init', rfl⟩ := List.getLast?_eq_some_iff.1 last'
      rw [List.dropLast_concat] at parent parent'
      rw [parent, parent']
    · cases last'
  · cases last

theorem exists_of_isPresent (present : d.isPresent p = true) :
    ∃ path n, d.locate p = .ok path ∧ d.node? path = some n := by
  obtain ⟨n, stat⟩ := isPresent_iff.1 present
  cases found : d.locate p with
  | error fault => cases (stat_of_error found).symm.trans stat
  | ok path =>
    rw [stat_of_locate found] at stat
    cases node : d.node? path with
    | none =>
      rw [node] at stat
      cases stat
    | some n => exact ⟨path, n, rfl, node⟩

end Disk

namespace Files
variable {f : Files} {d d₀ : Disk} {r : Resource} {n : String} {path : List PathText}

theorem list_of_locate (found : d.locate (f.placeOf r) = .ok path)
    (there : d.node? path = some .directory) :
    f.list r d = .ok (Text.sorted ((d.children path).map (·.display))) := by
  have directory := Disk.isDirectory_iff_locate.2 ⟨path, found, there⟩
  simp [list, found, directory]

theorem list_cases (f : Files) (r : Resource) (d : Disk) :
    (d.isDirectory (f.placeOf r) = false ∧ f.list r d = .ok []) ∨
    ∃ path, d.locate (f.placeOf r) = .ok path ∧ d.node? path = some .directory ∧
      f.list r d = .ok (Text.sorted ((d.children path).map (·.display))) := by
  cases directory : d.isDirectory (f.placeOf r) with
  | false =>
    refine .inl ⟨rfl, ?_⟩
    unfold list
    split <;> simp [directory]
  | true =>
    obtain ⟨path, found, there⟩ := Disk.isDirectory_iff_locate.1 directory
    exact .inr ⟨path, found, there, list_of_locate found there⟩

theorem steps_child (segment : IsSegment n) :
    (f.placeOf (r.child n)).steps = (f.placeOf r).steps ++ [.text n] := by
  rw [steps_placeOf, steps_placeOf, Resource.trail_child segment, List.append_assoc]

theorem path_child (segment : IsSegment n) :
    (f.placeOf (r.child n)).path = .text (PathText.pushNames f.root
      ((Location.directoryName r.location.uri :: r.path.segments) ++ [n])) := by
  rw [path_placeOf, Resource.segments_child segment]
  rfl

/-- The path to a resource is taken if the path to its child is. -/
theorem isAccepted_of_child (named : (f.placeOf r).path ≠ .text "") (segment : IsSegment n)
    (accepted : (f.placeOf (r.child n)).IsAccepted) : (f.placeOf r).IsAccepted := by
  refine isAccepted_of_prefix_path accepted (path_child segment) (path_placeOf f r)
    (PathText.pushNames_prefix_append _ _ _) fun empty => named ?_
  rw [path_placeOf, empty]

/-- The way to something in a directory is the way to the directory, and its name. -/
theorem exists_of_locate_child (named : (f.placeOf r).path ≠ .text "") (segment : IsSegment n)
    (found : d.locate (f.placeOf (r.child n)) = .ok path) :
    ∃ dir, d.locate (f.placeOf r) = .ok dir ∧ d.node? dir = some .directory ∧
      path = dir ++ [.text n] := by
  obtain ⟨accepted, dir, ends, last⟩ := Disk.locate_eq_ok_iff.1 found
  rw [steps_child segment, List.dropLast_concat] at ends
  rw [steps_child segment, List.getLast?_concat] at last
  have down : PathText.IsDown (.text n) :=
    Resource.isDown_of_mem_trail (r := r.child n) (by simp [Resource.trail_child segment])
  have accepted_r := isAccepted_of_child named segment accepted
  refine ⟨dir, Disk.locate_of_follow accepted_r ends, ?_, Disk.step_of_down down last⟩
  by_cases top : r.trail = []
  · -- The root itself was found, so it was given.
    have given : f.root ≠ "" := by
      intro empty
      obtain ⟨unnamed, root⟩ := Resource.names_of_trail_eq_nil top
      simp [path_placeOf, empty, unnamed, root, PathText.pushNames, PathText.pushName] at named
    rw [steps_placeOf, top, List.append_nil] at ends
    exact node?_of_follow_text given ends
  · obtain ⟨name, rest, steps⟩ := List.exists_cons_of_ne_nil
      (show (f.placeOf r).steps ≠ [] by simp [steps_placeOf, top])
    rw [steps] at ends
    exact Disk.node?_of_follow_cons ends

/-- What exists is in a directory, and is listed there. -/
theorem listed_of_isPresent (named : (f.placeOf r).path ≠ .text "") (segment : IsSegment n)
    (present : d.isPresent (f.placeOf (r.child n)) = true) :
    d.isDirectory (f.placeOf r) = true ∧ ∀ names, f.list r d = .ok names → n ∈ names := by
  obtain ⟨path, node, found, there⟩ := Disk.exists_of_isPresent present
  obtain ⟨dir, found_r, directory, rfl⟩ := exists_of_locate_child named segment found
  refine ⟨Disk.isDirectory_iff_locate.2 ⟨dir, found_r, directory⟩, fun names listed => ?_⟩
  rw [← Except.ok.inj ((list_of_locate found_r directory).symm.trans listed), Text.mem_sorted,
    List.mem_map]
  exact ⟨.text n, Disk.mem_children.2 (by simp [there]), rfl⟩

/-- The path to a child is taken if the path to the resource is, and if it is not too long. -/
theorem isAccepted_child (accepted : (f.placeOf r).IsAccepted) (named : IsFileName n)
    (short : (f.placeOf (r.child n)).path.size ≤ Disk.maxPath) :
    (f.placeOf (r.child n)).IsAccepted where
  noNul := by
    have noNul := accepted.noNul
    rw [path_placeOf, PathText.hasNul, List.contains_eq_mem, decide_eq_false_iff_not] at noNul
    rw [path_child named.1, PathText.hasNul, List.contains_eq_mem, decide_eq_false_iff_not,
      PathText.pushNames_concat]
    obtain ⟨between, sep, eq⟩ := PathText.toList_pushName (PathText.pushNames f.root
      (Location.directoryName r.location.uri :: r.path.segments)) n
    rw [eq]
    obtain rfl | rfl := sep <;> simp [noNul, named.2.1]
  notEmpty := size_path_placeOf (by simp [Resource.trail_child named.1])
  short := short

/-- A child is found in the directory of the resource, if the path to it is taken. -/
theorem locate_child (found : d.locate (f.placeOf r) = .ok path)
    (directory : d.node? path = some .directory) (named : IsFileName n)
    (accepted : (f.placeOf (r.child n)).IsAccepted) :
    d.locate (f.placeOf (r.child n)) = .ok (path ++ [.text n]) := by
  have down : PathText.IsDown (.text n) :=
    Resource.isDown_of_mem_trail (r := r.child n) (by simp [Resource.trail_child named.1])
  have start : d.start (f.placeOf (r.child n)) = d.start (f.placeOf r) := rfl
  rw [Disk.locate_of_accepted accepted (steps_child named.1), start,
    Disk.follow_of_locate found directory]
  change Disk.step path (.text n) = _
  rw [Disk.step_of_forward down.2 named.2.2, Disk.moves_of_down (by simpa using down)]

/-- What a directory holds under the name of a file exists, if the path to it is taken. -/
theorem isPresent_child (found : d.locate (f.placeOf r) = .ok path)
    (directory : d.node? path = some .directory) (named : IsFileName n)
    (accepted : (f.placeOf (r.child n)).IsAccepted)
    (there : (d.node? (path ++ [.text n])).isSome) :
    d.isPresent (f.placeOf (r.child n)) = true := by
  obtain ⟨node, here⟩ := Option.isSome_iff_exists.1 there
  have plain : (f.placeOf (r.child n)).wantsDirectory = false :=
    wantsDirectory_placeOf (by simp [Resource.trail_child named.1])
  refine Disk.isPresent_iff.2 ⟨node, ?_⟩
  rw [Disk.stat_of_locate (locate_child found directory named accepted), here]
  cases node <;> simp [plain]

/-- A disk lists what exists, as far as names are shown as what they are. -/
theorem exists_lists {own : String → Prop} (given : (f.placeOf r).path ≠ .text "")
    (plain : ∀ path name, d.locate (f.placeOf r) = .ok path →
      (d.node? (path ++ [name])).isSome → own name.display →
      name = .text name.display ∧ IsFileName name.display ∧
        (f.placeOf (r.child name.display)).IsAccepted) :
    ∃ names, f.list r d = .ok names ∧ f.backend.Lists own r d names := by
  have present_child {n : String} (segment : IsSegment n)
      (present : d.isPresent (f.placeOf (r.child n)) = true) :=
    listed_of_isPresent given segment present
  obtain ⟨other, listed⟩ | ⟨path, found, directory, listed⟩ := list_cases f r d
  · refine ⟨[], listed, by simp, fun n _ => ?_, fun q below parent present => ?_, fun _ => rfl⟩
    · refine iff_of_false (by simp) fun ⟨segment, present⟩ => ?_
      cases other.symm.trans (present_child segment present).1
    · obtain ⟨n, _, segment, whole⟩ := Resource.exists_child below
      rw [← whole, parent] at present
      cases other.symm.trans (present_child segment present).1
  · refine ⟨_, listed, ?_, fun n mine => ⟨fun mem => ?_, fun ⟨segment, present⟩ => ?_⟩,
      fun q below parent present => ?_, fun empty => ?_⟩
    · refine Text.sorted_lt_of_once (List.pairwise_map.2 ?_)
      have once : (d.children path).Nodup := Disk.nodup_children
      refine (List.nodup_iff_pairwise_ne.1 once).imp_of_mem
        fun {name other} mem mem' apart mine same => apart ?_
      have plain_name := (plain path name found (Disk.mem_children.1 mem) mine).1
      have plain_other := (plain path other found (Disk.mem_children.1 mem') (same ▸ mine)).1
      rw [plain_name, plain_other, same]
    · obtain ⟨name, child, rfl⟩ := List.mem_map.1 (Text.mem_sorted.1 mem)
      have there := Disk.mem_children.1 child
      obtain ⟨eq, named, accepted⟩ := plain path name found there mine
      exact ⟨named.1, isPresent_child found directory named accepted (eq ▸ there)⟩
    · exact (present_child segment present).2 _ listed
    · obtain ⟨n, name, segment, whole⟩ := Resource.exists_child below
      rw [← whole, parent] at present
      obtain ⟨is_directory, mem⟩ := present_child segment present
      exact ⟨is_directory, n, name, mem _ listed⟩
    · have is_directory := Disk.isDirectory_iff_locate.2 ⟨path, found, directory⟩
      cases empty.symm.trans is_directory

/-- On the disk `d₀` there was the name in what is now the directory of the resource. -/
def Had (f : Files) (d₀ d : Disk) (r : Resource) (name : PathText) : Prop :=
  ∃ path, d.locate (f.placeOf r) = .ok path ∧ (d₀.node? (path ++ [name])).isSome

/-- The store's own names in a directory: what was there from the start and is shown like one
of them is the name of a file, shown as it is. The path behind it is not too long; that is
always so of a name that was not there, if the root never leads up. -/
structure Own (f : Files) (d₀ d : Disk) (r : Resource) (n : String) : Prop where
  plain (name : PathText) : name.display = n → f.Had d₀ d r name → name = .text n ∧ IsFileName n
  fits : (f.placeOf (r.child n)).path.size ≤ Disk.maxPath ∨
    (∀ name ∈ Place.stepsOf (.text f.root), name ≠ .text "..") ∧ ¬ f.Had d₀ d r (.text n)

/-- What is found under a name of the store's own. -/
theorem Own.found {name : PathText} (own : f.Own d₀ d r name.display) (sound : f.Sound d₀)
    (descends : f.Descends d₀ d) (found : d.locate (f.placeOf r) = .ok path)
    (there : (d.node? (path ++ [name])).isSome) :
    name = .text name.display ∧ IsFileName name.display ∧
      (f.placeOf (r.child name.display)).IsAccepted := by
  have named : name = .text name.display ∧ IsFileName name.display := by
    obtain before | came := descends.node _ there
    · exact own.plain name rfl ⟨path, found, before⟩
    · obtain before | ⟨s, rfl, named⟩ := came.fileName sound
      · exact own.plain name rfl ⟨path, found, before⟩
      · exact ⟨rfl, named⟩
  refine ⟨named.1, named.2, ?_⟩
  obtain short | ⟨forward, new⟩ := own.fits
  · exact isAccepted_child (Disk.locate_eq_ok_iff.1 found).1 named.2 short
  · rw [named.1] at there
    obtain before | came := descends.node _ there
    · exact absurd ⟨path, found, before⟩ new
    · exact came.isAccepted forward descends.workingDirectory found named.2.1

end Files

/-- **Listing and existence agree.** In memory, in every state, the names in a directory are
strictly ascending, and are the segments below which something exists; whatever exists is in a
directory and listed there, and where there is no directory nothing is listed. On disk all this
holds for the store's own names, however the store was used, where the resource has a path. -/
theorem listing_agrees_with_existence (r : Resource) :
    (∀ (linking : Bool) (m : Memory), ∃ names,
      (Memory.backend linking).list r m = .ok names ∧
      (Memory.backend linking).Lists (fun _ => True) r m names) ∧
    ∀ (f : Files) (d : Disk) (calls : List Call), f.Sound d → (f.placeOf r).path ≠ .text "" →
      let now := (Usage.after f.backend d calls).store
      ∃ names, f.backend.list r now = .ok names ∧
        f.backend.Lists (f.Own d now r) r now names := by
  refine ⟨fun linking m => ⟨_, rfl, Memory.lists linking m r⟩, fun f d calls sound given => ?_⟩
  exact Files.exists_lists given fun path name found there own =>
    own.found sound (f.descends_after d calls) found there

/-- A directory in which a file was created, another deleted, and a directory made. -/
theorem listing_agrees_on_used_disk :
    let f : Files := { root := "/cache" }
    let r : String → Resource := .ofText { name := "local", uri := "file:///srv/local" }
    let now := (Usage.after f.backend {} [.ask (.createFile (r "a/c")), .ask (.delete (r "a/c")),
      .ask (.openWriter (r "a/b/d")), .ask (.createFile (r "a/e"))]).store
    f.Sound {} ∧ (f.placeOf (r "a")).path ≠ .text "" ∧
      ∃ names, f.backend.list (r "a") now = .ok names ∧
        f.backend.Lists (f.Own {} now (r "a")) (r "a") now names ∧
        "b" ∈ names ∧ "c" ∉ names ∧ "e" ∈ names := by
  intro f r now
  have sound : f.Sound {} := ⟨Disk.closed_empty, by decide⟩
  have given : (f.placeOf (r "a")).path ≠ .text "" := by decide
  obtain ⟨names, listed, lists⟩ := (listing_agrees_with_existence (r "a")).2 f {} _ sound given
  have own (n : String) (short : (f.placeOf ((r "a").child n)).path.size ≤ Disk.maxPath) :
      f.Own {} now (r "a") n := by
    refine ⟨fun name _ had => ?_, .inl short⟩
    obtain ⟨path, _, there⟩ := had
    simp [Disk.node?_empty] at there
  refine ⟨sound, given, names, listed, lists, (lists.mem_iff "b" (own _ (by decide))).2 ?_,
    mt (lists.mem_iff "c" (own _ (by decide))).1 ?_, (lists.mem_iff "e" (own _ (by decide))).2 ?_⟩
  · decide +kernel
  · decide +kernel
  · decide +kernel

/-! ## Paths that are too long, and the one that is none -/

theorem Usage.store_after_ask (b : Backend S R W) (s : S) (q : Request) :
    (after b s [.ask q]).store = (q.run b s).2 := store_perform_ask b { store := s } q

namespace PathText

theorem size_replicate_slash (k : Nat) :
    (String.ofList (List.replicate k '/')).utf8ByteSize = k := by
  induction k with
  | zero => rfl
  | succ k ih =>
    have slash : (String.ofList ['/']).utf8ByteSize = 1 := by decide
    rw [List.replicate_succ', String.ofList_append, String.utf8ByteSize_append, ih, slash]

/-- More slashes are no more steps. -/
theorem stepsOf_replicate_slash (k : Nat) (rest : List Char) :
    Place.stepsOf (.text (String.ofList (List.replicate k '/' ++ rest))) =
      Place.stepsOf (.text (String.ofList rest)) := by
  have nothing : namesOf '/' [] = [] := by simp [namesOf, Text.split, Text.cut]
  have names : namesOf '/' (List.replicate k '/' ++ rest) = namesOf '/' rest := by
    induction k with
    | zero => rfl
    | succ k ih =>
      have more : namesOf '/' ([] ++ '/' :: (List.replicate k '/' ++ rest)) =
          namesOf '/' [] ++ namesOf '/' (List.replicate k '/' ++ rest) :=
        namesOf_append_slash _ _
      rw [nothing, List.nil_append, List.nil_append, ih] at more
      simpa [List.replicate_succ] using more
  rw [Place.stepsOf_text, Place.stepsOf_text, String.toList_ofList, String.toList_ofList, names]

end PathText

namespace Files
variable {f : Files} {d : Disk} {r : Resource}

/-- On a disk without files the way to a directory can be followed once it was made. -/
theorem follow_of_mkdirs (bare : d.IsBare) (named : r.location.uri ≠ "")
    (absolute : (f.placeOf r).isAbsolute = true) (accepted : (f.placeOf r).IsAccepted)
    (plain : ∀ name ∈ (f.placeOf r).steps, name ≠ .text ".")
    (short : ∀ name ∈ (f.placeOf r).steps, name.size ≤ Disk.maxName) :
    ∃ path, (f.mkdirs r d).2.follow [] (f.placeOf r).steps = .ok path := by
  obtain ⟨d', path, made, _, leads⟩ := Disk.makeFirst_of_bare bare (isTidy_placeOf named) absolute
    accepted plain short (Nat.le_refl _)
  have makes : d.makeDirectories (f.placeOf r) = (.ok (), d') := made
  have begins : d'.start (f.placeOf r) = [] := by simp [Disk.start, absolute]
  rw [begins] at leads
  exact ⟨path, by rw [mkdirs, snd_reporting, makes]; exact leads⟩

/-- A root that leads up through the directory of a location, along a path that leaves no room
behind it. -/
structure IsCramped (f : Files) : Prop where
  steps : Place.stepsOf (.text f.root) = [.text "a", .text "n", .text "..", .text ".."]
  absolute : (PathText.text f.root).isAbsolute = true
  closed : f.root.toList.getLast? = some '.'
  noNul : '\x00' ∉ f.root.toList
  size : f.root.utf8ByteSize = 4093

namespace IsCramped
variable {s : String}

theorem path_placeOf (cramped : f.IsCramped) (plain : Location.directoryName s = s) :
    (f.placeOf (.root { name := s, uri := s })).path = .text (f.root ++ "/" ++ s) := by
  have given : f.root ≠ "" := fun empty => by simpa [empty] using cramped.closed
  rw [Files.path_placeOf]
  simp [Resource.root, Path.root, plain, PathText.pushNames, PathText.pushName, given,
    cramped.closed]

/-- The path of a location with a short name has as many bytes as a path may have. -/
theorem isAccepted (cramped : f.IsCramped) (plain : Location.directoryName s = s)
    (short : s.utf8ByteSize = 1) (noNul : '\x00' ∉ s.toList) :
    (f.placeOf (.root { name := s, uri := s })).IsAccepted := by
  have path := cramped.path_placeOf plain
  refine ⟨?_, ?_, ?_⟩
  · simp [path, PathText.hasNul, cramped.noNul, noNul]
  · simp [path, PathText.size, short]
  · rw [path]
    simp only [PathText.size, String.utf8ByteSize_append, cramped.size, short]
    decide

theorem steps_placeOf (cramped : f.IsCramped) (plain : Location.directoryName s = s)
    (named : s ≠ "") : (f.placeOf (.root { name := s, uri := s })).steps =
      [.text "a", .text "n", .text "..", .text "..", .text s] := by
  simp [Files.steps_placeOf, cramped.steps, Resource.trail, Resource.root, Path.root, plain, named]

/-- The path of the first location leaves no room for the name of what lies in it. -/
theorem lt_size_child (cramped : f.IsCramped) {n : String} (segment : IsSegment n) :
    Disk.maxPath < (f.placeOf ((Resource.root { name := "a", uri := "a" }).child n)).path.size := by
  have path_a := cramped.path_placeOf (s := "a") (by decide)
  rw [Files.path_placeOf] at path_a
  rw [path_child segment, PathText.pushNames_concat, PathText.text.inj path_a]
  have pushed : PathText.pushName (f.root ++ "/" ++ "a") n = f.root ++ "/" ++ "a" ++ "/" ++ n := by
    simp [PathText.pushName]
  have letters : "/".utf8ByteSize = 1 ∧ "a".utf8ByteSize = 1 := by decide
  simp only [pushed, PathText.size, String.utf8ByteSize_append, cramped.size, letters, Disk.maxPath]
  omega

theorem not_isAccepted_child (cramped : f.IsCramped) {n : String} (segment : IsSegment n) :
    ¬ (f.placeOf ((Resource.root { name := "a", uri := "a" }).child n)).IsAccepted :=
  fun accepted => absurd accepted.short (Nat.not_le.2 (cramped.lt_size_child segment))

/-- On the way to another location lie the directory of the first one, and one in it. -/
theorem made_on_the_way (cramped : f.IsCramped) :
    let d := (f.mkdirs (.root { name := "b", uri := "b" }) {}).2
    d.node? [.text "a"] = some .directory ∧ d.node? [.text "a", .text "n"] = some .directory := by
  intro d
  have way := cramped.steps_placeOf (s := "b") (by decide) (by decide)
  have bare : Disk.IsBare {} := by
    intro path n file
    rw [Disk.node?_empty] at file
    split at file <;> cases file
  obtain ⟨path, leads⟩ := follow_of_mkdirs bare (by decide) cramped.absolute
    (cramped.isAccepted (s := "b") (by decide) (by decide) (by decide))
    (by rw [way]; decide) (by rw [way]; decide)
  rw [way] at leads
  have to_a : Disk.step [] (.text "a") = .ok [.text "a"] := rfl
  have to_n : Disk.step [.text "a"] (.text "n") = .ok [.text "a", .text "n"] := rfl
  obtain ⟨_, stepped, at_a, leads⟩ := Disk.follow_cons_eq_ok_iff.1 leads
  obtain rfl := Except.ok.inj (to_a.symm.trans stepped)
  obtain ⟨_, stepped, at_n, _⟩ := Disk.follow_cons_eq_ok_iff.1 leads
  obtain rfl := Except.ok.inj (to_n.symm.trans stepped)
  exact ⟨at_a, at_n⟩

/-- Up through its own directory the first location is found. -/
theorem locate_placeOf (cramped : f.IsCramped) (at_a : d.node? [.text "a"] = some .directory)
    (at_n : d.node? [.text "a", .text "n"] = some .directory) :
    d.locate (f.placeOf (.root { name := "a", uri := "a" })) = .ok [.text "a"] := by
  refine Disk.locate_of_follow
    (cramped.isAccepted (s := "a") (by decide) (by decide) (by decide)) ?_
  have begins : d.start (f.placeOf (.root { name := "a", uri := "a" })) = [] :=
    if_pos cramped.absolute
  rw [begins, cramped.steps_placeOf (s := "a") (by decide) (by decide)]
  exact Disk.follow_cons_eq_ok_iff.2 ⟨_, rfl, at_a, Disk.follow_cons_eq_ok_iff.2
    ⟨_, rfl, at_n, Disk.follow_cons_eq_ok_iff.2 ⟨_, rfl, at_a, Disk.follow_cons_eq_ok_iff.2
      ⟨_, rfl, rfl, Disk.follow_cons_eq_ok_iff.2 ⟨_, rfl, at_a, rfl⟩⟩⟩⟩⟩

/-- Once another location is there, the first one is found, with what was made in it. -/
theorem found_after (cramped : f.IsCramped) :
    let now := (Usage.after f.backend {} [.ask (.mkdirs (.root { name := "b", uri := "b" }))]).store
    now.locate (f.placeOf (.root { name := "a", uri := "a" })) = .ok [.text "a"] ∧
      now.node? [.text "a"] = some .directory ∧
      now.node? [.text "a", .text "n"] = some .directory := by
  intro now
  have used : now = (f.mkdirs (.root { name := "b", uri := "b" }) {}).2 := by
    simp only [now, Usage.store_after_ask, Request.run, Request.snd_keeping]
    rfl
  obtain ⟨at_a, at_n⟩ := cramped.made_on_the_way
  rw [← used] at at_a at_n
  exact ⟨cramped.locate_placeOf at_a at_n, at_a, at_n⟩

/-- What was made on the way to the root is listed, and cannot be found. -/
theorem lists_lost (cramped : f.IsCramped) :
    let a : Resource := .root { name := "a", uri := "a" }
    let b : Resource := .root { name := "b", uri := "b" }
    let now := (Usage.after f.backend {} [.ask (.mkdirs b)]).store
    (∃ names, f.backend.list a now = .ok names ∧ "n" ∈ names) ∧
      f.backend.present (a.child "n") now = false := by
  intro a b now
  obtain ⟨found, at_a, at_n⟩ := cramped.found_after
  constructor
  · refine ⟨_, list_of_locate found at_a,
      Text.mem_sorted.2 (List.mem_map.2 ⟨.text "n", ?_, rfl⟩)⟩
    exact Disk.mem_children.2 (by rw [List.singleton_append, at_n]; rfl)
  · refine Bool.not_eq_true _ |>.mp fun present => ?_
    obtain ⟨_, _, located, _⟩ := Disk.exists_of_isPresent present
    exact cramped.not_isAccepted_child (by decide) (Disk.locate_eq_ok_iff.1 located).1

end IsCramped

/-- Slashes make a path long without leading anywhere. -/
theorem isCramped_of_slashes :
    IsCramped { root := String.ofList (List.replicate 4084 '/' ++ "a/n/../..".toList) } := by
  refine ⟨?_, ?_, ?_, ?_, ?_⟩
  · dsimp only
    rw [PathText.stepsOf_replicate_slash]
    decide
  · dsimp only
    rw [PathText.isAbsolute, String.toList_ofList, List.head?_append]
    rfl
  · dsimp only
    rw [String.toList_ofList, List.getLast?_append]
    decide
  · dsimp only
    rw [String.toList_ofList, List.mem_append, List.mem_replicate]
    decide
  · have rest : (String.ofList "a/n/../..".toList).utf8ByteSize = 9 := by decide
    dsimp only
    rw [String.ofList_append, String.utf8ByteSize_append, PathText.size_replicate_slash, rest]

end Files

/-- A root that leads up through the directory of a location, along a path that leaves no room
behind it; and the root of the location without a name, below no root. -/
theorem listed_without_existing :
    let f : Files := { root := String.ofList (List.replicate 4084 '/' ++ "a/n/../..".toList) }
    let a : Resource := .root { name := "a", uri := "a" }
    let b : Resource := .root { name := "b", uri := "b" }
    let now := (Usage.after f.backend {} [.ask (.mkdirs b)]).store
    let g : Files := { root := "" }
    let u : Resource := .root { name := "u", uri := "" }
    let later := (Usage.after g.backend {} [.ask (.createFile (u.child "x"))]).store
    (∃ names, f.backend.list a now = .ok names ∧ "n" ∈ names ∧ IsSegment "n" ∧
      f.backend.present (a.child "n") now = false) ∧
    (g.backend.present (u.child "x") later = true ∧ g.backend.isDirectory u later = false ∧
      g.backend.list u later = .ok []) ∧
    (∀ names, f.backend.list a now = .ok names →
      ¬ f.backend.Lists (fun _ => True) a now names) ∧
    ∀ names, g.backend.list u later = .ok names →
      ¬ g.backend.Lists (fun _ => True) u later names := by
  intro f a b now g u later
  have unnamed : g.backend.present (u.child "x") later = true ∧
      g.backend.isDirectory u later = false ∧ g.backend.list u later = .ok [] := by
    decide +kernel
  have cramped : f.IsCramped := Files.isCramped_of_slashes
  obtain ⟨⟨names, listed, mem⟩, lost⟩ := cramped.lists_lost
  refine ⟨⟨names, listed, mem, by decide, lost⟩, unnamed, fun names' eq lists => ?_,
    fun names' eq lists => ?_⟩
  · obtain rfl := Except.ok.inj (listed.symm.trans eq)
    obtain ⟨_, there⟩ := (lists.mem_iff "n" trivial).1 mem
    cases lost.symm.trans there
  · obtain ⟨directory, _⟩ := lists.listed (u.child "x") (by decide) (by decide) unnamed.1
    cases unnamed.2.1.symm.trans directory

end ArtifactCache
