import ArtifactCache.Proofs.Absence
import ArtifactCache.Proofs.Addressing
import ArtifactCache.Proofs.Keeping

/-!
Where the things on a disk come from. Whatever is found there was there from the start, or
is at a path to which the store came (`Files.descends_after`). What the store put there has
the name of a file (`Files.Descends.fileName`), and if the root never leads up, it is where
a resource is whose path the operating system takes (`Files.Descends.isAccepted`).
-/
namespace ArtifactCache

/-! ## What a way is made of -/

namespace Disk
variable {d : Disk} {start dir way path : List PathText} {p : Place} {P : PathText → Prop}

/-- The path begins as `start` does, and goes on with names that are `P`. -/
def Stems (start : List PathText) (P : PathText → Prop) (path : List PathText) : Prop :=
  ∃ kept names, path = kept ++ names ∧ kept <+: start ∧ ∀ name ∈ names, P name

theorem stems_self (start : List PathText) (P : PathText → Prop) : Stems start P start :=
  ⟨start, [], by simp, List.prefix_rfl, by simp⟩

theorem Stems.dropLast (stems : Stems start P dir) : Stems start P dir.dropLast := by
  obtain ⟨kept, names, rfl, le, mem⟩ := stems
  obtain rfl | ⟨init, last, rfl⟩ := List.eq_nil_or_concat names
  · refine ⟨kept.dropLast, [], by simp, (List.dropLast_prefix kept).trans le, by simp⟩
  · rw [List.concat_eq_append] at mem ⊢
    refine ⟨kept, init, ?_, le, fun name here => mem name (List.mem_append_left _ here)⟩
    rw [← List.append_assoc, List.dropLast_concat]

theorem Stems.concat (stems : Stems start P dir) {name : PathText} (mem : P name) :
    Stems start P (dir ++ [name]) := by
  obtain ⟨kept, names, rfl, le, all⟩ := stems
  refine ⟨kept, names ++ [name], List.append_assoc _ _ _, le, fun other here => ?_⟩
  obtain here | here := List.mem_append.1 here
  · exact all other here
  · exact List.mem_singleton.1 here ▸ mem

/-- A step adds its name, unless it leads nowhere or up. -/
theorem Stems.step (stems : Stems start P dir) {name : PathText}
    (mem : name.IsDown → name.size ≤ maxName → P name) (stepped : step dir name = .ok path) :
    Stems start P path := by
  have short := size_le_of_step stepped
  unfold Disk.step at stepped
  split at stepped
  · exact Except.ok.inj stepped ▸ stems
  next not_dot =>
  split at stepped
  · exact Except.ok.inj stepped ▸ stems.dropLast
  next not_dots =>
  split at stepped
  · cases stepped
  · exact Except.ok.inj stepped ▸ stems.concat (mem ⟨not_dot, not_dots⟩ short)

theorem Stems.follow (stems : Stems start P dir)
    (mem : ∀ name ∈ way, name.IsDown → name.size ≤ maxName → P name)
    (ends : d.follow dir way = .ok path) : Stems start P path := by
  induction way generalizing dir with
  | nil => exact Except.ok.inj ends ▸ stems
  | cons name rest ih =>
    obtain ⟨next, stepped, _, ends⟩ := follow_cons_eq_ok_iff.1 ends
    exact ih (stems.step (mem name List.mem_cons_self) stepped)
      (fun other here => mem other (List.mem_cons_of_mem _ here)) ends

/-- A place is found at names of its own steps, behind a part of where its way begins. -/
theorem stems_of_locate (found : d.locate p = .ok path) : Stems (d.start p)
    (fun name => name ∈ p.steps ∧ name.IsDown ∧ name.size ≤ maxName) path := by
  obtain ⟨_, dir, ends, last⟩ := locate_eq_ok_iff.1 found
  have way := (stems_self (d.start p)
    fun name => name ∈ p.steps ∧ name.IsDown ∧ name.size ≤ maxName).follow
      (fun name mem down short => ⟨List.dropLast_subset _ mem, down, short⟩) ends
  split at last
  · exact last ▸ way
  · next name here =>
    exact way.step (fun down short => ⟨List.mem_of_getLast? here, down, short⟩) last

/-- A place to which the way never leads up is found where its steps lead. -/
theorem eq_of_locate_forward (forward : ∀ name ∈ p.steps, name ≠ .text "..")
    (found : d.locate p = .ok path) : path = d.start p ++ moves p.steps := by
  obtain ⟨_, dir, ends, last⟩ := locate_eq_ok_iff.1 found
  obtain none_left | ⟨way, name, steps⟩ := List.eq_nil_or_concat p.steps
  · rw [none_left] at ends last
    rw [none_left, last, eq_of_follow_forward (by simp) ends]
    rfl
  · rw [List.concat_eq_append] at steps
    rw [steps] at forward
    rw [steps, List.dropLast_concat] at ends
    rw [steps, List.getLast?_concat] at last
    have stepped : step dir name = .ok path := last
    rw [eq_of_follow_forward (fun name mem => forward name (List.mem_append_left _ mem)) ends,
      step_of_forward (forward name (by simp)) (size_le_of_step stepped)] at stepped
    rw [← Except.ok.inj stepped, steps, moves_append, List.append_assoc]

end Disk

/-! ## The names on a path -/

theorem Text.mem_of_mem_split {α : Type} [DecidableEq α] {mark a : α} {text piece : List α}
    (mem : piece ∈ split mark text) (here : a ∈ piece) : a ∈ text := by
  induction text generalizing piece with
  | nil => simp_all [split, cut]
  | cons c rest ih =>
    simp only [split, cut, List.mem_cons] at mem ih
    split at mem
    · obtain rfl | mem := mem
      · cases here
      · exact List.mem_cons_of_mem _ (ih (by simpa using mem) here)
    · obtain rfl | mem := mem
      · obtain rfl | here := List.mem_cons.1 here
        · exact List.mem_cons_self
        · exact List.mem_cons_of_mem _ (ih (.inl rfl) here)
      · exact List.mem_cons_of_mem _ (ih (.inr mem) here)

/-- A name on a text holds no slash, and nothing that the text does not hold. -/
theorem Place.exists_of_mem_stepsOf {t : String} {name : PathText}
    (mem : name ∈ stepsOf (.text t)) :
    ∃ s, name = .text s ∧ s ≠ "" ∧ '/' ∉ s.toList ∧ ∀ c ∈ s.toList, c ∈ t.toList := by
  rw [stepsOf_text] at mem
  obtain ⟨piece, kept, rfl⟩ := List.mem_map.1 mem
  obtain ⟨mem, named⟩ := List.mem_filter.1 kept
  refine ⟨_, rfl, ?_, ?_, ?_⟩
  · intro nothing
    have empty : piece = [] := by simpa using congrArg String.toList nothing
    exact of_decide_eq_true named empty
  · rw [String.toList_ofList]
    exact Text.mark_notMem_of_mem_split mem
  · rw [String.toList_ofList]
    exact fun c here => Text.mem_of_mem_split mem here

theorem PathText.mem_pushNames {path s : String} {names : List String} (mem : s ∈ names)
    {c : Char} (here : c ∈ s.toList) : c ∈ (pushNames path names).toList := by
  obtain ⟨front, back, rfl⟩ := List.append_of_mem mem
  obtain ⟨between, _, eq⟩ := toList_pushName (pushNames path front) s
  have whole := pushNames_prefix_append path (front ++ [s]) back
  rw [List.append_assoc, List.singleton_append] at whole
  refine whole.mem ?_
  rw [pushNames_concat, eq]
  exact List.mem_append_right _ here

/-- The segment that leads to a child comes last on its trail. -/
theorem Resource.trail_child {r : Resource} {n : String} (segment : IsSegment n) :
    (r.child n).trail = r.trail ++ [.text n] := by
  simp [trail, child, Path.ofText_of_isSegment segment, List.filter_cons, segment.1]
  split <;> simp

namespace Files
variable {f : Files} {d d₀ : Disk} {p : Place} {r : Resource}

/-- The steps to where a store comes are text, and hold nothing that the path does not hold. -/
theorem ComesTo.exists_of_mem_steps (comes : f.ComesTo p) {name : PathText}
    (mem : name ∈ p.steps) : ∃ s t, name = .text s ∧ p.path = .text t ∧ s ≠ "" ∧
      '/' ∉ s.toList ∧ ∀ c ∈ s.toList, c ∈ t.toList := by
  obtain ⟨r, rfl⟩ | ⟨t, rfl, _⟩ := comes
  · rw [steps_placeOf] at mem
    obtain mem | mem := List.mem_append.1 mem
    · obtain ⟨s, rfl, named, plain, within⟩ := Place.exists_of_mem_stepsOf mem
      refine ⟨s, _, rfl, path_placeOf f r, named, plain, fun c here => ?_⟩
      exact (PathText.pushNames_prefix_append f.root [] _).mem (within c here)
    · obtain ⟨s, kept, rfl⟩ := List.mem_map.1 mem
      obtain ⟨mem, named⟩ := List.mem_filter.1 kept
      refine ⟨s, _, rfl, path_placeOf f r, of_decide_eq_true named, ?_,
        fun c here => PathText.mem_pushNames mem here⟩
      obtain rfl | segment := List.mem_cons.1 mem
      · exact Location.slash_notMem_directoryName _
      · exact (r.path.named s segment).2.2.2
  · have steps : ({ base := .text t } : Place).steps = Place.stepsOf (.text t) := by
      simp [Place.steps]
    rw [steps] at mem
    obtain ⟨s, rfl, named, plain, within⟩ := Place.exists_of_mem_stepsOf mem
    exact ⟨s, t, rfl, rfl, named, plain, within⟩

theorem ComesTo.isAbsolute (comes : f.ComesTo p) :
    p.isAbsolute = (PathText.text f.root).isAbsolute := by
  obtain ⟨r, rfl⟩ | ⟨t, rfl, absolute, _⟩ := comes
  · rfl
  · exact absolute

/-! ## What the store has put on a disk -/

/-- On a disk with the same working directory, a place to which the store comes was found
at the path. -/
def CameTo (f : Files) (d₀ : Disk) (path : List PathText) : Prop :=
  ∃ (p : Place) (d : Disk), f.ComesTo p ∧ d.workingDirectory = d₀.workingDirectory ∧
    d.locate p = .ok path

/-- What is on the disk was there from the start, or is where the store came to. -/
structure Descends (f : Files) (d₀ d : Disk) : Prop where
  workingDirectory : d.workingDirectory = d₀.workingDirectory
  node (path : List PathText) : (d.node? path).isSome → (d₀.node? path).isSome ∨ f.CameTo d₀ path

theorem spares_descends (f : Files) (d₀ : Disk) : f.Spares (f.Descends d₀) where
  setNode descends comes found empty _ := by
    refine ⟨descends.workingDirectory, fun other there => ?_⟩
    rw [Disk.node?_setNode _ _ _ _ (Disk.ne_nil_of_node?_eq_none empty)] at there
    split at there
    · next same => exact .inr (same ▸ ⟨_, _, comes, descends.workingDirectory, found⟩)
    · exact descends.node other there
  addFile descends comes found empty := by
    refine ⟨descends.workingDirectory, fun other there => ?_⟩
    rw [Disk.node?_addFile empty] at there
    split at there
    · next same => exact .inr (same ▸ ⟨_, _, comes, descends.workingDirectory, found⟩)
    · exact descends.node other there
  setBody _ _ descends := ⟨descends.workingDirectory, descends.node⟩
  removeNode path descends _ := by
    refine ⟨descends.workingDirectory, fun other there => descends.node other ?_⟩
    rw [Disk.node?_removeNode] at there
    split at there
    · cases there
    · exact there

theorem descends_after (f : Files) (d₀ : Disk) (calls : List Call) :
    f.Descends d₀ (Usage.after f.backend d₀ calls).store :=
  (spares_descends f d₀).after calls ⟨rfl, fun _ => .inl⟩

/-- What the store puts on a disk has the name of a file. -/
theorem CameTo.fileName {path : List PathText} {name : PathText} (sound : f.Sound d₀)
    (came : f.CameTo d₀ (path ++ [name])) :
    (d₀.node? (path ++ [name])).isSome ∨ ∃ s, name = .text s ∧ IsFileName s := by
  obtain ⟨p, d, comes, same, found⟩ := came
  have accepted := (Disk.locate_eq_ok_iff.1 found).1
  obtain ⟨kept, names, eq, le, mem⟩ := Disk.stems_of_locate found
  obtain rfl | ⟨init, last, rfl⟩ := List.eq_nil_or_concat names
  · -- The way led up to where it began, or further.
    have start : d.start p = d₀.start p := by simp [Disk.start, same]
    have there : d₀.node? (d₀.start p) = some .directory := sound.start comes.isAbsolute
    rw [List.append_nil] at eq
    rw [start] at le
    rw [eq]
    by_cases here : kept = d₀.start p
    · exact .inl (by simp [here, there])
    · exact .inl (by simp [sound.closed.above there le here])
  · rw [List.concat_eq_append, ← List.append_assoc] at eq
    obtain ⟨rfl, only⟩ := List.append_inj' eq rfl
    obtain rfl : name = last := by simpa using only
    obtain ⟨step, down, short⟩ := mem name (by simp)
    obtain ⟨s, t, rfl, path, named, plain, within⟩ := comes.exists_of_mem_steps step
    refine .inr ⟨s, rfl, ⟨named, fun dot => ?_, fun dots => ?_, plain⟩, fun nul => ?_, short⟩
    · exact down.1 (dot ▸ rfl)
    · exact down.2 (dots ▸ rfl)
    · have noNul := accepted.noNul
      rw [path, PathText.hasNul, List.contains_eq_mem, decide_eq_false_iff_not] at noNul
      exact noNul (within _ nul)

/-- If the root never leads up, what the store puts beside or below a resource is at a path
that the operating system takes. -/
theorem CameTo.isAccepted {path : List PathText} {n : String}
    (forward : ∀ name ∈ Place.stepsOf (.text f.root), name ≠ .text "..")
    (same : d.workingDirectory = d₀.workingDirectory)
    (found : d.locate (f.placeOf r) = .ok path) (segment : IsSegment n)
    (came : f.CameTo d₀ (path ++ [.text n])) : (f.placeOf (r.child n)).IsAccepted := by
  have forward_placeOf (r : Resource) : ∀ name ∈ (f.placeOf r).steps, name ≠ .text ".." :=
    PathText.forward_append forward fun _ => Resource.isDown_of_mem_trail
  have moves_placeOf (r : Resource) :
      Disk.moves (f.placeOf r).steps = Disk.moves (Place.stepsOf (.text f.root)) ++ r.trail := by
    rw [steps_placeOf, Disk.moves_append, Disk.moves_of_down fun _ => Resource.isDown_of_mem_trail]
  obtain ⟨p, d', comes, same', found'⟩ := came
  have start : d'.start p = d.start (f.placeOf r) := by
    have absolute : (f.placeOf r).isAbsolute = (PathText.text f.root).isAbsolute := rfl
    simp [Disk.start, comes.isAbsolute, absolute, same, same']
  have forward_p : ∀ name ∈ p.steps, name ≠ .text ".." := by
    obtain ⟨q, rfl⟩ | ⟨t, rfl, _, le⟩ := comes
    · exact forward_placeOf q
    · exact fun name mem => forward name (le.mem (by simpa [Place.steps] using mem))
  have way : Disk.moves p.steps =
      Disk.moves (Place.stepsOf (.text f.root)) ++ (r.child n).trail := by
    rw [Disk.eq_of_locate_forward (forward_placeOf r) found, moves_placeOf] at found'
    have whole := Disk.eq_of_locate_forward forward_p found'
    rw [start, List.append_assoc] at whole
    rw [← List.append_cancel_left whole, Resource.trail_child segment, List.append_assoc]
  obtain ⟨q, rfl⟩ | ⟨t, rfl, _, le⟩ := comes
  · rw [moves_placeOf] at way
    have trails := List.append_cancel_left way
    have below : q.trail ≠ [] := by simp [trails, Resource.trail_child segment]
    obtain ⟨noNul, notEmpty, short⟩ := (Disk.locate_eq_ok_iff.1 found').1
    have path := path_placeOf_congr (f := f) below trails
    exact ⟨path ▸ noNul, path ▸ notEmpty, path ▸ short⟩
  · -- The child lies below the root, so it is not on the way there.
    have steps : ({ base := .text t } : Place).steps = Place.stepsOf (.text t) := by
      simp [Place.steps]
    have less := (le.filter (· ≠ .text ".")).length_le
    rw [← steps] at less
    have size := congrArg List.length way
    simp only [Disk.moves, List.length_append, Resource.trail_child segment,
      List.length_singleton] at size less
    omega

end Files
end ArtifactCache
