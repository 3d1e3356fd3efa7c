import ArtifactCache.Proofs.Absence
import ArtifactCache.Proofs.Climbing
import ArtifactCache.Proofs.Copies
import ArtifactCache.Proofs.Deals

/-!
Room on disk. If the operating system takes the paths of some resources, none of
which is above another (`Files.Admits`), then all of them have room as long as only
they are used: no file is in the way of one of them, and none of them is a directory
(`Files.Roomy`). So the directory above each can be entered (`Roomy.enters`).
-/
namespace ArtifactCache

namespace Disk
variable {d d' : Disk} {path dir way : List PathText}

/-- Nothing has changed but what is at the path, where no directory was made. -/
structure Alters (path : List PathText) (d d' : Disk) : Prop where
  here : d'.node? path = some .directory → d.node? path = some .directory
  elsewhere (other : List PathText) : other ≠ path → d'.node? other = d.node? other

theorem alters_removeNode (d : Disk) (path : List PathText) : Alters path d (d.removeNode path) := by
  constructor
  · intro directory
    rw [node?_removeNode] at directory
    split at directory
    · cases directory
    · exact directory
  · intro other ne
    rw [node?_removeNode, if_neg fun same => ne same.2.symm]

theorem alters_setNode {n : Nat} (empty : d.node? path = none) :
    Alters path d (d.setNode path (.file n)) := by
  have node (other : List PathText) := node?_setNode d path other (.file n)
    (ne_nil_of_node?_eq_none empty)
  constructor
  · intro directory
    rw [node, if_pos rfl] at directory
    cases directory
  · intro other ne
    rw [node, if_neg ne.symm]

/-- A file is met on the way on which it is. -/
theorem meetsFile_of_file (closed : d.Closed) {n : Nat} (begins : d.node? dir = some .directory)
    (forward : ∀ name ∈ way, name ≠ .text "..") (short : ∀ name ∈ way, name.size ≤ maxName)
    (le : dir <+: path) (le' : path <+: dir ++ moves way) (file : d.node? path = some (.file n)) :
    d.MeetsFile dir way := by
  have other : dir ≠ path := by
    rintro rfl
    cases begins.symm.trans file
  have longer : dir.length < path.length :=
    Nat.lt_of_le_of_ne le.length_le fun same => other (le.eq_of_length same)
  induction way generalizing dir with
  | nil =>
    have shorter := le'.length_le
    rw [moves, List.filter_nil, List.append_nil] at shorter
    exact absurd shorter (Nat.not_le.2 longer)
  | cons name rest ih =>
    have stepped : step dir name = .ok (dir ++ moves [name]) :=
      step_of_forward (forward name List.mem_cons_self) (short name List.mem_cons_self)
    by_cases here : path = dir ++ moves [name]
    · exact ⟨[], name, rest, dir, _, n, rfl, rfl, stepped, here ▸ file⟩
    -- So the step leads to a directory above the file.
    have whole : dir ++ moves (name :: rest) = (dir ++ moves [name]) ++ moves rest := by
      rw [List.append_assoc, ← moves_append]
      rfl
    rw [whole] at le'
    have beyond : dir ++ moves [name] <+: path := by
      obtain inside | beyond :=
        List.prefix_or_prefix_of_prefix le' (List.prefix_append _ (moves rest))
      · have one : (moves [name]).length ≤ 1 := List.length_filter_le _ _
        refine absurd (inside.eq_of_length_le ?_) here
        rw [List.length_append]
        omega
      · exact beyond
    have directory := closed.above file beyond (Ne.symm here)
    obtain ⟨before, name', rest', mid, next, k, rfl, follows, stepped', met⟩ :=
      ih directory (fun name mem => forward name (List.mem_cons_of_mem _ mem))
        (fun name mem => short name (List.mem_cons_of_mem _ mem)) beyond le' (Ne.symm here)
        (Nat.lt_of_le_of_ne beyond.length_le fun same => here (beyond.eq_of_length same).symm)
    have follows' := follow_cons_eq_ok_iff.2 ⟨_, stepped, directory, follows⟩
    exact ⟨name :: before, name', rest', mid, next, k, rfl, follows', stepped', met⟩

end Disk

/-! ## Resources without one above another -/

namespace Resource
variable {r q : Resource}

theorem uri_ne_empty_of_isNameable (nameable : r.IsNameable) : r.location.uri ≠ "" := by
  intro empty
  have named := (nameable _ List.mem_cons_self).1.1
  rw [empty] at named
  exact named rfl

/-- What comes first on the trail is above. -/
theorem isAbove_of_trail_le (named : r.location.uri ≠ "") (named' : q.location.uri ≠ "")
    (le : r.trail <+: q.trail) (ne : r.trail ≠ q.trail) : r.address.isAbove q.address = true := by
  rw [trail_of_named named, trail_of_named named'] at le ne
  obtain ⟨directory, segments⟩ := List.cons_prefix_cons.1
    ((List.prefix_map_iff_of_injective fun _ _ => PathText.text.inj).1 le)
  rw [Address.isAbove_iff, Path.isAbove_iff]
  refine ⟨Location.directoryName_injective directory, segments, fun same => ne ?_⟩
  rw [directory, show r.path = q.path from same]

theorem trail_parent (named : r.location.uri ≠ "") (below : r.isRoot = false) :
    r.parent.trail = r.trail.dropLast := by
  have some_left : r.path.segments ≠ [] := by
    simpa [isRoot, Path.isRoot] using below
  rw [trail_of_named (r := r.parent) named, trail_of_named named, ← List.map_dropLast,
    List.dropLast_cons_of_ne_nil some_left]
  rfl

theorem IsNameable.parent (nameable : r.IsNameable) : r.parent.IsNameable := by
  intro name mem
  obtain rfl | mem := List.mem_cons.1 mem
  · exact nameable _ List.mem_cons_self
  · exact nameable name (List.mem_cons_of_mem _ (List.dropLast_subset _ mem))

end Resource

namespace Files
variable {f : Files} {P : Resource → Prop} {home : List PathText} {d d' : Disk} {r q : Resource}

/-- The operating system takes the paths of the resources, none of which is above
another. -/
structure Admits (f : Files) (P : Resource → Prop) : Prop where
  usable : f.IsUsable
  level : Resource.AreLevel P
  nameable (r : Resource) : P r → r.IsNameable
  short (r : Resource) : P r → (f.placeOf r).path.size ≤ Disk.maxPath

theorem isReached_of_isNameable (usable : f.IsUsable) (nameable : r.IsNameable)
    (short : (f.placeOf r).path.size ≤ Disk.maxPath) : f.IsReached r where
  accepted := ⟨hasNul_placeOf usable nameable,
    size_path_placeOf (trail_ne_nil_of_isNameable nameable), short⟩
  short _ mem := size_le_of_mem_steps usable nameable mem
  below := trail_ne_nil_of_isNameable nameable

/-- The parent of a place is the place of the parent. -/
theorem parent?_placeOf_of_isNameable (nameable : r.IsNameable) (below : r.isRoot = false) :
    (f.placeOf r).parent? = some (f.placeOf r.parent) := by
  have some_left : r.path.segments ≠ [] := by
    simpa [Resource.isRoot, Path.isRoot] using below
  obtain ⟨init, last, segments⟩ := (List.eq_nil_or_concat r.path.segments).resolve_left some_left
  rw [List.concat_eq_append] at segments
  have named (name : String) (mem : name ∈ Location.directoryName r.location.uri :: init) :
      name ≠ "" := by
    refine (nameable name ?_).1.1
    rw [segments]
    exact (List.prefix_append (Location.directoryName r.location.uri :: init) [last]).mem mem
  have last_named : last ≠ "" := (nameable last (by simp [segments])).1.1
  have split : Location.directoryName r.location.uri :: r.path.segments =
      (Location.directoryName r.location.uri :: init) ++ [last] := by simp [segments]
  have kept : (Location.directoryName r.location.uri :: init).reverse.dropWhile (· = "") =
      (Location.directoryName r.location.uri :: init).reverse := by
    apply List.dropWhile_eq_self_iff.2
    intro some_names
    simpa using named _ (List.mem_reverse.1 (List.getElem_mem some_names))
  obtain ⟨first, rest, reversed⟩ := List.exists_cons_of_ne_nil
    (l := (Location.directoryName r.location.uri :: init).reverse) (by simp)
  have parent := parent?_placeOf (f := f) last_named split
  rw [kept, reversed] at parent
  have back : (first :: rest).reverse = Location.directoryName r.location.uri :: init := by
    rw [← reversed, List.reverse_reverse]
  rw [parent]
  change some { f.placeOf r with below := (first :: rest).reverse } = _
  rw [back]
  simp [placeOf, Resource.parent, Path.parent, segments]

/-- The path of the parent comes first. -/
theorem isPrefix_parent (f : Files) (r : Resource) :
    Place.IsPrefix (f.placeOf r.parent) (f.placeOf r) := by
  refine ⟨_, _, path_placeOf f r, path_placeOf f r.parent, ?_⟩
  obtain ⟨more, split⟩ := List.dropLast_prefix r.path.segments
  rw [← split]
  exact PathText.pushNames_prefix_append _ (_ :: r.path.segments.dropLast) more

theorem IsReached.parent (reached : f.IsReached r) (nameable : r.IsNameable)
    (below : r.isRoot = false) : f.IsReached r.parent := by
  have named := Resource.uri_ne_empty_of_isNameable nameable
  have below_parent := trail_ne_nil_of_isNameable nameable.parent
  have trail := Resource.trail_parent named below
  obtain ⟨accepted, short, _⟩ := reached
  refine ⟨?_, ?_, below_parent⟩
  · apply Disk.isAccepted_of_isPrefix accepted (isPrefix_parent f r)
    intro empty
    apply size_path_placeOf (f := f) below_parent
    rw [empty]
    rfl
  · intro name mem
    rw [steps_placeOf, trail] at mem
    apply short
    rw [steps_placeOf]
    exact List.mem_append.2 ((List.mem_append.1 mem).imp_right (List.dropLast_subset _ ·))

/-! ## Room -/

/-- The home of a store, and the names behind it as a way that begins where the root
leads up no more. -/
theorem moves_trail (dir down : List PathText) {trail : List PathText}
    (names : ∀ name ∈ trail, name.IsDown) :
    dir ++ Disk.moves (down ++ trail) = dir ++ Disk.moves down ++ trail := by
  rw [Disk.moves_append, Disk.moves_of_down names, List.append_assoc]

/-- A resource is barred by a file above it. -/
theorem bars_iff (standing : f.Standing home d) (reached : f.IsReached r) :
    f.Bars r d ↔ ∃ path n, path <+: home ++ r.trail.dropLast ∧ d.node? path = some (.file n) := by
  obtain ⟨up, down, dir, root, forward, leads, begins, rfl⟩ := standing.stands
  have down_trail : ∀ name ∈ r.trail.dropLast, name.IsDown :=
    fun _ mem => Resource.isDown_of_mem_dropLast mem
  have steps : (f.placeOf r).steps.dropLast = up ++ (down ++ r.trail.dropLast) := by
    rw [steps_placeOf, root, List.dropLast_append_of_ne_nil reached.below, List.append_assoc]
  have forward_way := PathText.forward_append forward down_trail
  have short_way : ∀ name ∈ down ++ r.trail.dropLast, name.size ≤ Disk.maxName := by
    intro name mem
    apply reached.short
    apply List.dropLast_subset
    rw [steps]
    exact List.mem_append_right _ mem
  have way := moves_trail dir down down_trail
  have start : d.start (f.placeOf r) = d.start { base := .text f.root } := rfl
  have not_long : ¬ Disk.maxPath < (f.placeOf r).path.size := Nat.not_lt.2 reached.accepted.short
  simp only [Bars, not_long, false_or, steps, start]
  constructor
  · intro meets
    refine Classical.byContradiction fun none_above => ?_
    have clear : d.IsClear dir (down ++ r.trail.dropLast) := by
      intro path _ le n file
      rw [way] at le
      exact none_above ⟨path, n, le, file⟩
    have stops := Disk.follow_of_meetsFile meets
    rw [Disk.follow_append, leads] at stops
    change d.follow dir (down ++ r.trail.dropLast) = _ at stops
    obtain ⟨_, follows⟩ | ⟨_, follows⟩ :=
      Disk.follow_of_clear standing.sound.closed begins forward_way short_way clear
    · cases follows.symm.trans stops
    · cases follows.symm.trans stops
  · rintro ⟨path, n, le, file⟩
    rw [← way] at le
    obtain above | beyond := List.prefix_or_prefix_of_prefix le (List.prefix_append dir _)
    · by_cases here : path = dir
      · rw [here, begins] at file
        cases file
      · cases (standing.sound.closed.above begins above here).symm.trans file
    · obtain ⟨before, name, rest, mid, next, k, eq, follows, stepped, met⟩ :=
        Disk.meetsFile_of_file standing.sound.closed begins forward_way short_way beyond le file
      refine ⟨up ++ before, name, rest, mid, next, k, by rw [eq, List.append_assoc], ?_, stepped, met⟩
      exact Disk.follow_append_eq_ok_iff.2 ⟨dir, leads, follows⟩

namespace Admits

theorem named (admits : f.Admits P) (mem : P r) : r.location.uri ≠ "" :=
  Resource.uri_ne_empty_of_isNameable (admits.nameable r mem)

theorem reached (admits : f.Admits P) (mem : P r) : f.IsReached r :=
  isReached_of_isNameable admits.usable (admits.nameable r mem) (admits.short r mem)

theorem plain (admits : f.Admits P) (mem : P r) : (f.placeOf r).wantsDirectory = false :=
  wantsDirectory_placeOf (admits.reached mem).below

/-- None of the resources is on the way to another. -/
theorem not_above (admits : f.Admits P) (mem : P r) (mem' : P q) :
    ¬ home ++ r.trail <+: home ++ q.trail.dropLast := by
  intro le
  rw [List.prefix_append_right_inj] at le
  have ne : r.trail ≠ q.trail := by
    intro same
    have shorter := le.length_le
    have below := List.length_pos_iff.2 (admits.reached mem').below
    rw [same, List.length_dropLast] at shorter
    omega
  have above := Resource.isAbove_of_trail_le (admits.named mem) (admits.named mem')
    (le.trans (List.dropLast_prefix _)) ne
  rw [admits.level.apart r q mem mem'] at above
  cases above

/-- Among the resources there is one at each place. -/
theorem isPlaceOf (admits : f.Admits P) (mem : P r) :
    Numbering.IsPlaceOf P r.address (SamePlace · r.address) := by
  intro q mem'
  constructor
  · intro same
    simpa [Resource.same] using
      Resource.same_of_trail_eq (admits.named mem') (admits.named mem) same
  · intro same
    rw [same]
    rfl

theorem not_samePlace (admits : f.Admits P) (mem : P r) (mem' : P q) (other : r.same q = false) :
    ¬ SamePlace r.address q.address :=
  not_samePlace_iff.2 (apart_of_named (f := f) (admits.named mem) (admits.named mem') other)

end Admits

/-- No file is above the resources, and none of them is a directory. -/
structure Roomy (f : Files) (home : List PathText) (P : Resource → Prop) (d : Disk) : Prop where
  standing : f.Standing home d
  clear (r : Resource) : P r → ∀ path n, path <+: home ++ r.trail.dropLast →
    d.node? path ≠ some (.file n)
  free (r : Resource) : P r → d.node? (home ++ r.trail) ≠ some .directory

namespace Roomy

/-- There is room where nothing is in the way and nothing is there. -/
theorem of_absent (standing : f.Standing home d) (admits : f.Admits P)
    (clear : ∀ r, P r → ¬ f.Bars r d) (absent : ∀ r, P r → d.isPresent (f.placeOf r) = false) :
    f.Roomy home P d := by
  constructor
  · exact standing
  · intro r mem path n le file
    exact clear r mem ((bars_iff standing (admits.reached mem)).2 ⟨path, n, le, file⟩)
  · intro r mem directory
    have reached := admits.reached mem
    have there := (stat_eq_ok_iff standing.stands standing.sound.closed reached.below).2
      ⟨reached, directory⟩
    have present := absent r mem
    rw [Disk.isPresent_iff.2 ⟨_, there⟩] at present
    cases present

/-- A file at the place of one resource is in no other's way. -/
theorem alters (roomy : f.Roomy home P d) (admits : f.Admits P) (mem : P r)
    (standing : f.Standing home d') (alters : Disk.Alters (home ++ r.trail) d d') :
    f.Roomy home P d' := by
  constructor
  · exact standing
  · intro q mem' path n le file
    have other : path ≠ home ++ r.trail := by
      rintro rfl
      exact admits.not_above mem mem' le
    rw [alters.elsewhere path other] at file
    exact roomy.clear q mem' path n le file
  · intro q mem' directory
    by_cases here : home ++ q.trail = home ++ r.trail
    · rw [here] at directory
      exact roomy.free r mem (alters.here directory)
    · rw [alters.elsewhere _ here] at directory
      exact roomy.free q mem' directory

/-- Neither are the directories above it. -/
theorem paves (roomy : f.Roomy home P d) (admits : f.Admits P) (mem : P r)
    (standing : f.Standing home d') (grows : Disk.Grows d d')
    (paves : Disk.Paves (home ++ r.trail.dropLast) d d') : f.Roomy home P d' := by
  constructor
  · exact standing
  · intro q mem' path n le file
    exact roomy.clear q mem' path n le (grows.file_back file)
  · intro q mem' directory
    obtain same | above := paves.rest (home ++ q.trail)
    · rw [same] at directory
      exact roomy.free q mem' directory
    · exact admits.not_above mem' mem above

theorem setBody (roomy : f.Roomy home P d) (n : Nat) (bytes : Bytes) :
    f.Roomy home P (d.setBody n bytes) :=
  ⟨standing_setBody roomy.standing n bytes, roomy.clear, roomy.free⟩

theorem not_bars (roomy : f.Roomy home P d) (admits : f.Admits P) (mem : P r) : ¬ f.Bars r d := by
  rw [bars_iff roomy.standing (admits.reached mem)]
  rintro ⟨path, n, le, file⟩
  exact roomy.clear r mem path n le file

/-- A resource is a file, or nothing is there. -/
theorem stat_cases (roomy : f.Roomy home P d) (admits : f.Admits P) (mem : P r) :
    d.stat (f.placeOf r) = .error .notFound ∨ ∃ n, d.stat (f.placeOf r) = .ok (.file n) := by
  obtain ⟨bars, _⟩ | ⟨_, missing | ⟨node, there⟩⟩ :=
    stat_placeOf_cases d admits.usable (admits.nameable r mem)
  · exact absurd bars (roomy.not_bars admits mem)
  · exact .inl missing
  · cases node with
    | file n => exact .inr ⟨n, there⟩
    | directory =>
      obtain ⟨_, directory⟩ := (stat_eq_ok_iff roomy.standing.stands
        roomy.standing.sound.closed (admits.reached mem).below).1 there
      exact absurd directory (roomy.free r mem)

/-- The directory above a resource can be made, or is there. -/
theorem makes_parent (roomy : f.Roomy home P d) (admits : f.Admits P) (mem : P r) :
    ∃ d₁, d.makeDirectories (f.placeOf r.parent) = (.ok (), d₁) ∧
      Disk.Paves (home ++ r.trail.dropLast) d d₁ := by
  have named := admits.named mem
  have below := admits.level.below r mem
  have reached := (admits.reached mem).parent (admits.nameable r mem) below
  have trail := Resource.trail_parent named below
  have nameable := (admits.nameable r mem).parent
  obtain ⟨up, down, dir, root, forward, leads, begins, rfl⟩ := roomy.standing.stands
  have down_trail : ∀ name ∈ r.trail.dropLast, name.IsDown :=
    fun _ mem => Resource.isDown_of_mem_dropLast mem
  have way := moves_trail dir down down_trail
  have steps : (f.placeOf r.parent).steps = up ++ (down ++ r.trail.dropLast) := by
    rw [steps_placeOf, root, trail, List.append_assoc]
  have tidy : (f.placeOf r.parent).IsTidy := by
    constructor
    · exact ⟨f.root, rfl, fun nothing => by cases nothing⟩
    · intro name mem
      exact (nameable name mem).1.1
  have enough : (down ++ r.trail.dropLast).length ≤ (f.placeOf r.parent).steps.length := by
    simp only [steps, List.length_append]
    omega
  rw [← way]
  refine Disk.makeFirst_upward roomy.standing.sound begins tidy rfl steps leads enough
    (PathText.forward_append forward down_trail) ?_ (fun _ => reached.accepted) ?_
  · intro name mem
    apply reached.short
    rw [steps]
    exact List.mem_append_right _ mem
  · intro path _ le n
    rw [way] at le
    exact roomy.clear r mem path n le

/-- **A resource with room can be entered.** What is done with it is done on a disk
with the same files, on which there is a directory above it. -/
theorem enters (roomy : f.Roomy home P d) (admits : f.Admits P) (mem : P r) :
    ∃ d₁, (∀ {α : Type} (activity : Activity) (go : Disk → Except Failure α × Disk),
        withParent activity (f.placeOf r) d go = go d₁) ∧ f.Roomy home P d₁ ∧
      f.numbering.Alike d d₁ ∧ d₁.locate (f.placeOf r) = .ok (home ++ r.trail) := by
  have named := admits.named mem
  have below := admits.level.below r mem
  have reached := admits.reached mem
  have trail := Resource.trail_parent named below
  have parent := parent?_placeOf_of_isNameable (f := f) (admits.nameable r mem) below
  have standing := roomy.standing
  simp only [withParent, parent]
  cases directory : d.isDirectory (f.placeOf r.parent) with
  | true =>
    obtain ⟨_, there⟩ := (stat_eq_ok_iff standing.stands standing.sound.closed
      (trail_ne_nil_of_isNameable (admits.nameable r mem).parent)).1
      (Disk.isDirectory_iff.1 directory)
    rw [trail] at there
    exact ⟨d, fun _ _ => rfl, roomy, .refl d,
      locate_of_directories standing.stands standing.sound.closed reached there⟩
  | false =>
    obtain ⟨d₁, made, paves⟩ := roomy.makes_parent admits mem
    have grows := Disk.grows_makeDirectories (f.placeOf r.parent) d
    have sound := standing.sound.makeDirectories (p := f.placeOf r.parent) ⟨f.root, rfl, rfl⟩
    rw [made] at grows sound
    obtain ⟨standing₁, alike⟩ := standing_grows standing grows sound
    refine ⟨d₁, fun _ _ => by simp [made], roomy.paves admits mem standing₁ grows paves, alike, ?_⟩
    exact locate_of_directories standing₁.stands standing₁.sound.closed reached paves.there

end Roomy

end Files
end ArtifactCache
