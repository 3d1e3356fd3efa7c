import ArtifactCache.Proofs.Upkeep

/-!
Where the files of a store are. If the root stands, its way leads to one path, the
home of the store, whether or not all of it is there; and each resource has its
node below, at the end of its trail (`node_iff`). So what a call does to the nodes
is all that it does to the resources.
-/
namespace ArtifactCache

namespace Disk
variable {d d' : Disk} {dir last : List PathText} {way : List PathText}

theorem size_le_of_step {name : PathText} {next : List PathText}
    (stepped : step dir name = .ok next) : name.size ≤ maxName := by
  unfold step at stepped
  split at stepped
  · next dot => subst dot; decide
  split at stepped
  · next dots => subst dots; decide
  split at stepped
  · cases stepped
  · next short => exact Nat.not_lt.1 short

theorem size_le_of_follow (ends : d.follow dir way = .ok last) :
    ∀ name ∈ way, name.size ≤ maxName := by
  induction way generalizing dir with
  | nil => simp
  | cons name rest ih =>
    obtain ⟨next, stepped, _, ends⟩ := follow_cons_eq_ok_iff.1 ends
    intro name' mem
    obtain rfl | mem := List.mem_cons.1 mem
    · exact size_le_of_step stepped
    · exact ih ends name' mem

/-- The names of a way that lead anywhere. -/
def moves (way : List PathText) : List PathText := way.filter (· ≠ .text ".")

theorem moves_append (way more : List PathText) : moves (way ++ more) = moves way ++ moves more :=
  List.filter_append _ _

theorem moves_of_down (down : ∀ name ∈ way, name.IsDown) : moves way = way :=
  List.filter_eq_self.2 fun name mem => by simpa using (down name mem).1

theorem step_of_forward {name : PathText} (forward : name ≠ .text "..")
    (short : name.size ≤ maxName) : step dir name = .ok (dir ++ moves [name]) := by
  unfold step moves
  by_cases dot : name = .text "."
  · simp [dot]
  · simp [dot, forward, Nat.not_lt.2 short]

/-- A way that does not lead up goes down along its names. -/
theorem eq_of_follow_forward (forward : ∀ name ∈ way, name ≠ .text "..")
    (ends : d.follow dir way = .ok last) : last = dir ++ moves way := by
  induction way generalizing dir with
  | nil => simpa [moves] using (Except.ok.inj ends).symm
  | cons name rest ih =>
    have short := size_le_of_follow ends name List.mem_cons_self
    obtain ⟨next, stepped, _, ends⟩ := follow_cons_eq_ok_iff.1 ends
    rw [step_of_forward (forward name List.mem_cons_self) short] at stepped
    obtain rfl := Except.ok.inj stepped
    rw [ih (fun n mem => forward n (List.mem_cons_of_mem _ mem)) ends, List.append_assoc,
      ← moves_append]
    rfl

/-- Such a way can be followed if there are directories all along. -/
theorem follow_of_directories (forward : ∀ name ∈ way, name ≠ .text "..")
    (short : ∀ name ∈ way, name.size ≤ maxName)
    (there : ∀ path, dir <+: path → path <+: dir ++ moves way → d.node? path = some .directory) :
    d.follow dir way = .ok (dir ++ moves way) := by
  induction way generalizing dir with
  | nil => simp [follow, moves]
  | cons name rest ih =>
    have split : moves (name :: rest) = moves [name] ++ moves rest := moves_append [name] rest
    rw [split, ← List.append_assoc] at there ⊢
    refine follow_cons_eq_ok_iff.2 ⟨_, step_of_forward (forward name List.mem_cons_self)
      (short name List.mem_cons_self), there _ (List.prefix_append _ _) (List.prefix_append _ _), ?_⟩
    exact ih (fun n mem => forward n (List.mem_cons_of_mem _ mem))
      (fun n mem => short n (List.mem_cons_of_mem _ mem))
      fun path le => there path ((List.prefix_append _ _).trans le)

end Disk

namespace Files
variable {f : Files} {d d' : Disk} {home home' : List PathText} {r q : Resource}

/-- The way to the root leads through directories as far as it leads up, and from
there forward to `home`. -/
def StandsAt (f : Files) (home : List PathText) (d : Disk) : Prop :=
  ∃ up down dir, Place.stepsOf (.text f.root) = up ++ down ∧ (∀ name ∈ down, name ≠ .text "..") ∧
    d.follow (d.start { base := .text f.root }) up = .ok dir ∧ d.node? dir = some .directory ∧
    home = dir ++ Disk.moves down

theorem stands_iff : f.Stands d ↔ ∃ home, f.StandsAt home d := by
  constructor
  · rintro ⟨up, down, dir, root, forward, ends, there⟩
    exact ⟨_, up, down, dir, root, forward, ends, there, rfl⟩
  · rintro ⟨home, up, down, dir, root, forward, ends, there, _⟩
    exact ⟨up, down, dir, root, forward, ends, there⟩

namespace StandsAt

theorem passable (stands : f.StandsAt home d) (passable : Disk.Passable d d') :
    f.StandsAt home d' := by
  obtain ⟨up, down, dir, root, forward, ends, there, eq⟩ := stands
  refine ⟨up, down, dir, root, forward, ?_, passable.directory dir there, eq⟩
  rw [passable.start]
  exact passable.follow ends

/-- The home is the same, wherever the way is taken to lead up no more. -/
theorem unique (stands : f.StandsAt home d) (stands' : f.StandsAt home' d) : home = home' := by
  obtain ⟨up, down, dir, root, forward, ends, _, rfl⟩ := stands
  obtain ⟨up', down', dir', root', forward', ends', _, rfl⟩ := stands'
  have further {up more up' down down' dir dir' : List PathText} (eq : up' = up ++ more)
      (root : Place.stepsOf (.text f.root) = up ++ down)
      (root' : Place.stepsOf (.text f.root) = up' ++ down')
      (forward : ∀ name ∈ down, name ≠ .text "..")
      (ends : d.follow (d.start { base := .text f.root }) up = .ok dir)
      (ends' : d.follow (d.start { base := .text f.root }) up' = .ok dir') :
      dir ++ Disk.moves down = dir' ++ Disk.moves down' := by
    subst eq
    rw [root, List.append_assoc] at root'
    obtain rfl : down = more ++ down' := List.append_cancel_left root'
    rw [Disk.follow_append, ends] at ends'
    have last := Disk.eq_of_follow_forward
      (fun name mem => forward name (List.mem_append_left _ mem)) ends'
    rw [last, List.append_assoc, Disk.moves_append]
  obtain ⟨more, eq, _⟩ | ⟨more, eq, _⟩ := List.append_eq_append_iff.1 (root.symm.trans root')
  · exact further eq root root' forward ends ends'
  · exact (further eq root' root forward' ends' ends).symm

theorem stands (stands : f.StandsAt home d) : f.Stands d := stands_iff.2 ⟨home, stands⟩

end StandsAt

/-- The operating system takes the path of the resource, which is not the root. -/
structure IsReached (f : Files) (r : Resource) : Prop where
  accepted : (f.placeOf r).IsAccepted
  short : ∀ name ∈ (f.placeOf r).steps, name.size ≤ Disk.maxName
  below : r.trail ≠ []

/-- Resources at one place have one path. -/
theorem path_placeOf_congr (below : r.trail ≠ []) (eq : r.trail = q.trail) :
    (f.placeOf r).path = (f.placeOf q).path := by
  obtain ⟨names, trail, path⟩ := path_placeOf_of_trail (f := f) below
  obtain ⟨names', trail', path'⟩ := path_placeOf_of_trail (f := f) (eq ▸ below)
  have texts : names.map PathText.text = names'.map PathText.text := by rw [← trail, ← trail', eq]
  rw [path, path', (List.map_inj_right fun _ _ => PathText.text.inj).1 texts]

theorem IsReached.congr (reached : f.IsReached r) (eq : r.trail = q.trail) : f.IsReached q := by
  obtain ⟨⟨noNul, notEmpty, short⟩, names, below⟩ := reached
  have path := path_placeOf_congr (f := f) below eq
  exact ⟨⟨path ▸ noNul, path ▸ notEmpty, path ▸ short⟩,
    by rwa [steps_placeOf, ← eq, ← steps_placeOf], eq ▸ below⟩

/-- A place is found below the home. -/
theorem path_of_locate (stands : f.StandsAt home d) (below : r.trail ≠ []) {path : List PathText}
    (found : d.locate (f.placeOf r) = .ok path) : path = home ++ r.trail := by
  obtain ⟨up, down, dir, root, forward, ends, _, rfl⟩ := stands
  obtain ⟨whole, way, rfl⟩ := locate_placeOf below found
  rw [root, Disk.follow_append, ends] at way
  rw [Disk.eq_of_follow_forward forward way]

theorem isReached_of_locate (below : r.trail ≠ []) {path : List PathText}
    (found : d.locate (f.placeOf r) = .ok path) : f.IsReached r := by
  obtain ⟨accepted, dir, ends, last⟩ := Disk.locate_eq_ok_iff.1 found
  refine ⟨accepted, ?_, below⟩
  obtain none_left | ⟨way, name, steps⟩ := List.eq_nil_or_concat (f.placeOf r).steps
  · simp [none_left]
  rw [List.concat_eq_append] at steps
  rw [steps, List.getLast?_concat] at last
  rw [steps, List.dropLast_concat] at ends
  rw [steps]
  intro other mem
  obtain mem | mem := List.mem_append.1 mem
  · exact Disk.size_le_of_follow ends other mem
  · rw [List.mem_singleton.1 mem]
    exact Disk.size_le_of_step last

/-- The way to a resource ends below the home if there are directories all along. -/
theorem locate_of_directories (stands : f.StandsAt home d) (closed : d.Closed)
    (reached : f.IsReached r)
    (there : d.node? (home ++ r.trail.dropLast) = some .directory) :
    d.locate (f.placeOf r) = .ok (home ++ r.trail) := by
  obtain ⟨up, down, dir, root, forward, ends, begins, rfl⟩ := stands
  obtain ⟨accepted, short, below⟩ := reached
  obtain none_left | ⟨init, last, trail⟩ := List.eq_nil_or_concat r.trail
  · exact absurd none_left below
  rw [List.concat_eq_append] at trail
  rw [trail, List.dropLast_concat] at there
  have steps : (f.placeOf r).steps = (up ++ (down ++ init)) ++ [last] := by
    rw [steps_placeOf, root, trail]
    simp
  have down_init : ∀ name ∈ init, name.IsDown :=
    fun name mem => Resource.isDown_of_mem_trail (trail ▸ List.mem_append_left [last] mem)
  have down_last : last.IsDown :=
    Resource.isDown_of_mem_trail (trail ▸ List.mem_append_right init (List.mem_singleton_self last))
  rw [steps] at short
  have way : d.follow dir (down ++ init) = .ok (dir ++ Disk.moves (down ++ init)) := by
    refine Disk.follow_of_directories (PathText.forward_append forward down_init)
      (fun name mem => ?_) fun path _ le => ?_
    · exact short name (List.mem_append_left _ (List.mem_append_right _ mem))
    · rw [Disk.moves_append, Disk.moves_of_down down_init, ← List.append_assoc] at le
      by_cases here : path = dir ++ Disk.moves down ++ init
      · rw [here]
        exact there
      · exact closed.above there le here
  rw [Disk.locate_of_accepted accepted steps, Disk.follow_append]
  have start : d.start (f.placeOf r) = d.start { base := .text f.root } := rfl
  rw [start, ends]
  change (d.follow dir (down ++ init)).bind _ = _
  rw [way]
  change Disk.step _ last = _
  have moves_last : Disk.moves [last] = [last] := Disk.moves_of_down (by simpa using down_last)
  rw [Disk.step_of_forward down_last.2 (short last (by simp)), trail, Disk.moves_append,
    Disk.moves_of_down down_init, moves_last]
  simp

/-- What is below the home can be found. -/
theorem locate_of_node (stands : f.StandsAt home d) (closed : d.Closed) (reached : f.IsReached r)
    {n : Node} (there : d.node? (home ++ r.trail) = some n) :
    d.locate (f.placeOf r) = .ok (home ++ r.trail) := by
  refine locate_of_directories stands closed reached ?_
  have parent := closed _ _ there
  rwa [List.dropLast_append_of_ne_nil reached.below] at parent

/-- **Where things are.** What is at the place of a resource is its node. -/
theorem stat_eq_ok_iff (stands : f.StandsAt home d) (closed : d.Closed) (below : r.trail ≠ [])
    {n : Node} : d.stat (f.placeOf r) = .ok n ↔
      f.IsReached r ∧ d.node? (home ++ r.trail) = some n := by
  have plain : (f.placeOf r).wantsDirectory = false := wantsDirectory_placeOf below
  have iff : d.stat (f.placeOf r) = .ok n ↔ ∃ path, d.locate (f.placeOf r) = .ok path ∧
      d.node? path = some n := by
    cases n with
    | directory => exact Disk.stat_eq_directory_iff
    | file n => simp [Disk.stat_eq_file_iff, plain]
  rw [iff]
  constructor
  · rintro ⟨path, found, node⟩
    obtain rfl := path_of_locate stands below found
    exact ⟨isReached_of_locate below found, node⟩
  · rintro ⟨reached, node⟩
    exact ⟨_, locate_of_node stands closed reached node, node⟩

end Files
end ArtifactCache
