import ArtifactCache.Proofs.Listing

/-!
What lies beneath a resource on disk. What a store adds to a disk it adds to directories
(`Files.spares_closedBut`), and the same steps lead to the same path whatever else is on the
disk (`Disk.follow_unique`). So all that the store has put beneath a resource is a tree of names
that files may have (`Files.Built.isTreeAt`), and each file in it is that of the resource to
which the names lead (`Files.Built.isAccepted_of_file`, `Files.locate_below`).
-/
namespace ArtifactCache

/-! ## Down from a resource -/

namespace Resource
variable {r q : Resource} {names : List String}

/-- The resource to which the names lead down. -/
def below (r : Resource) (names : List String) : Resource := names.foldl child r

@[simp] theorem below_nil (r : Resource) : r.below [] = r := rfl

theorem below_concat (r : Resource) (names : List String) (n : String) :
    r.below (names ++ [n]) = (r.below names).child n := by simp [below]

@[simp] theorem location_below (r : Resource) (names : List String) :
    (r.below names).location = r.location := by
  induction names generalizing r with
  | nil => rfl
  | cons n rest ih => exact ih (r.child n)

theorem segments_below (segments : ∀ n ∈ names, IsSegment n) :
    (r.below names).path.segments = r.path.segments ++ names := by
  induction names using List.reverseRecOn with
  | nil => simp
  | append_singleton init n ih =>
    have inner := ih fun n mem => segments n (List.mem_append_left _ mem)
    rw [below_concat, segments_child (segments n (by simp)), inner, List.append_assoc]

theorem trail_below (segments : ∀ n ∈ names, IsSegment n) :
    (r.below names).trail = r.trail ++ names.map .text := by
  induction names using List.reverseRecOn with
  | nil => simp
  | append_singleton init n ih =>
    have inner := ih fun n mem => segments n (List.mem_append_left _ mem)
    rw [below_concat, trail_child (segments n (by simp)), inner, List.append_assoc]
    simp

/-- Beneath a resource are those to which names lead down from it. -/
theorem exists_below (location : q.location = r.location)
    (le : r.path.segments <+: q.path.segments) :
    ∃ names, q = r.below names ∧ ∀ n ∈ names, IsSegment n := by
  obtain ⟨names, whole⟩ := le
  have segments : ∀ n ∈ names, IsSegment n :=
    fun n mem => q.path.named n (whole ▸ List.mem_append_right _ mem)
  have path : q.path = (r.below names).path :=
    Path.eq_iff.2 (by rw [segments_below segments, whole])
  exists names
  constructor
  · calc
      q = ⟨q.location, q.path⟩ := rfl
      _ = ⟨(r.below names).location, (r.below names).path⟩ := by
        rw [location_below, location, path]
      _ = r.below names := rfl
  · exact segments

end Resource

/-! ## Ways on different disks -/

namespace Disk
variable {d d' : Disk} {p : Place} {start dir way last last' path : List PathText}

/-- The same steps from the same directory lead to the same path, on whatever disk. -/
theorem follow_unique (ends : d.follow dir way = .ok last) (ends' : d'.follow dir way = .ok last') :
    last = last' := by
  induction way generalizing dir with
  | nil => exact Except.ok.inj (ends.symm.trans ends')
  | cons name rest ih =>
    obtain ⟨next, stepped, _, ends⟩ := follow_cons_eq_ok_iff.1 ends
    obtain ⟨next', stepped', _, ends'⟩ := follow_cons_eq_ok_iff.1 ends'
    obtain rfl := Except.ok.inj (stepped.symm.trans stepped')
    exact ih ends ends'

/-- A place is found where its steps lead on another disk. -/
theorem eq_of_follow_of_locate (begins : d'.start p = d.start p)
    (ends : d.follow (d.start p) p.steps = .ok last) (found : d'.locate p = .ok path) :
    path = last := by
  obtain ⟨_, dir, ends', stepped⟩ := locate_eq_ok_iff.1 found
  rw [begins] at ends'
  obtain none_left | ⟨way, name, steps⟩ := List.eq_nil_or_concat p.steps
  · rw [none_left] at ends ends' stepped
    exact stepped.trans (follow_unique ends' ends)
  · rw [List.concat_eq_append] at steps
    rw [steps, List.dropLast_concat] at ends'
    rw [steps, List.getLast?_concat] at stepped
    rw [steps] at ends
    obtain ⟨mid, way, ends⟩ := follow_append_eq_ok_iff.1 ends
    obtain ⟨next, stepped', _, here⟩ := follow_cons_eq_ok_iff.1 ends
    obtain rfl := follow_unique ends' way
    obtain rfl := Except.ok.inj (stepped.symm.trans stepped')
    exact Except.ok.inj here

/-! ## Directories -/

/-- What is on the disk is in a directory, unless it is where relative paths begin: that
directory, and those above it, can be taken away and still be gone through. -/
def ClosedBut (start : List PathText) (d : Disk) : Prop :=
  ∀ path name, (d.node? (path ++ [name])).isSome →
    d.node? path = some .directory ∨ path <+: start

theorem Closed.closedBut (closed : d.Closed) (start : List PathText) : d.ClosedBut start := by
  intro path name there
  obtain ⟨n, node⟩ := Option.isSome_iff_exists.1 there
  exact .inl (by simpa using closed _ n node)

namespace ClosedBut

/-- What is found in a directory where nothing is can be put there. -/
theorem parent (closed : d.ClosedBut (d.start p)) {name : PathText}
    (found : d.locate p = .ok (path ++ [name])) (empty : d.node? (path ++ [name]) = none) :
    d.node? path = some .directory ∨ path <+: d.start p := by
  obtain ⟨_, dir, ends, last⟩ := locate_eq_ok_iff.1 found
  have reached : dir = d.start p ∨ d.node? dir = some .directory := by
    cases steps : p.steps.dropLast with
    | nil =>
      rw [steps] at ends
      exact .inl (Except.ok.inj ends).symm
    | cons first rest =>
      rw [steps] at ends
      exact .inr (node?_of_follow_cons ends)
  -- Where the last step does not lead down, it leads to where the way was already.
  have stays (same : path ++ [name] = dir) : path <+: d.start p := by
    obtain rfl | there := reached
    · exact same ▸ List.prefix_append _ _
    · rw [same, there] at empty
      cases empty
  split at last
  · exact .inr (stays last)
  · next step_name _ =>
    unfold step at last
    split at last
    · exact .inr (stays (Except.ok.inj last).symm)
    split at last
    · have up : dir.dropLast = path ++ [name] := Except.ok.inj last
      refine .inr ((List.prefix_append path [name]).trans ?_)
      obtain rfl | there := reached
      · exact up ▸ List.dropLast_prefix _
      · obtain none_left | ⟨init, child, eq⟩ := List.eq_nil_or_concat dir
        · simp [none_left] at up
        · rw [List.concat_eq_append] at eq
          subst eq
          rw [List.dropLast_concat] at up
          obtain directory | le := closed init child (by simp [there])
          · rw [up, empty] at directory
            cases directory
          · exact up ▸ le
    split at last
    · cases last
    · obtain ⟨rfl, _⟩ := List.append_inj' (Except.ok.inj last) rfl
      obtain here | there := reached
      · exact .inr (here ▸ List.prefix_rfl)
      · exact .inl there

theorem setNode (closed : d.ClosedBut (d.start p)) (found : d.locate p = .ok path)
    (empty : d.node? path = none) (n : Node) : (d.setNode path n).ClosedBut (d.start p) := by
  intro other name there
  have nodes (at_ : List PathText) := node?_setNode d path at_ n (ne_nil_of_node?_eq_none empty)
  rw [nodes] at there ⊢
  have parent : d.node? other = some .directory ∨ other <+: d.start p := by
    split at there
    · next same => exact closed.parent (same ▸ found) (same ▸ empty)
    · exact closed other name there
  refine parent.imp_left fun directory => ?_
  rw [if_neg, directory]
  rintro rfl
  cases empty.symm.trans directory

theorem removeNode (closed : d.ClosedBut start)
    (leaf : (∃ n, d.node? path = some (.file n)) ∨ d.children path = []) :
    (d.removeNode path).ClosedBut start := by
  intro other name there
  rw [node?_removeNode] at there ⊢
  split at there
  · cases there
  refine (closed other name there).imp_left fun directory => ?_
  rw [if_neg, directory]
  rintro ⟨_, rfl⟩
  obtain ⟨n, file⟩ | nothing := leaf
  · cases file.symm.trans directory
  · have child := mem_children.2 there
    simp [nothing] at child

end ClosedBut

/-- What is beneath the path is a tree of names that files may have. -/
structure IsTreeAt (d : Disk) (path : List PathText) : Prop where
  closed (rest : List PathText) (name : PathText) :
    (d.node? (path ++ rest ++ [name])).isSome → d.node? (path ++ rest) = some .directory
  named (rest : List PathText) (name : PathText) :
    (d.node? (path ++ rest ++ [name])).isSome → ∃ s, name = .text s ∧ IsFileName s

namespace IsTreeAt
variable {rest up : List PathText}

/-- What is above something in the tree is a directory. -/
theorem above (tree : d.IsTreeAt path) (there : (d.node? (path ++ rest)).isSome)
    (le : up <+: rest) (ne : up ≠ rest) : d.node? (path ++ up) = some .directory := by
  induction rest using List.reverseRecOn with
  | nil => exact absurd (List.prefix_nil.1 le) ne
  | append_singleton init name ih =>
    rw [← List.append_assoc] at there
    have parent := tree.closed init name there
    obtain eq | le := List.prefix_concat_iff.1 le
    · exact absurd eq ne
    by_cases here : up = init
    · exact here ▸ parent
    · exact ih (by simp [parent]) le here

theorem exists_names (tree : d.IsTreeAt path) (there : (d.node? (path ++ rest)).isSome) :
    ∃ names : List String, rest = names.map .text ∧ ∀ n ∈ names, IsFileName n := by
  induction rest using List.reverseRecOn with
  | nil => exact ⟨[], rfl, by simp⟩
  | append_singleton init name ih =>
    rw [← List.append_assoc] at there
    obtain ⟨s, rfl, named⟩ := tree.named init name there
    obtain ⟨names, rfl, all⟩ := ih (by simp [tree.closed init _ there])
    exists names ++ [s]
    constructor
    · simp
    · intro n mem
      obtain mem | mem := List.mem_append.1 mem
      · exact all n mem
      · exact List.mem_singleton.1 mem ▸ named

theorem isFileName (tree : d.IsTreeAt path) {names : List String}
    (there : (d.node? (path ++ names.map .text)).isSome) : ∀ n ∈ names, IsFileName n := by
  obtain ⟨names', same, named⟩ := tree.exists_names there
  rwa [(List.map_inj_right fun _ _ => PathText.text.inj).1 same]

/-- Something can be beneath a directory only. -/
theorem isDirectory (tree : d.IsTreeAt path) (there : (d.node? (path ++ rest)).isSome)
    (below : rest ≠ []) : d.node? path = some .directory := by
  have directory := tree.above there List.nil_prefix below.symm
  rwa [List.append_nil] at directory

end IsTreeAt
end Disk

namespace Files
variable {f : Files} {d d₀ : Disk} {r : Resource} {names : List String} {path : List PathText}

theorem ComesTo.start {p : Place} (comes : f.ComesTo p) (d : Disk) :
    d.start p = d.start { base := .text f.root } := by
  have absolute : ({ base := .text f.root } : Place).isAbsolute =
    (PathText.text f.root).isAbsolute := rfl
  simp [Disk.start, comes.isAbsolute, absolute]

theorem spares_closedBut (f : Files) :
    f.Spares fun d => d.ClosedBut (d.start { base := .text f.root }) where
  setNode {d p path n} closed comes found empty _ := by
    rw [← comes.start d] at closed
    have start : (d.setNode path n).start { base := .text f.root } = d.start p :=
      (comes.start d).symm
    rw [start]
    exact closed.setNode found empty n
  addFile {d p path} closed comes found empty := by
    rw [← comes.start d] at closed
    have start : (d.addFile path).start { base := .text f.root } = d.start p :=
      (comes.start d).symm
    rw [start]
    exact closed.setNode found empty (.file d.fresh)
  setBody _ _ closed := closed
  removeNode path closed leaf := closed.removeNode leaf

/-- What a store makes of a disk in order. -/
structure Arises (f : Files) (d₀ d : Disk) : Prop where
  sound : f.Sound d₀
  descends : f.Descends d₀ d
  closed : d.ClosedBut (d.start { base := .text f.root })

theorem arises_after (sound : f.Sound d₀) (calls : List Call) :
    f.Arises d₀ (Usage.after f.backend d₀ calls).store :=
  ⟨sound, f.descends_after d₀ calls, f.spares_closedBut.after calls (sound.closed.closedBut _)⟩

/-- What the store put on the disk is not above where relative paths begin. -/
theorem Arises.not_le_start (arises : f.Arises d₀ d) (new : d₀.node? path = none) :
    ¬ path <+: d.start { base := .text f.root } := by
  intro le
  have start : d.start { base := .text f.root } = d₀.start { base := .text f.root } := by
    rw [Disk.start, Disk.start, arises.descends.workingDirectory]
  have there : d₀.node? (d₀.start { base := .text f.root }) = some .directory :=
    arises.sound.start rfl
  rw [start] at le
  by_cases here : path = d₀.start { base := .text f.root }
  · rw [here, there] at new
    cases new
  · rw [arises.sound.closed.above there le here] at new
    cases new

/-! ## What the store has put beneath a resource -/

/-- What the store put beneath a directory is at the place of the resource to which the names
lead, unless the way to the root passes there. -/
theorem CameTo.below (same : d.workingDirectory = d₀.workingDirectory)
    (found : d.locate (f.placeOf r) = .ok path) (directory : d.node? path = some .directory)
    (segments : ∀ n ∈ names, IsSegment n) (came : f.CameTo d₀ (path ++ names.map .text)) :
    (f.placeOf (r.below names)).IsAccepted ∨ ∃ up, up <+: Place.stepsOf (.text f.root) ∧
      d.follow (d.start { base := .text f.root }) up = .ok (path ++ names.map .text) := by
  obtain ⟨p, d', comes, same', found'⟩ := came
  have begins : d'.start p = d.start { base := .text f.root } := by
    rw [comes.start d', Disk.start, Disk.start, same, same']
  have whole : d.follow (d.start { base := .text f.root })
      (Place.stepsOf (.text f.root) ++ r.trail) = .ok path := Disk.follow_of_locate found directory
  obtain ⟨home, root, down⟩ := Disk.follow_append_eq_ok_iff.1 whole
  have passed (le : p.steps <+: Place.stepsOf (.text f.root)) :
      ∃ up, up <+: Place.stepsOf (.text f.root) ∧
        d.follow (d.start { base := .text f.root }) up = .ok (path ++ names.map .text) := by
    obtain ⟨rest, steps⟩ := le
    rw [← steps] at root
    obtain ⟨mid, up, _⟩ := Disk.follow_append_eq_ok_iff.1 root
    rw [← comes.start d] at up
    have here := Disk.eq_of_follow_of_locate (begins.trans (comes.start d).symm) up found'
    rw [comes.start d] at up
    exact ⟨p.steps, ⟨rest, steps⟩, here ▸ up⟩
  obtain ⟨q, rfl⟩ | ⟨t, rfl, _, le⟩ := comes
  · by_cases top : q.trail = []
    · exact .inr (passed (by simp [steps_placeOf, top]))
    · left
      obtain ⟨home', root', whole'⟩ := locate_placeOf top found'
      obtain rfl : home = home' := Disk.follow_unique root (begins ▸ root')
      have trails : q.trail = (r.below names).trail := by
        rw [Disk.follow_of_down (fun _ => Resource.isDown_of_mem_trail) down,
          List.append_assoc] at whole'
        rw [Resource.trail_below segments, List.append_cancel_left whole']
      obtain ⟨noNul, notEmpty, short⟩ := (Disk.locate_eq_ok_iff.1 found').1
      have path_eq := path_placeOf_congr (f := f) top trails
      exact ⟨path_eq ▸ noNul, path_eq ▸ notEmpty, path_eq ▸ short⟩
  · exact .inr (passed (by simpa [Place.steps] using le))

/-- All that is beneath the resource was put there by the store, on what was the disk `d₀`; if
the resource is a file, that was as well. A directory may have been there before. -/
structure Built (f : Files) (d₀ d : Disk) (r : Resource) : Prop where
  beneath (path rest : List PathText) : d.locate (f.placeOf r) = .ok path → rest ≠ [] →
    d₀.node? (path ++ rest) = none
  file (path : List PathText) (n : Nat) : d.locate (f.placeOf r) = .ok path →
    d.node? path = some (.file n) → d₀.node? path = none

namespace Built

/-- A child is built with the resource. -/
theorem child (built : f.Built d₀ d r) (given : (f.placeOf r).path ≠ .text "") {n : String}
    (segment : IsSegment n) : f.Built d₀ d (r.child n) where
  beneath inner rest found _ := by
    obtain ⟨dir, found_r, _, rfl⟩ := exists_of_locate_child given segment found
    rw [List.append_assoc]
    exact built.beneath dir _ found_r (by simp)
  file inner _ found _ := by
    obtain ⟨dir, found_r, _, rfl⟩ := exists_of_locate_child given segment found
    exact built.beneath dir _ found_r (by simp)

variable (built : f.Built d₀ d r) (arises : f.Arises d₀ d)
  (found : d.locate (f.placeOf r) = .ok path)
include built arises found

theorem cameTo {rest : List PathText} (below : rest ≠ [])
    (there : (d.node? (path ++ rest)).isSome) : f.CameTo d₀ (path ++ rest) := by
  obtain before | came := arises.descends.node _ there
  · simp [built.beneath path rest found below] at before
  · exact came

theorem isTreeAt (there : (d.node? path).isSome) : d.IsTreeAt path where
  closed rest name inside := by
    obtain directory | le := arises.closed (path ++ rest) name inside
    · exact directory
    by_cases here : rest = []
    · rw [here, List.append_nil] at le ⊢
      obtain ⟨n | n, node⟩ := Option.isSome_iff_exists.1 there
      · exact node
      · exact absurd le (arises.not_le_start (built.file path n found node))
    · exact absurd le (arises.not_le_start (built.beneath path rest found here))
  named rest name inside := by
    have below : rest ++ [name] ≠ [] := by simp
    rw [List.append_assoc] at inside
    have came := built.cameTo arises found below inside
    rw [← List.append_assoc] at came
    obtain before | named := came.fileName arises.sound
    · simp [built.beneath path _ found below] at before
    · exact named

/-- What is beneath a directory is where its resource is, or the way to the root passes it. -/
theorem isAccepted_or_passed (tree : d.IsTreeAt path) (segments : ∀ n ∈ names, IsSegment n)
    (below : names ≠ []) (there : (d.node? (path ++ names.map .text)).isSome) :
    (f.placeOf (r.below names)).IsAccepted ∨ ∃ up, up ≠ [] ∧ up <+: Place.stepsOf (.text f.root) ∧
      d.follow (d.start { base := .text f.root }) up = .ok (path ++ names.map .text) := by
  have inner : names.map PathText.text ≠ [] := by simpa using below
  have directory := tree.isDirectory there inner
  have came := built.cameTo arises found inner there
  obtain accepted | ⟨up, le, ends⟩ :=
    came.below arises.descends.workingDirectory found directory segments
  · exact .inl accepted
  · have some_step : up ≠ [] := by
      rintro rfl
      have new := built.beneath path _ found inner
      exact arises.not_le_start new (Except.ok.inj ends ▸ List.prefix_rfl)
    exact .inr ⟨up, some_step, le, ends⟩

/-- A file is where its resource is. -/
theorem isAccepted_of_file (tree : d.IsTreeAt path) (segments : ∀ n ∈ names, IsSegment n) {n : Nat}
    (file : d.node? (path ++ names.map .text) = some (.file n)) :
    (f.placeOf (r.below names)).IsAccepted := by
  by_cases below : names = []
  · subst below
    exact (Disk.locate_eq_ok_iff.1 found).1
  obtain accepted | ⟨up, some_step, _, ends⟩ :=
    built.isAccepted_or_passed arises found tree segments below (by simp [file])
  · exact accepted
  · obtain ⟨name, rest, rfl⟩ := List.exists_cons_of_ne_nil some_step
    cases file.symm.trans (Disk.node?_of_follow_cons ends)

/-- All is where its resource is if the root never leads up. -/
theorem isAccepted_of_forward (forward : ∀ name ∈ Place.stepsOf (.text f.root), name ≠ .text "..")
    (tree : d.IsTreeAt path) (segments : ∀ n ∈ names, IsSegment n)
    (there : (d.node? (path ++ names.map .text)).isSome) :
    (f.placeOf (r.below names)).IsAccepted := by
  by_cases below : names = []
  · subst below
    exact (Disk.locate_eq_ok_iff.1 found).1
  obtain accepted | ⟨up, _, ⟨rest, steps⟩, ends⟩ :=
    built.isAccepted_or_passed arises found tree segments below there
  · exact accepted
  · have directory := tree.isDirectory there (by simpa using below)
    have whole : d.follow (d.start { base := .text f.root })
        (Place.stepsOf (.text f.root) ++ r.trail) = .ok path :=
      Disk.follow_of_locate found directory
    have down := Disk.eq_of_follow_forward
      (PathText.forward_append forward fun _ => Resource.isDown_of_mem_trail) whole
    rw [← steps] at forward down
    have passed := Disk.eq_of_follow_forward
      (fun name mem => forward name (List.mem_append_left _ mem)) ends
    have size := congrArg List.length passed
    have some_name := List.length_pos_of_ne_nil below
    simp only [down, Disk.moves_append, List.length_append, List.length_map] at size
    omega

end Built

/-! ## Where the resources beneath another are -/

theorem path_child_ne {n : String} (segment : IsSegment n) :
    (f.placeOf (r.child n)).path ≠ .text "" := by
  intro empty
  have size := size_path_placeOf (f := f) (r := r.child n) (by simp [Resource.trail_child segment])
  simp [empty, PathText.size] at size

/-- What has a path has resources with paths beneath it. -/
theorem path_below_ne (given : (f.placeOf r).path ≠ .text "")
    (segments : ∀ n ∈ names, IsSegment n) : (f.placeOf (r.below names)).path ≠ .text "" := by
  obtain rfl | ⟨init, n, rfl⟩ := List.eq_nil_or_concat names
  · exact given
  · rw [List.concat_eq_append] at segments ⊢
    rw [Resource.below_concat]
    exact path_child_ne (segments n (by simp))

/-- The way to what is beneath a resource is the way to the resource, and the names. -/
theorem exists_of_locate_below (given : (f.placeOf r).path ≠ .text "")
    (segments : ∀ n ∈ names, IsSegment n) {last : List PathText}
    (found : d.locate (f.placeOf (r.below names)) = .ok last) :
    ∃ path, d.locate (f.placeOf r) = .ok path ∧ last = path ++ names.map .text ∧
      (names ≠ [] → d.node? path = some .directory) := by
  induction names using List.reverseRecOn generalizing last with
  | nil => exact ⟨last, found, by simp, absurd rfl⟩
  | append_singleton init n ih =>
    have inner : ∀ s ∈ init, IsSegment s := fun s mem => segments s (List.mem_append_left _ mem)
    rw [Resource.below_concat] at found
    obtain ⟨dir, found_dir, directory, rfl⟩ :=
      exists_of_locate_child (path_below_ne given inner) (segments n (by simp)) found
    obtain ⟨path, found_r, rfl, above⟩ := ih inner found_dir
    have there : d.node? path = some .directory := by
      by_cases here : init = []
      · simpa [here] using directory
      · exact above here
    exact ⟨path, found_r, by simp, fun _ => there⟩

/-- Above a file something exists. -/
theorem isPresent_of_isFile_below (given : (f.placeOf r).path ≠ .text "")
    (segments : ∀ n ∈ names, IsSegment n) (file : d.isFile (f.placeOf (r.below names)) = true) :
    d.isPresent (f.placeOf r) = true := by
  obtain ⟨n, stat⟩ := Disk.isFile_iff.1 file
  by_cases here : names = []
  · rw [here] at stat
    exact Disk.isPresent_iff.2 ⟨_, stat⟩
  · obtain ⟨last, found, _⟩ := Disk.stat_eq_file_iff.1 stat
    obtain ⟨path, found_r, _, above⟩ := exists_of_locate_below given segments found
    exact Disk.isPresent_iff.2 ⟨_, Disk.stat_eq_directory_iff.2 ⟨path, found_r, above here⟩⟩

/-- What is in the tree beneath a resource is found there, if the path to it is taken. -/
theorem locate_below (given : (f.placeOf r).path ≠ .text "") (tree : d.IsTreeAt path)
    (found : d.locate (f.placeOf r) = .ok path) (named : ∀ n ∈ names, IsFileName n)
    (there : (d.node? (path ++ names.map .text)).isSome)
    (accepted : (f.placeOf (r.below names)).IsAccepted) :
    d.locate (f.placeOf (r.below names)) = .ok (path ++ names.map .text) := by
  induction names using List.reverseRecOn with
  | nil => simpa using found
  | append_singleton init n ih =>
    have inner : ∀ s ∈ init, IsFileName s := fun s mem => named s (List.mem_append_left _ mem)
    have last : IsFileName n := named n (by simp)
    have split : path ++ (init ++ [n]).map .text = path ++ init.map .text ++ [.text n] := by simp
    rw [split] at there ⊢
    rw [Resource.below_concat] at accepted ⊢
    have directory := tree.closed _ _ there
    have accepted_init := isAccepted_of_child
      (path_below_ne given fun s mem => (inner s mem).1) last.1 accepted
    have found_init := ih inner (by simp [directory]) accepted_init
    exact locate_child found_init directory last accepted

end Files
end ArtifactCache
