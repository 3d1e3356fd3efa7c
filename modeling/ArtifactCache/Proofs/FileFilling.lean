import ArtifactCache.Proofs.FileDeals
import ArtifactCache.Proofs.Filling

/-!
Filling on disk. Climbing up from a resource one meets only places whose steps come
first on its own way (`Place.IsTidy.steps_le`). So the directories that are made for a
file are between the home of the store and the file, as long as the root stands
(`Files.makes_withParent`), and a file that is deleted again leaves at most these
behind (`Files.fills`).
-/
namespace ArtifactCache

namespace Place
variable {p q : Place}

/-- The steps of the parent come first. -/
theorem IsTidy.parent (tidy : p.IsTidy) (parent : p.parent? = some q) :
    q.IsTidy ∧ q.steps <+: p.steps.dropLast := by
  have some_left : p.steps ≠ [] := by
    intro none_left
    obtain ⟨s, base, tidied⟩ := tidy.base
    have unnamed : p.below = [] := by
      refine List.eq_nil_iff_forall_not_mem.2 fun name mem => ?_
      have step : PathText.text name ∈ p.steps :=
        List.mem_append_right _ (List.mem_map_of_mem (List.mem_filter.2
          ⟨mem, by simpa using tidy.named name mem⟩))
      simp [none_left] at step
    have nameless : stepsOf (.text s) = [] := by simpa [steps, base, unnamed] using none_left
    rw [parent?, unnamed, base] at parent
    obtain ⟨_, found, _⟩ := Option.map_eq_some_iff.1 parent
    obtain ⟨_, above, _⟩ := Option.map_eq_some_iff.1 found
    have same : PathText.tidyList '/' '.' s.toList = s.toList := by
      rw [← congrArg String.toList (PathText.text.inj (tidied unnamed)), String.toList_ofList]
      exact PathText.tidyList_tidyList _
    obtain ⟨k, last, names⟩ := PathText.namesOf_of_parentList? (by decide) same above
    rw [stepsOf_text, names] at nameless
    simp at nameless
  obtain ⟨q', k, last, parent', tidy', _, _, chain⟩ := exists_parent tidy some_left
  obtain rfl := Option.some.inj (parent.symm.trans parent')
  refine ⟨tidy', ?_⟩
  rw [chain, List.dropLast_concat]
  exact List.prefix_append _ _

/-- So do those of all places above. -/
theorem IsTidy.steps_le {n : Nat} (tidy : p.IsTidy) (mem : q ∈ p.upward n) :
    q.steps <+: p.steps := by
  induction n generalizing p with
  | zero => exact List.mem_singleton.1 mem ▸ List.prefix_rfl
  | succ n ih =>
    obtain rfl | mem := List.mem_cons.1 mem
    · exact List.prefix_rfl
    cases parent : p.parent? with
    | none => simp [parent] at mem
    | some above =>
      rw [parent] at mem
      obtain ⟨tidy', le⟩ := tidy.parent parent
      exact (ih tidy' mem).trans (le.trans (List.dropLast_prefix _))

end Place

namespace Disk
variable {d d' : Disk} {p : Place} {path way : List PathText}

/-- All that has come or gone is on the way. -/
def Makes (way : List PathText) (d d' : Disk) : Prop :=
  ∀ path, d'.node? path = d.node? path ∨ path <+: way

theorem Makes.refl (way : List PathText) (d : Disk) : Makes way d d := fun _ => .inl rfl

/-- Once there is a directory where a place is, all steps to it can be followed. -/
theorem follow_setNode (found : d.locate p = .ok path) (empty : d.node? path = none) :
    (d.setNode path .directory).follow (d.start p) p.steps = .ok path := by
  have passable := (grows_setNode empty).passable
  obtain ⟨_, dir, ends, last⟩ := locate_eq_ok_iff.1 found
  obtain none_left | ⟨init, name, steps⟩ := List.eq_nil_or_concat p.steps
  · rw [none_left] at ends last ⊢
    obtain rfl : path = dir := last
    exact ends
  · rw [List.concat_eq_append] at steps
    rw [steps, List.getLast?_concat] at last
    rw [steps, List.dropLast_concat] at ends
    have there : (d.setNode path .directory).node? path = some .directory := by
      rw [node?_setNode _ _ _ _ (ne_nil_of_node?_eq_none empty), if_pos rfl]
    rw [steps]
    exact follow_append_eq_ok_iff.2
      ⟨dir, passable.follow ends, follow_cons_eq_ok_iff.2 ⟨path, last, there, rfl⟩⟩

theorem Makes.makeDirectory {d₀ : Disk} (makes : Makes way d₀ d)
    (le : ∀ path, d.locate p = .ok path → d.node? path = none → path <+: way) :
    Makes way d₀ (d.makeDirectory p).2 := by
  unfold Disk.makeDirectory
  split
  · exact makes
  next path found =>
  split
  · exact makes
  · next empty =>
    have empty : d.node? path = none := by simpa using empty
    intro other
    rw [node?_setNode _ _ _ _ (ne_nil_of_node?_eq_none empty)]
    split
    · next here => exact .inr (here ▸ le path found empty)
    · exact makes other

end Disk

namespace Files
variable {f : Files} {home : List PathText} {d d' : Disk} {r q : Resource} {p : Place}

theorem trail_ne_nil_of_named (named : r.location.uri ≠ "") : r.trail ≠ [] := by
  simp [Resource.trail_of_named named]

theorem isTidy_placeOf (named : r.location.uri ≠ "") : (f.placeOf r).IsTidy where
  base := ⟨f.root, rfl, nofun⟩
  named name mem := by
    obtain rfl | segment := List.mem_cons.1 mem
    · exact Location.directoryName_ne_empty named
    · exact (r.path.named name segment).1

/-- Where nothing is at a place on the way to a resource, the place is below the home. -/
theorem path_le_of_steps_le (stands : f.StandsAt home d) (sound : f.Sound d)
    (begins : d.start p = d.start { base := .text f.root })
    (le : p.steps <+: (f.placeOf r).steps.dropLast) (below : r.trail ≠ []) {path : List PathText}
    (found : d.locate p = .ok path) (empty : d.node? path = none) :
    path <+: home ++ r.trail.dropLast := by
  obtain ⟨up, down, dir, root, forward, leads, there, rfl⟩ := stands
  have down_trail : ∀ name ∈ r.trail.dropLast, name.IsDown :=
    fun _ mem => Resource.isDown_of_mem_dropLast mem
  have whole : (f.placeOf r).steps.dropLast = up ++ (down ++ r.trail.dropLast) := by
    rw [steps_placeOf, root, List.dropLast_append_of_ne_nil below, List.append_assoc]
  have follows := Disk.follow_setNode found empty
  have passable := (Disk.grows_setNode empty).passable
  rw [whole] at le
  rw [← moves_trail dir down down_trail]
  obtain ⟨rest, split⟩ | ⟨more, steps⟩ :=
    List.prefix_or_prefix_of_prefix le (List.prefix_append up _)
  · -- The place is passed on the way to the root, so there is a directory.
    rw [← split, Disk.follow_append_eq_ok_iff] at leads
    obtain ⟨mid, leads, _⟩ := leads
    have directory := Disk.node?_of_follow (sound.start rfl) leads
    have same := passable.follow leads
    rw [← begins, follows] at same
    obtain rfl := Except.ok.inj same
    cases empty.symm.trans directory
  · rw [← steps, List.prefix_append_right_inj] at le
    rw [← steps, begins, Disk.follow_append, passable.follow leads] at follows
    have forward_way := PathText.forward_append forward down_trail
    rw [Disk.eq_of_follow_forward (fun name mem => forward_way name (le.mem mem)) follows]
    obtain ⟨rest, split⟩ := le
    exact split ▸ Disk.moves_le dir more rest

/-- Directories were made on the way to the resource, and the root still stands. -/
structure Paved (f : Files) (home : List PathText) (r : Resource) (d d' : Disk) : Prop where
  sound : f.Sound d'
  stands : f.StandsAt home d'
  makes : Disk.Makes (home ++ r.trail.dropLast) d d'

theorem Paved.makeDirectory {d₁ : Disk} (paved : f.Paved home r d d₁) (below : r.trail ≠ [])
    (absolute : p.isAbsolute = (PathText.text f.root).isAbsolute)
    (le : p.steps <+: (f.placeOf r).steps.dropLast) :
    f.Paved home r d (d₁.makeDirectory p).2 where
  sound := paved.sound.makeDirectory absolute
  stands := paved.stands.passable (Disk.grows_makeDirectory p d₁).passable
  makes := paved.makes.makeDirectory fun path found empty => by
    have start : d₁.start p = d₁.start { base := .text f.root } := by
      simp only [Disk.start, absolute]
      rfl
    exact path_le_of_steps_le paved.stands paved.sound start le below found empty

/-- **Only directories on the way are made.** What goes on below a directory does so on
a disk with the same files. -/
theorem makes_withParent {α : Type} (standing : f.Standing home d) (named : r.location.uri ≠ "")
    (activity : Activity) :
    ∃ d₁, f.Standing home d₁ ∧ f.numbering.Alike d d₁ ∧
      Disk.Makes (home ++ r.trail.dropLast) d d₁ ∧
      ((∃ e, ∀ go : Disk → Except Failure α × Disk,
          withParent activity (f.placeOf r) d go = (.error e, d₁)) ∨
        ∀ go : Disk → Except Failure α × Disk,
          withParent activity (f.placeOf r) d go = go d₁) := by
  unfold withParent
  split
  · exact ⟨d, standing, .refl d, .refl _ d, .inr fun _ => rfl⟩
  next above parent =>
  split
  · exact ⟨d, standing, .refl d, .refl _ d, .inr fun _ => rfl⟩
  obtain ⟨tidy, le⟩ := (isTidy_placeOf named).parent parent
  have begins := Place.begins_of_parent? ⟨f.root, rfl, rfl⟩ parent
  have below := trail_ne_nil_of_named named
  have paved : f.Paved home r d (d.makeDirectories above).2 := by
    refine Disk.makeFirst_keeps (fun p mem d₁ paved => ?_)
      ⟨standing.sound, standing.stands, .refl _ d⟩
    obtain ⟨_, _, absolute⟩ := Place.begins_of_mem_upward begins mem
    exact paved.makeDirectory below absolute ((tidy.steps_le mem).trans le)
  have grows := Disk.grows_makeDirectories above d
  generalize d.makeDirectories above = outcome at grows paved ⊢
  obtain ⟨sound, _, makes⟩ := paved
  obtain ⟨standing₁, alike⟩ := standing_grows standing grows sound
  obtain ⟨_ | _, d₁⟩ := outcome
  · exact ⟨d₁, standing₁, alike, makes, .inl ⟨_, fun _ => rfl⟩⟩
  · exact ⟨d₁, standing₁, alike, makes, .inr fun _ => rfl⟩

/-- What is at a place depends on its node alone. -/
theorem isPresent_congr (standing : f.Standing home d) (standing' : f.Standing home d')
    (below : q.trail ≠ []) (same : d'.node? (home ++ q.trail) = d.node? (home ++ q.trail)) :
    d'.isPresent (f.placeOf q) = d.isPresent (f.placeOf q) := by
  apply Bool.eq_iff_iff.2
  simp only [Disk.isPresent_iff, stat_eq_ok_iff standing.stands standing.sound.closed below,
    stat_eq_ok_iff standing'.stands standing'.sound.closed below, same]

/-- New directories on the way are above the resource. -/
theorem present_of_makes (standing : f.Standing home d) (standing' : f.Standing home d')
    (named : r.location.uri ≠ "") (makes : Disk.Makes (home ++ r.trail.dropLast) d d')
    (named' : q.location.uri ≠ "") (apart : q.address.isAbove r.address = false) :
    f.backend.present q d' = f.backend.present q d := by
  refine isPresent_congr standing standing' (trail_ne_nil_of_named named') ?_
  obtain same | le := makes (home ++ q.trail)
  · exact same
  rw [List.prefix_append_right_inj] at le
  have ne : q.trail ≠ r.trail := by
    intro same
    have shorter := le.length_le
    have below := List.length_pos_iff.2 (trail_ne_nil_of_named named)
    rw [same, List.length_dropLast] at shorter
    omega
  have above := Resource.isAbove_of_trail_le named' named (le.trans (List.dropLast_prefix _)) ne
  cases apart.symm.trans above

/-! ## Writing and deleting -/

/-- What every delivery of a writer keeps, writing a file keeps. -/
theorem pour_keeps {Q : Disk → Prop} (keeps : ∀ n bytes d, Q d → Q (d.setBody n bytes))
    (w : Disk.Writer) (parts : List Part) (here : Q d) : Q (f.backend.pour w parts d) := by
  induction parts generalizing w d with
  | nil => exact w.keeps_flush (fun d bytes => keeps w.body bytes d) here
  | cons part rest ih =>
    cases part with
    | write bytes =>
      exact ih _ (w.keeps_write (fun d bytes => keeps w.body bytes d) bytes here)
    | flush => exact ih _ (w.keeps_flush (fun d bytes => keeps w.body bytes d) here)

theorem standing_pour (standing : f.Standing home d) (w : Disk.Writer) (parts : List Part) :
    f.Standing home (f.backend.pour w parts d) :=
  pour_keeps (Q := f.Standing home) (fun n bytes _ here => standing_setBody here n bytes) w parts
    standing

theorem node?_pour (w : Disk.Writer) (parts : List Part) (d : Disk) (path : List PathText) :
    (f.backend.pour w parts d).node? path = d.node? path :=
  pour_keeps (Q := fun d' => d'.node? path = d.node? path) (fun _ _ _ same => same) w parts rfl

/-- Deleting a file takes its node away. -/
theorem delete_of_isFile (standing : f.Standing home d) (file : d.isFile (f.placeOf r) = true) :
    f.delete r d = (.ok true, d.removeNode (home ++ r.trail)) ∧
      f.Standing home (d.removeNode (home ++ r.trail)) ∧
      f.numbering.Renames (SamePlace · r.address) none d (d.removeNode (home ++ r.trail)) := by
  obtain ⟨n, stat⟩ := Disk.isFile_iff.1 file
  obtain ⟨path, found, node, plain⟩ := Disk.stat_eq_file_iff.1 stat
  obtain ⟨_, rfl⟩ := standing.path_eq found plain
  refine ⟨?_, standing_removeNode standing found node plain⟩
  simp [delete, Disk.isDirectory, Disk.removeFile, stat, found]

/-- A writer is refused, or a file is created, once the directories on the way are made. -/
theorem openWriter_cases (standing : f.Standing home d) (named : r.location.uri ≠ "") :
    ∃ d₁, f.Standing home d₁ ∧ f.numbering.Alike d d₁ ∧
      Disk.Makes (home ++ r.trail.dropLast) d d₁ ∧
      ((∃ e, f.openWriter r d = (.error e, d₁)) ∨
        ∃ n d₂, d₁.create (f.placeOf r) = (.ok n, d₂) ∧
          f.openWriter r d = (.ok { body := n }, d₂)) := by
  obtain ⟨d₁, standing₁, alike, makes, outcome⟩ := makes_withParent standing named .openOutput
  refine ⟨d₁, standing₁, alike, makes, ?_⟩
  unfold openWriter
  obtain ⟨e, stopped⟩ | went := outcome
  · exact .inl ⟨e, stopped _⟩
  rcases created : d₁.create (f.placeOf r) with ⟨fault | n, d₂⟩
  · obtain rfl := same_of_create created
    exact .inl ⟨_, (went _).trans (by rw [created])⟩
  · exact .inr ⟨n, d₂, rfl, (went _).trans (by rw [created])⟩

theorem isFile_of_absent (absent : d.isPresent (f.placeOf r) = false) :
    d.isFile (f.placeOf r) = false := by
  refine Bool.not_eq_true _ |>.mp fun file => ?_
  obtain ⟨n, stat⟩ := Disk.isFile_iff.1 file
  cases absent.symm.trans (Disk.isPresent_iff.2 ⟨_, stat⟩)

/-- A writer that is granted where nothing was has made one file, and directories on
the way to it. -/
structure Grants (f : Files) (home : List PathText) (r : Resource) (k : Nat) (d d' : Disk) :
    Prop where
  standing : f.Standing home d'
  missing (a : Address) : SamePlace a r.address → f.numbering.number? a d = none
  unused : ¬ f.numbering.Used k d
  puts : f.numbering.Puts (SamePlace · r.address) k [] d d'
  makes (path : List PathText) : path ≠ home ++ r.trail →
    d'.node? path = d.node? path ∨ path <+: home ++ r.trail.dropLast
  empty : d.node? (home ++ r.trail) = none

theorem grants_openWriter {w : Disk.Writer} (standing : f.Standing home d)
    (named : r.location.uri ≠ "") (absent : d.isPresent (f.placeOf r) = false)
    (opened : f.openWriter r d = (.ok w, d')) : ∃ k, f.Grants home r k d d' := by
  obtain ⟨d₁, standing₁, alike, makes, ⟨e, stopped⟩ | ⟨n, d₂, created, went⟩⟩ :=
    openWriter_cases standing named
  · cases stopped.symm.trans opened
  obtain rfl : d₂ = d' := congrArg Prod.snd (went.symm.trans opened)
  have nothing : f.numbering.number? r.address d = none :=
    Disk.number?_eq_none_iff.2 (isFile_of_absent absent)
  obtain ⟨number, _⟩ | ⟨path, found, plain, empty, rfl, eq⟩ :=
    Disk.of_create_eq_ok (congrArg Prod.fst created)
  · cases nothing.symm.trans ((alike.number _).symm.trans number)
  obtain ⟨standing₂, puts, _⟩ := puts_create standing₁ created
  obtain ⟨reached, rfl⟩ := standing₁.path_eq found plain
  have node (path : List PathText) (other : path ≠ home ++ r.trail) :
      d₂.node? path = d₁.node? path := by
    rw [created] at eq
    rw [show d₂ = _ from eq]
    exact (Disk.node?_addFile empty path).trans (if_neg other.symm)
  refine ⟨d₁.fresh, standing₂, fun a here => (standing.number?_congr here).trans nothing,
    mt alike.used.2 standing₁.not_used_fresh, puts.after alike, fun path other => ?_, ?_⟩
  · rw [node path other]
    exact makes path
  · obtain same | le := makes (home ++ r.trail)
    · exact same.symm.trans empty
    · have shorter := le.length_le
      have below := List.length_pos_iff.2 reached.below
      simp only [List.length_append, List.length_dropLast] at shorter
      omega

theorem Grants.puts_pour {k : Nat} {w : Disk.Writer} (grants : f.Grants home r k d d')
    (standing : f.Standing home d) (opened : f.openWriter r d = (.ok w, d')) (parts : List Part) :
    f.numbering.Puts (SamePlace · r.address) k (Part.written parts) d
      (f.backend.pour w parts d') := by
  have granted := f.serves.openWriter standing.orderly (congrArg Prod.fst opened)
  rw [show (f.backend.openWriter r d).2 = d' from congrArg Prod.snd opened] at granted
  exact grants.puts.pour rfl f.serves f.rewriting parts granted.1.sound granted.2

theorem fills (f : Files) :
    f.backend.Fills (fun d => ∃ home, f.Standing home d) fun r => r.location.uri ≠ "" where
  read {r d} present := by
    obtain ⟨node, stat⟩ := Disk.isPresent_iff.1 present
    cases node <;> simp [backend, openReader, Disk.isFile, stat]
  absent := isFile_of_absent
  file r d := by
    rw [f.serves.content]
    exact isFile_eq_content? r d
  keepsFile {r d d' e} order failed := by
    obtain ⟨home, standing⟩ := order
    have grows := openWriter_of_error (congrArg Prod.fst failed)
    rw [show (f.openWriter r d).2 = d' from congrArg Prod.snd failed] at grows
    exact keeps_iff.2 (contentOf_of_grows standing.sound.closed standing.stands.stands grows r)
  refused {r d d' e} order named failed := by
    obtain ⟨home, standing⟩ := order
    obtain ⟨d₁, standing₁, alike, makes, ⟨e', stopped⟩ | ⟨n, d₂, _, went⟩⟩ :=
      openWriter_cases standing named
    · obtain rfl : d₁ = d' := congrArg Prod.snd (stopped.symm.trans failed)
      exact ⟨⟨home, standing₁⟩, fun q => keeps_iff_content.2 (alike.content q.address),
        fun q => present_of_makes standing standing₁ named makes⟩
    · cases went.symm.trans failed
  written {r d d₁ w} parts order opened := by
    obtain ⟨home, standing⟩ := order
    obtain ⟨_, content⟩ :=
      Numbering.content?_pour f.serves f.rewriting standing.orderly opened parts
    have standing₁ : f.Standing home d₁ := by
      have told : f.Tells home (.flush 0) d (f.openWriter r d).2 := tells_openWriter standing r
      rw [show (f.openWriter r d).2 = d₁ from congrArg Prod.snd opened] at told
      exact told.1
    exact ⟨⟨home, standing_pour standing₁ w parts⟩, (f.serves.content _ _).trans content⟩
  spared {r q d d₁ w} parts order named named' other absent opened := by
    obtain ⟨home, standing⟩ := order
    obtain ⟨k, grants⟩ := grants_openWriter standing named absent opened
    have puts := grants.puts_pour standing opened parts
    refine keeps_iff_content.2 (puts.content_of_ne ?_ fun used => grants.unused ⟨_, used⟩)
    exact fun same => not_samePlace_iff.2 (apart_of_named (f := f) named named' other) same.symm
  cleared {r d d₁ w} parts order named absent opened := by
    obtain ⟨home, standing⟩ := order
    obtain ⟨k, grants⟩ := grants_openWriter standing named absent opened
    have puts := grants.puts_pour standing opened parts
    have standing₂ := standing_pour grants.standing w parts
    have node := node?_pour (f := f) w parts d₁
    generalize f.backend.pour w parts d₁ = d₂ at puts standing₂ node
    have file : d₂.isFile (f.placeOf r) = true :=
      Disk.isFile_iff.2 ⟨k, Disk.number?_eq_some_iff.1 (puts.renames.here r.address rfl)⟩
    obtain ⟨deleted, standing₃, gone⟩ := delete_of_isFile standing₂ file
    simp only [backend, deleted]
    have undone := puts.undone grants.missing grants.unused gone fun _ => rfl
    refine ⟨⟨home, standing₃⟩, fun q => keeps_iff_content.2 (undone q.address).2, fun q => ?_⟩
    refine present_of_makes standing standing₃ named fun path => ?_
    by_cases here : path = home ++ r.trail
    · subst here
      have some_below := trail_ne_nil_of_named named
      exact .inl (by simp [Disk.node?_removeNode, grants.empty, some_below])
    · rw [Disk.node?_removeNode, if_neg fun same => here same.2.symm, node]
      exact grants.makes path here

/-- It fills so in every state that it can be in, as long as its root stands. -/
theorem fills_after {b : Backend Disk Disk.Reader Disk.Writer} {calls : List Call}
    (inside : b = f.backend) (closed : d.Closed) (numbered : d.Numbered) (rooted : f.Rooted d calls)
    (reached : d' = (Usage.after b d calls).store) :
    (b.Fills (fun d => ∃ home, f.Standing home d) fun r => r.location.uri ≠ "") ∧
      ∃ home, f.Standing home d' := by
  subst inside reached
  obtain ⟨home, standing, _⟩ := standing_after closed numbered rooted
  exact ⟨f.fills, home, standing⟩

end Files
end ArtifactCache
