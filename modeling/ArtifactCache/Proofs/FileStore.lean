import ArtifactCache.Proofs.FilePlaces
import ArtifactCache.Proofs.Growth
import ArtifactCache.Proofs.Usage

/-!
The store on disk: where its files are, and what its calls do to them.
-/
namespace ArtifactCache

namespace Disk

/-- Names that lead down do so from any directory. -/
theorem step_of_down {name : PathText} {dir next : List PathText} (down : name.IsDown)
    (stepped : step dir name = .ok next) : next = dir ++ [name] := by
  unfold step at stepped
  rw [if_neg down.1, if_neg down.2] at stepped
  split at stepped
  · cases stepped
  · exact (Except.ok.inj stepped).symm

theorem follow_of_down {d : Disk} {dir way last : List PathText} (down : ∀ name ∈ way, name.IsDown)
    (ends : d.follow dir way = .ok last) : last = dir ++ way := by
  induction way generalizing dir with
  | nil => simpa using (Except.ok.inj ends).symm
  | cons name rest ih =>
    obtain ⟨next, stepped, _, ends⟩ := follow_cons_eq_ok_iff.1 ends
    have further := ih (fun n mem => down n (List.mem_cons_of_mem _ mem)) ends
    rw [further, step_of_down (down name List.mem_cons_self) stepped, List.append_assoc]
    rfl

end Disk

namespace Files
variable {f : Files} {d d' : Disk} {r q : Resource}

/-! ## The directory above a file -/

/-- The names in front of the last one, without empty names at their end. -/
theorem parent?_placeOf {names : List String} {last : String} (named : last ≠ "")
    (eq : Location.directoryName r.location.uri :: r.path.segments = names ++ [last]) :
    (f.placeOf r).parent? = match names.reverse.dropWhile (· = "") with
      | [] => some { base := (PathText.text f.root).tidy }
      | above => some { f.placeOf r with below := above.reverse } := by
  have reversed : (f.placeOf r).below.reverse.dropWhile (· = "") = last :: names.reverse := by
    simp [placeOf, eq, named]
  unfold Place.parent?
  rw [reversed]
  rfl

/-- The operating system takes the beginning of a path if it takes the path. -/
theorem isAccepted_of_prefix_path {p above : Place} (accepted : p.IsAccepted) {s t : String}
    (path : p.path = .text s) (path_above : above.path = .text t) (le : t.toList <+: s.toList)
    (named : t ≠ "") : above.IsAccepted where
  noNul := by
    have noNul := accepted.noNul
    rw [path, PathText.hasNul, List.contains_eq_mem, decide_eq_false_iff_not] at noNul
    rw [path_above, PathText.hasNul, List.contains_eq_mem, decide_eq_false_iff_not]
    exact fun nul => noNul (le.mem nul)
  notEmpty := by simpa [path_above, PathText.size] using named
  short := by
    have short := accepted.short
    rw [path] at short
    rw [path_above]
    exact Nat.le_trans (PathText.size_le_of_prefix_text le) short

/-- A path that is not empty leads to a directory if its way can be followed. -/
theorem node?_of_follow_text {t : String} {dir : List PathText} (named : t ≠ "")
    (ends : d.follow (d.start { base := .text t }) (Place.stepsOf (.text t)) = .ok dir) :
    d.node? dir = some .directory := by
  cases names : Place.stepsOf (.text t) with
  | cons name rest =>
    rw [names] at ends
    exact Disk.node?_of_follow_cons ends
  | nil =>
    have nameless : PathText.namesOf '/' t.toList = [] := by
      simpa [Place.stepsOf_text] using names
    have slash := PathText.head?_of_namesOf_eq_nil nameless (by simpa using named)
    have top : d.start { base := .text t } = [] := by
      simp [Disk.start, Place.isAbsolute, PathText.isAbsolute, slash]
    rw [names, top] at ends
    obtain rfl : [] = dir := Except.ok.inj ends
    rfl

/-- What is left of the root when its end is tidied is a directory, if the root
leads somewhere. -/
theorem isDirectory_of_tidy {p : Place} {dir : List PathText} {s t : String}
    (tidy : (PathText.text f.root).tidy = .text t) (named : t ≠ "") (accepted : p.IsAccepted)
    (path : p.path = .text s) (le : f.root.toList <+: s.toList)
    (ends : d.follow (d.start { base := .text f.root }) (Place.stepsOf (.text f.root)) = .ok dir) :
    d.isDirectory { base := .text t } = true := by
  have letters : t.toList = PathText.tidyList '/' '.' f.root.toList := by
    rw [← PathText.text.inj tidy]
    exact String.toList_ofList
  have start : t.toList <+: f.root.toList := letters ▸ PathText.tidyList_prefix_self _
  have begins : d.start { base := .text f.root } = d.start { base := .text t } := by
    simp [Disk.start, Place.isAbsolute, PathText.isAbsolute, letters, PathText.head?_tidyList]
  obtain ⟨k, steps⟩ := Place.stepsOf_tidy f.root
  rw [tidy] at steps
  rw [begins, steps, Disk.follow_append_eq_ok_iff] at ends
  obtain ⟨mid, ends, _⟩ := ends
  refine Disk.isDirectory_of_follow
    (isAccepted_of_prefix_path accepted path rfl (start.trans le) named) ?_
    (node?_of_follow_text named ends)
  simpa [Place.steps] using ends

/-- Nothing has to be made above what lies directly below the root. -/
theorem withParent_of_root {α : Type} (activity : Activity) {p : Place}
    {go : Disk → Except Failure α × Disk} {dir : List PathText} {s : String}
    (parent : p.parent? = some { base := (PathText.text f.root).tidy })
    (accepted : p.IsAccepted) (path : p.path = .text s) (le : f.root.toList <+: s.toList)
    (ends : d.follow (d.start { base := .text f.root }) (Place.stepsOf (.text f.root)) = .ok dir) :
    withParent activity p d go = go d := by
  obtain ⟨t, tidy⟩ : ∃ t, (PathText.text f.root).tidy = .text t := ⟨_, rfl⟩
  rw [tidy] at parent
  simp only [withParent, parent]
  by_cases empty : t = ""
  · -- The directory where relative paths begin is not looked for.
    subst empty
    have made : d.makeDirectories { base := .text "" } = (.ok (), d) := rfl
    split
    · rfl
    · rw [made]
  · rw [if_pos (isDirectory_of_tidy tidy empty accepted path le ends)]

/-- The names in front of the last one are those of the parent, and empty ones. -/
theorem split_names {names higher : List String} {name : String}
    (kept : names.reverse.dropWhile (· = "") = name :: higher) :
    name ≠ "" ∧ ∃ empty, names = (higher.reverse ++ [name]) ++ empty ∧
      empty.filter (· ≠ "") = [] := by
  constructor
  · have head := List.head?_dropWhile_not (· = "") names.reverse
    simpa [kept] using head
  · refine ⟨(names.reverse.takeWhile (· = "")).reverse, ?_, ?_⟩
    · rw [← List.reverse_cons, ← kept, ← List.reverse_append, List.takeWhile_append_dropWhile,
        List.reverse_reverse]
    · rw [List.filter_eq_nil_iff]
      intro s mem
      simpa using List.mem_takeWhile_imp (List.mem_reverse.1 mem)

/-- Nothing has to be made above what lies deeper. -/
theorem withParent_of_names {α : Type} (activity : Activity) {go : Disk → Except Failure α × Disk}
    {names higher : List String} {last name : String} {dir : List PathText}
    (eq : Location.directoryName r.location.uri :: r.path.segments = names ++ [last])
    (named : last ≠ "") (kept : names.reverse.dropWhile (· = "") = name :: higher)
    (accepted : (f.placeOf r).IsAccepted)
    (ends : d.follow (d.start (f.placeOf r))
      (Place.stepsOf f.root ++ (names.filter (· ≠ "")).map .text) = .ok dir) :
    withParent activity (f.placeOf r) d go = go d := by
  obtain ⟨named_higher, empty, split, none_left⟩ := split_names kept
  let above : Place := { f.placeOf r with below := (name :: higher).reverse }
  have parent : (f.placeOf r).parent? = some above := by
    rw [parent?_placeOf named eq, kept]
  have text : (f.placeOf r).path = .text (PathText.pushNames f.root (names ++ [last])) :=
    eq ▸ path_placeOf f r
  have text_above : above.path =
      .text (PathText.pushNames f.root (higher.reverse ++ [name])) := by
    rw [← List.reverse_cons]
    exact PathText.foldl_push _ _
  have le : (PathText.pushNames f.root (higher.reverse ++ [name])).toList <+:
      (PathText.pushNames f.root (names ++ [last])).toList := by
    rw [split, List.append_assoc]
    exact PathText.pushNames_prefix_append _ _ _
  have ends_named := PathText.getLast?_pushNames f.root higher.reverse named_higher
  have accepted_above : above.IsAccepted := by
    refine isAccepted_of_prefix_path accepted text text_above le fun nothing => ?_
    rw [nothing, eq_comm] at ends_named
    simp [named_higher] at ends_named
  have steps_above : above.steps =
      Place.stepsOf f.root ++ ((higher.reverse ++ [name]).filter (· ≠ "")).map .text := by
    simp [above, Place.steps, placeOf]
  rw [split, List.filter_append, none_left, List.append_nil, ← steps_above] at ends
  obtain ⟨first, rest, some_steps⟩ : ∃ first rest, above.steps = first :: rest := by
    refine List.exists_cons_of_ne_nil ?_
    simp [steps_above, named_higher]
  have there : d.node? dir = some .directory := by
    rw [some_steps] at ends
    exact Disk.node?_of_follow_cons ends
  simp only [withParent, parent, if_pos (Disk.isDirectory_of_follow accepted_above ends there)]

/-- Nothing has to be made above a file. -/
theorem withParent_of_isFile {α : Type} (activity : Activity)
    {go : Disk → Except Failure α × Disk} (file : d.isFile (f.placeOf r) = true) :
    withParent activity (f.placeOf r) d go = go d := by
  obtain ⟨n, stat⟩ := Disk.isFile_iff.1 file
  obtain ⟨path, found, _⟩ := Disk.stat_eq_file_iff.1 stat
  obtain ⟨accepted, dir, ends, _⟩ := Disk.locate_eq_ok_iff.1 found
  obtain ⟨names, last, eq, named, _⟩ := r.exists_last (trail_ne_nil_of_isFile file)
  have steps : (f.placeOf r).steps.dropLast =
      Place.stepsOf f.root ++ (names.filter (· ≠ "")).map .text := by
    rw [steps_placeOf, Resource.trail, eq]
    simp [List.filter_append, named, ← List.append_assoc]
  rw [steps] at ends
  cases kept : names.reverse.dropWhile (· = "") with
  | cons name higher => exact withParent_of_names activity eq named kept accepted ends
  | nil =>
    have parent := parent?_placeOf (f := f) named eq
    rw [kept] at parent
    have empty : names.filter (· ≠ "") = [] := by
      rw [List.filter_eq_nil_iff]
      intro name mem
      simpa using List.dropWhile_eq_nil_iff.1 kept name (List.mem_reverse.2 mem)
    rw [empty, List.map_nil, List.append_nil] at ends
    have text : (f.placeOf r).path = .text (PathText.pushNames f.root (names ++ [last])) :=
      eq ▸ path_placeOf f r
    exact withParent_of_root activity parent accepted text
      (PathText.pushNames_prefix_append f.root [] (names ++ [last])) ends

/-! ## Places and trails -/

/-- A place below the root is where the root is, and down along the trail. -/
theorem locate_placeOf {path : List PathText} (below : r.trail ≠ [])
    (found : d.locate (f.placeOf r) = .ok path) :
    ∃ dir, d.follow (d.start { base := .text f.root }) (Place.stepsOf (.text f.root)) = .ok dir ∧
      path = dir ++ r.trail := by
  obtain none_left | ⟨init, last, trail⟩ := List.eq_nil_or_concat r.trail
  · exact absurd none_left below
  rw [List.concat_eq_append] at trail
  have down : ∀ name ∈ init ++ [last], name.IsDown :=
    fun name mem => Resource.isDown_of_mem_trail (trail ▸ mem)
  obtain ⟨_, mid, ends, stepped⟩ := Disk.locate_eq_ok_iff.1 found
  rw [steps_placeOf, trail, ← List.append_assoc] at ends stepped
  rw [List.dropLast_concat, Disk.follow_append_eq_ok_iff] at ends
  rw [List.getLast?_concat] at stepped
  obtain ⟨dir, root, ends⟩ := ends
  refine ⟨dir, root, ?_⟩
  rw [Disk.step_of_down (down last (by simp)) stepped,
    Disk.follow_of_down (fun name mem => down name (List.mem_append_left _ mem)) ends, trail,
    List.append_assoc]

theorem names_placeOf (f : Files) (r : Resource) :
    (f.placeOf r).names = (Place.stepsOf (.text f.root)).filter (· ≠ .text ".") ++ r.trail := by
  rw [Place.names, steps_placeOf, List.filter_append]
  congr 1
  exact List.filter_eq_self.2 fun name mem => by simpa using (Resource.isDown_of_mem_trail mem).1

/-- Two resources are at one place when their trails are equal. -/
theorem same_iff : (f.placeOf r).same (f.placeOf q) = true ↔ r.trail = q.trail := by
  have absolute : (f.placeOf r).isAbsolute = (f.placeOf q).isAbsolute := rfl
  simp [Place.same, absolute, names_placeOf]

/-- Only resources at one place can be found at one path. -/
theorem same_of_located {path : List PathText} (below : r.trail ≠ []) (below' : q.trail ≠ [])
    (found : d.locate (f.placeOf r) = .ok path) (found' : d.locate (f.placeOf q) = .ok path) :
    (f.placeOf r).same (f.placeOf q) = true := by
  obtain ⟨dir, root, rfl⟩ := locate_placeOf below found
  obtain ⟨dir', root', eq⟩ := locate_placeOf below' found'
  obtain rfl : dir = dir' := Except.ok.inj (root.symm.trans root')
  exact same_iff.2 (List.append_cancel_left eq)

/-- A path has no more names than the trail below the root. -/
theorem path_placeOf_of_trail (below : r.trail ≠ []) :
    ∃ names, r.trail = names.map .text ∧
      (f.placeOf r).path = .text (PathText.pushNames f.root names) := by
  have named : r.path.segments.filter (fun s => !decide (s = "")) = r.path.segments :=
    List.filter_eq_self.2 fun s mem => by simpa using (r.path.named s mem).1
  rw [path_placeOf]
  by_cases top : Location.directoryName r.location.uri = ""
  · refine ⟨r.path.segments, by simp [Resource.trail, top, named], ?_⟩
    cases segments : r.path.segments with
    | nil => exact absurd (by simp [Resource.trail, top, segments]) below
    | cons s rest => simp [top, PathText.pushNames, PathText.pushName_empty_left]
  · exact ⟨_ :: r.path.segments, by simp [Resource.trail, top, named], rfl⟩

/-- At one place there is one thing. -/
theorem stat_congr (same : (f.placeOf r).same (f.placeOf q) = true) (below : r.trail ≠ []) :
    d.stat (f.placeOf r) = d.stat (f.placeOf q) := by
  have trails := same_iff.1 same
  have path : (f.placeOf r).path = (f.placeOf q).path := by
    obtain ⟨names, eq, path⟩ := path_placeOf_of_trail (f := f) below
    obtain ⟨names', eq', path'⟩ := path_placeOf_of_trail (f := f) (trails ▸ below)
    have texts : names.map PathText.text = names'.map PathText.text := by rw [← eq, ← eq', trails]
    rw [path, path', (List.map_inj_right fun _ _ => PathText.text.inj).1 texts]
  have steps : (f.placeOf r).steps = (f.placeOf q).steps := by
    rw [steps_placeOf, steps_placeOf, trails]
  have absolute : (f.placeOf r).isAbsolute = (f.placeOf q).isAbsolute := rfl
  have located : d.locate (f.placeOf r) = d.locate (f.placeOf q) := by
    simp only [Disk.locate, Disk.above, path, steps, absolute]
  have wants : (f.placeOf r).wantsDirectory = (f.placeOf q).wantsDirectory := by
    rw [Place.wantsDirectory, Place.wantsDirectory, path]
  cases found : d.locate (f.placeOf q) with
  | error fault => rw [Disk.stat_of_error (located.trans found), Disk.stat_of_error found]
  | ok path => rw [Disk.stat_of_locate (located.trans found), Disk.stat_of_locate found, wants]

/-! ## A root that stands -/

/-- The way to the root leads through directories as far as it leads up. What
is behind its last `..` need not be there. -/
def Stands (f : Files) (d : Disk) : Prop :=
  ∃ up down dir, Place.stepsOf (.text f.root) = up ++ down ∧ (∀ name ∈ down, name ≠ .text "..") ∧
    d.follow (d.start { base := .text f.root }) up = .ok dir ∧ d.node? dir = some .directory

/-- A root without `..` stands if the way to it begins at a directory. -/
theorem stands_of_forward (forward : ∀ name ∈ Place.stepsOf (.text f.root), name ≠ .text "..")
    (begins : d.node? (d.start { base := .text f.root }) = some .directory) : f.Stands d :=
  ⟨[], Place.stepsOf (.text f.root), _, rfl, forward, rfl, begins⟩

/-- New directories let no file appear at the place of a resource. -/
theorem stat_file_of_grows (closed : d.Closed) (stands : f.Stands d) (grows : Disk.Grows d d')
    {n : Nat} (file : d'.stat (f.placeOf r) = .ok (.file n)) :
    d.stat (f.placeOf r) = .ok (.file n) := by
  have below := trail_ne_nil_of_isFile (Disk.isFile_iff.2 ⟨n, file⟩)
  obtain ⟨path, found, node, plain⟩ := Disk.stat_eq_file_iff.1 file
  have there := grows.file_back node
  refine Disk.stat_eq_file_iff.2 ⟨path, ?_, there, plain⟩
  obtain none_left | ⟨init, last, trail⟩ := List.eq_nil_or_concat r.trail
  · exact absurd none_left below
  rw [List.concat_eq_append] at trail
  obtain ⟨up, down, dir, root, forward, way, _⟩ := stands
  have steps : (f.placeOf r).steps = up ++ ((down ++ init) ++ [last]) := by
    rw [steps_placeOf, root, trail]
    simp
  have forward' := PathText.forward_append forward fun name (mem : name ∈ init) =>
    Resource.isDown_of_mem_trail (trail ▸ List.mem_append_left [last] mem)
  have last_down : last.IsDown :=
    Resource.isDown_of_mem_trail (trail ▸ List.mem_append_right init (List.mem_singleton_self last))
  obtain ⟨accepted, mid, ends, stepped⟩ := Disk.locate_eq_ok_iff.1 found
  rw [steps, ← List.append_assoc, List.getLast?_concat] at stepped
  rw [steps, ← List.append_assoc, List.dropLast_concat, Disk.follow_append_eq_ok_iff] at ends
  obtain ⟨dir', way', ends⟩ := ends
  have begins : d'.start (f.placeOf r) = d.start { base := .text f.root } := grows.passable.start _
  rw [begins, grows.passable.follow way] at way'
  obtain rfl := Except.ok.inj way'
  obtain rfl : path = mid ++ [last] := Disk.step_of_down last_down stepped
  rw [Disk.locate_eq_ok_iff, steps, ← List.append_assoc, List.dropLast_concat, List.getLast?_concat]
  exact ⟨accepted, mid, Disk.follow_append_eq_ok_iff.2
    ⟨dir, way, closed.follow_of_beneath there forward' ends⟩, stepped⟩

theorem contentOf_of_grows (closed : d.Closed) (stands : f.Stands d) (grows : Disk.Grows d d')
    (r : Resource) : d'.contentOf (f.placeOf r) = d.contentOf (f.placeOf r) := by
  cases file : d'.isFile (f.placeOf r) with
  | true =>
    obtain ⟨n, stat⟩ := Disk.isFile_iff.1 file
    rw [Disk.contentOf_of_file stat, grows.body,
      Disk.contentOf_of_file (stat_file_of_grows closed stands grows stat)]
  | false =>
    rw [Disk.contentOf_eq_none_iff.2 file, eq_comm, Disk.contentOf_eq_none_iff]
    refine Bool.not_eq_true _ |>.mp fun before => ?_
    obtain ⟨n, stat⟩ := Disk.isFile_iff.1 before
    rw [Disk.isFile_iff.2 ⟨n, grows.stat_file stat⟩] at file
    cases file

/-! ## Parts of the calls -/

section
variable {α : Type} {activity : Activity} {p : Place} {go : Disk → Except Failure α × Disk}

/-- What is made above a place are directories, whether or not it is enough. -/
theorem withParent_cases (activity : Activity) (p : Place) (d : Disk)
    (go : Disk → Except Failure α × Disk) :
    ∃ d₁, Disk.Grows d d₁ ∧ ((∃ e, withParent activity p d go = (.error e, d₁)) ∨
      withParent activity p d go = go d₁) := by
  unfold withParent
  split
  · exact ⟨d, .refl d, .inr rfl⟩
  next above parent =>
  split
  · exact ⟨d, .refl d, .inr rfl⟩
  have grows := Disk.grows_makeDirectories above d
  generalize d.makeDirectories above = outcome at grows ⊢
  obtain ⟨_ | _, d₁⟩ := outcome
  · exact ⟨d₁, grows, .inl ⟨_, rfl⟩⟩
  · exact ⟨d₁, grows, .inr rfl⟩

/-- What would fail on every disk with more directories fails. -/
theorem fails_withParent (fails : ∀ d₁, Disk.Grows d d₁ → ∃ e, (go d₁).1 = .error e) :
    ∃ e, (withParent activity p d go).1 = .error e := by
  obtain ⟨d₁, grows, ⟨e, stopped⟩ | went⟩ := withParent_cases activity p d go
  · exact ⟨e, congrArg Prod.fst stopped⟩
  · rw [went]
    exact fails d₁ grows

theorem replacing_of_isFile {path : List PathText} (found : d.locate p = .ok path)
    (file : d.isFile p = true) : replacing activity p d go = go (d.removeNode path) := by
  obtain ⟨n, stat⟩ := Disk.isFile_iff.1 file
  simp [replacing, file, Disk.removeFile, found, stat]

theorem replacing_of_not_isFile (nothing : d.isFile p = false) :
    replacing activity p d go = go d := by
  simp [replacing, nothing]

theorem isFile_of_grows (closed : d.Closed) (stands : f.Stands d) (grows : Disk.Grows d d')
    (r : Resource) : d'.isFile (f.placeOf r) = d.isFile (f.placeOf r) := by
  rw [← Disk.contentOf_isSome, ← Disk.contentOf_isSome, contentOf_of_grows closed stands grows]

/-- The file at the place of a resource: where it is, and that its path is plain. -/
theorem exists_of_isFile (file : d.isFile (f.placeOf r) = true) :
    ∃ path n, d.locate (f.placeOf r) = .ok path ∧ d.node? path = some (.file n) ∧
      (f.placeOf r).wantsDirectory = false := by
  obtain ⟨n, stat⟩ := Disk.isFile_iff.1 file
  obtain ⟨path, rest⟩ := Disk.stat_eq_file_iff.1 stat
  exact ⟨path, n, rest⟩

/-- Removing a file leaves room for another, and the files at other places. -/
theorem room_of_removeNode {path : List PathText} {n : Nat}
    (found : d.locate (f.placeOf r) = .ok path) (node : d.node? path = some (.file n)) :
    (d.removeNode path).locate (f.placeOf r) = .ok path ∧
      (d.removeNode path).node? path = none := by
  have below : path ≠ [] := by
    rintro rfl
    cases node
  exact ⟨(Disk.passable_removeNode node).locate found, by simp [Disk.node?_removeNode, below]⟩

theorem contentOf_of_root (root : r.trail = []) : d.contentOf (f.placeOf r) = none := by
  rw [Disk.contentOf_eq_none_iff]
  exact Bool.not_eq_true _ |>.mp fun file => trail_ne_nil_of_isFile file root

/-- Removing a file takes it from one place only. -/
theorem contentOf_removeNode {path : List PathText} {n : Nat} (file : d.isFile (f.placeOf r) = true)
    (found : d.locate (f.placeOf r) = .ok path) (node : d.node? path = some (.file n))
    (other : (f.placeOf q).same (f.placeOf r) = false) :
    (d.removeNode path).contentOf (f.placeOf q) = d.contentOf (f.placeOf q) := by
  by_cases here : d.locate (f.placeOf q) = .ok path
  · have root : q.trail = [] := by
      refine Classical.byContradiction fun below => ?_
      rw [same_of_located below (trail_ne_nil_of_isFile file) here found] at other
      cases other
    rw [contentOf_of_root root, contentOf_of_root root]
  · exact Disk.contentOf_removeNode_of_ne node here

end

/-! ## The store as a backend -/

theorem content?_backend (f : Files) (r : Resource) (d : Disk) :
    f.backend.content? r d = d.contentOf (f.placeOf r) := by
  simp only [Backend.content?, backend, openReader, Disk.contentOf]
  cases d.stat (f.placeOf r) with
  | error fault => cases fault <;> rfl
  | ok node =>
    cases node with
    | directory => rfl
    | file n => simp [Disk.Reader.read]

/-- A resource is kept where its content is. -/
theorem keeps_iff : f.backend.Keeps r d d' ↔
    d'.contentOf (f.placeOf r) = d.contentOf (f.placeOf r) := by
  constructor
  · intro keeps
    rw [← content?_backend, ← content?_backend, keeps.content]
  · intro same
    refine ⟨?_, by rw [content?_backend, content?_backend, same]⟩
    simp only [backend, ← Disk.contentOf_isSome, same]

end Files
end ArtifactCache
