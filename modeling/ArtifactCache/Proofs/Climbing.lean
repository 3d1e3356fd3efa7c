import ArtifactCache.Proofs.Home

/-!
Climbing up a path. The parent of a place has its steps but the last, and dots
that lead nowhere (`Place.exists_parent`). So climbing from a place one comes to a
directory that is there, and where no file is in the way all directories can be
made from there on down (`Disk.makeFirst_upward`).
-/
namespace ArtifactCache

namespace PathText
variable {α : Type} [DecidableEq α] {slash dot : α}

theorem trim_trim (path : List α) : trim slash dot (trim slash dot path) = trim slash dot path := by
  fun_induction trim slash dot path with
  | case1 => rfl
  | case2 => rfl
  | case3 a other => simp [trim, other]
  | case4 a b rest drop ih => exact ih
  | case5 a b rest stop => simp only [trim, stop, Bool.false_eq_true, if_false]

theorem head?_trim_ne (path : List α) : (trim slash dot path).head? ≠ some slash := by
  fun_induction trim slash dot path with
  | case1 => simp
  | case2 => simp
  | case3 a other => simpa using other
  | case4 a b rest drop ih => exact ih
  | case5 a b rest stop =>
    simp only [Bool.or_eq_true, decide_eq_true_eq, not_or] at stop
    simpa using stop.1

/-- A path that is tidied stays as it is when it is tidied again. -/
theorem tidyList_tidyList (path : List α) :
    tidyList slash dot (tidyList slash dot path) = tidyList slash dot path := by
  have again : tidyList slash dot (trim slash dot path.reverse).reverse =
      (trim slash dot path.reverse).reverse := by
    simp only [tidyList, List.reverse_reverse, trim_trim]
    split
    · next root =>
      simp only [Bool.and_eq_true, decide_eq_true_eq] at root
      simp [root.1] at root
    · rfl
  unfold tidyList
  dsimp only
  split
  · simp [trim]
  · exact again

theorem namesOf_of_notMem {last : List α} (free : slash ∉ last) (some_left : last ≠ []) :
    namesOf slash last = [last] := by
  simp [namesOf, Text.split, Text.cut_eq_of_notMem slash free, some_left]

/-- A last name behind a slash, or with nothing before it. -/
theorem namesOf_append_last {inner last : List α} (free : slash ∉ last) (some_left : last ≠ [])
    (ends : inner = [] ∨ ∃ more, inner = more ++ [slash]) :
    namesOf slash (inner ++ last) = namesOf slash inner ++ [last] := by
  obtain rfl | ⟨more, rfl⟩ := ends
  · have nothing : namesOf slash ([] : List α) = [] := by simp [namesOf, Text.split, Text.cut]
    rw [nothing, List.nil_append, List.nil_append, namesOf_of_notMem free some_left]
  · have closed : namesOf slash (more ++ [slash]) = namesOf slash more := by
      rw [namesOf_append_slash]
      simp [namesOf, Text.split, Text.cut]
    rw [List.append_assoc, List.singleton_append, namesOf_append_slash, closed,
      namesOf_of_notMem free some_left]

/-- The names of the parent of a tidy path are those of the path but the last. -/
theorem namesOf_of_parentList? (ne : dot ≠ slash) {path above : List α}
    (tidy : tidyList slash dot path = path) (parent : parentList? slash dot path = some above) :
    ∃ k last, namesOf slash path = namesOf slash above ++ List.replicate k [dot] ++ [last] := by
  unfold parentList? at parent
  split at parent
  · cases parent
  next kept some_left =>
  obtain rfl := Option.some.inj parent
  have whole : path = (trim slash dot path.reverse).reverse := by
    have short : (trim slash dot path.reverse).reverse ≠ [] := by
      simpa using some_left
    unfold tidyList at tidy
    simpa [-List.reverse_eq_nil_iff, short] using tidy.symm
  have first : (trim slash dot path.reverse).head? ≠ some slash := head?_trim_ne _
  generalize trim slash dot path.reverse = kept at *
  have split : path = (kept.dropWhile (· ≠ slash)).reverse ++ (kept.takeWhile (· ≠ slash)).reverse := by
    rw [whole, ← List.reverse_append, List.takeWhile_append_dropWhile]
  have free : slash ∉ (kept.takeWhile (· ≠ slash)).reverse := by
    intro mem
    simpa using List.mem_takeWhile_imp (List.mem_reverse.1 mem)
  have named : (kept.takeWhile (· ≠ slash)).reverse ≠ [] := by
    cases kept with
    | nil => exact absurd rfl some_left
    | cons c rest =>
      have other : c ≠ slash := by simpa using first
      simp [other]
  have ends : (kept.dropWhile (· ≠ slash)).reverse = [] ∨
      ∃ more, (kept.dropWhile (· ≠ slash)).reverse = more ++ [slash] := by
    cases left : kept.dropWhile (· ≠ slash) with
    | nil => exact .inl rfl
    | cons c more =>
      have here := List.head?_dropWhile_not (· ≠ slash) kept
      rw [left] at here
      have eq : c = slash := by simpa using here
      exact .inr ⟨more.reverse, by simp [eq]⟩
  obtain ⟨k, dots⟩ : ∃ k, namesOf slash (kept.dropWhile (· ≠ slash)).reverse =
      namesOf slash (tidyList slash dot (kept.dropWhile (· ≠ slash)).reverse) ++
        List.replicate k [dot] := namesOf_tidyList ne _
  refine ⟨k, (kept.takeWhile (· ≠ slash)).reverse, ?_⟩
  conv_lhs => rw [split, namesOf_append_last free named ends, dots]

theorem tidyList_of_parentList? {path above : List α}
    (parent : parentList? slash dot path = some above) : tidyList slash dot above = above := by
  unfold parentList? at parent
  split at parent
  · cases parent
  · obtain rfl := Option.some.inj parent
    exact tidyList_tidyList _

/-- A tidy path without a parent has no names. -/
theorem namesOf_of_parentList?_eq_none {path : List α} (tidy : tidyList slash dot path = path)
    (top : parentList? slash dot path = none) : namesOf slash path = [] := by
  have nothing : trim slash dot path.reverse = [] := by
    unfold parentList? at top
    split at top
    · assumption
    · cases top
  rw [← tidy]
  unfold tidyList
  simp only [nothing, List.reverse_nil, decide_true, Bool.true_and, decide_eq_true_eq]
  split
  · exact namesOf_singleton_slash
  · simp [namesOf, Text.split, Text.cut]

end PathText

namespace Place
variable {p : Place}

/-- A text with names behind it, or a text without slashes and dots at its end. -/
structure IsTidy (p : Place) : Prop where
  base : ∃ s, p.base = .text s ∧ (p.below = [] → (PathText.text s).tidy = .text s)
  named : ∀ name ∈ p.below, name ≠ ""

/-- The one path begins with the other. -/
def IsPrefix (q p : Place) : Prop :=
  ∃ s t, p.path = .text s ∧ q.path = .text t ∧ t.toList <+: s.toList

theorem path_eq_text {s : String} (base : p.base = .text s) :
    p.path = .text (PathText.pushNames s p.below) := by
  rw [path, base, PathText.foldl_push]

theorem tidy_tidy (s : String) : ((PathText.text s).tidy).tidy = (PathText.text s).tidy := by
  simp only [PathText.tidy, String.toList_ofList, PathText.tidyList_tidyList]

/-- Only the empty path has an empty text. -/
theorem steps_of_path_empty (tidy : p.IsTidy) (empty : p.path = .text "") : p.steps = [] := by
  obtain ⟨s, base, _⟩ := tidy.base
  rw [path_eq_text base] at empty
  have text := PathText.text.inj empty
  obtain none_left | ⟨names, last, below⟩ := List.eq_nil_or_concat p.below
  · rw [none_left] at text
    obtain rfl : s = "" := text
    rw [steps, base, none_left]
    decide
  · rw [List.concat_eq_append] at below
    have named : last ≠ "" := tidy.named last (by simp [below])
    have ends := PathText.getLast?_pushNames s names named
    rw [← below, text, eq_comm] at ends
    simp [named] at ends

/-- The parent of a text. -/
theorem exists_parent_of_text {s : String} (tidy : (PathText.text s).tidy = .text s)
    (some_left : stepsOf (.text s) ≠ []) :
    ∃ t k last, (PathText.text s).parent? = some (.text t) ∧ (PathText.text t).tidy = .text t ∧
      (PathText.text t).isAbsolute = (PathText.text s).isAbsolute ∧ t.toList <+: s.toList ∧
      stepsOf (.text s) = stepsOf (.text t) ++ List.replicate k (.text ".") ++ [last] := by
  have tidied : PathText.tidyList '/' '.' s.toList = s.toList := by
    rw [← congrArg String.toList (PathText.text.inj tidy), String.toList_ofList]
    exact PathText.tidyList_tidyList _
  rw [stepsOf_text] at some_left ⊢
  cases parent : PathText.parentList? '/' '.' s.toList with
  | none => simp [PathText.namesOf_of_parentList?_eq_none tidied parent] at some_left
  | some above =>
    obtain ⟨k, last, names⟩ := PathText.namesOf_of_parentList? (by decide) tidied parent
    obtain ⟨le, absolute⟩ := PathText.of_parentList?_eq_some parent
    have shown : (String.ofList above).toList = above := String.toList_ofList
    refine ⟨String.ofList above, k, .text (String.ofList last), ?_, ?_, ?_, by rwa [shown], ?_⟩
    · rw [PathText.parent?, parent]
      rfl
    · rw [PathText.tidy, shown, PathText.tidyList_of_parentList? parent]
    · simp only [PathText.isAbsolute, shown, absolute]
    · rw [stepsOf_text, names, shown]
      simp

/-- A place that has steps has a parent, and the steps of the parent come first. -/
theorem exists_parent (tidy : p.IsTidy) (some_left : p.steps ≠ []) :
    ∃ q k last, p.parent? = some q ∧ q.IsTidy ∧ q.isAbsolute = p.isAbsolute ∧ q.IsPrefix p ∧
      p.steps = q.steps ++ List.replicate k (.text ".") ++ [last] := by
  obtain ⟨s, base, tidied⟩ := tidy.base
  have path := path_eq_text base
  obtain none_left | ⟨names, last, below⟩ := List.eq_nil_or_concat p.below
  · have steps_p : p.steps = stepsOf (.text s) := by simp [steps, base, none_left]
    rw [steps_p] at some_left ⊢
    obtain ⟨t, k, last, parent, tidy_t, absolute, le, names⟩ :=
      exists_parent_of_text (tidied none_left) some_left
    refine ⟨{ base := .text t }, k, last, ?_, ⟨⟨t, rfl, fun _ => tidy_t⟩, by simp⟩, ?_, ?_, ?_⟩
    · simp [parent?, none_left, base, parent]
    · simpa [isAbsolute, base] using absolute
    · exact ⟨s, t, by rw [path, none_left]; rfl, rfl, le⟩
    · simpa [steps] using names
  rw [List.concat_eq_append] at below
  have named : last ≠ "" := tidy.named last (by simp [below])
  have reversed : p.below.reverse.dropWhile (· = "") = last :: names.reverse := by
    simp [below, named]
  obtain rfl | ⟨higher, name, rfl⟩ := List.eq_nil_or_concat names
  · obtain ⟨k, dots⟩ := stepsOf_tidy s
    obtain ⟨t, eq⟩ : ∃ t, (PathText.text s).tidy = .text t := ⟨_, rfl⟩
    have shown : t.toList = PathText.tidyList '/' '.' s.toList := by
      rw [← PathText.text.inj eq]
      exact String.toList_ofList
    refine ⟨{ base := .text t }, k, .text last, ?_, ⟨⟨t, rfl, fun _ => ?_⟩, by simp⟩, ?_, ?_, ?_⟩
    · rw [parent?, reversed, base, ← eq]
      rfl
    · rw [← eq, tidy_tidy, eq]
    · simp [isAbsolute, base, PathText.isAbsolute, shown, PathText.head?_tidyList]
    · refine ⟨_, t, path, rfl, ?_⟩
      rw [shown]
      exact (PathText.tidyList_prefix_self _).trans (PathText.pushNames_prefix_append s [] _)
    · simp [steps, base, below, named, dots, eq]
  · rw [List.concat_eq_append] at below reversed
    have named_higher : name ≠ "" := tidy.named name (by simp [below])
    refine ⟨{ p with below := higher ++ [name] }, 0, .text last, ?_, ⟨⟨s, base, by simp⟩, ?_⟩, rfl,
      ?_, ?_⟩
    · rw [parent?, reversed]
      simp [named_higher]
    · intro other mem
      exact tidy.named other (by rw [below]; exact List.mem_append_left _ mem)
    · refine ⟨_, _, path, path_eq_text base, ?_⟩
      rw [below]
      exact PathText.pushNames_prefix_append s _ _
    · simp [steps, below, named, named_higher]

/-- The parent of a place whose way has no dots has all steps but the last. -/
theorem exists_parent_of_plain (tidy : p.IsTidy) {way : List PathText} {last : PathText}
    (steps : p.steps = way ++ [last]) (plain : ∀ name ∈ p.steps, name ≠ .text ".") :
    ∃ q, p.parent? = some q ∧ q.IsTidy ∧ q.isAbsolute = p.isAbsolute ∧ q.IsPrefix p ∧
      q.steps = way := by
  obtain ⟨q, k, other, parent, tidy_q, absolute, le, whole⟩ :=
    exists_parent tidy (by simp [steps])
  refine ⟨q, parent, tidy_q, absolute, le, ?_⟩
  cases k with
  | zero =>
    rw [List.replicate_zero, List.append_nil, steps] at whole
    exact (List.append_inj' whole rfl).1.symm
  | succ k => exact absurd rfl (plain (.text ".") (by simp [whole]))

theorem path_ne_empty_of_isAbsolute (tidy : p.IsTidy) (absolute : p.isAbsolute = true) :
    p.path ≠ .text "" := by
  obtain ⟨s, base, _⟩ := tidy.base
  rw [path_eq_text base]
  intro empty
  have le := PathText.pushNames_prefix_append s [] p.below
  rw [List.nil_append, PathText.text.inj empty] at le
  obtain rfl : s = "" := by simpa [PathText.pushNames] using le
  simp [isAbsolute, base, PathText.isAbsolute] at absolute

end Place

/-! ## Making directories -/

namespace Disk
variable {d d' : Disk} {p : Place} {dir up way : List PathText}

/-- No file is on the way, nor at its end. -/
def IsClear (d : Disk) (dir way : List PathText) : Prop :=
  ∀ path, dir <+: path → path <+: dir ++ moves way → ∀ n, d.node? path ≠ some (.file n)

/-- There is a directory at the target, and the rest is as it was but for those above. -/
structure Paves (target : List PathText) (d d' : Disk) : Prop where
  there : d'.node? target = some .directory
  rest (path : List PathText) : d'.node? path = d.node? path ∨ path <+: target

theorem moves_le (dir way more : List PathText) :
    dir ++ moves way <+: dir ++ moves (way ++ more) := by
  rw [moves_append, ← List.append_assoc]
  exact List.prefix_append _ _

theorem IsClear.anti {more : List PathText} (clear : d.IsClear dir (way ++ more)) :
    d.IsClear dir way :=
  fun path begins le => clear path begins (le.trans (moves_le dir way more))

/-- A way without files can be followed, unless the directory at its end is missing. -/
theorem follow_of_clear (closed : d.Closed) (begins : d.node? dir = some .directory)
    (forward : ∀ name ∈ way, name ≠ .text "..") (short : ∀ name ∈ way, name.size ≤ maxName)
    (clear : d.IsClear dir way) :
    d.node? (dir ++ moves way) = some .directory ∧ d.follow dir way = .ok (dir ++ moves way) ∨
      d.node? (dir ++ moves way) = none ∧ d.follow dir way = .error .notFound := by
  cases ends : d.follow dir way with
  | ok last =>
    obtain rfl := eq_of_follow_forward forward ends
    exact .inl ⟨node?_of_follow begins ends, rfl⟩
  | error fault =>
    refine .inr ⟨?_, ?_⟩
    · cases node : d.node? (dir ++ moves way) with
      | none => rfl
      | some there =>
        have directory : d.node? (dir ++ moves way) = some .directory := by
          cases there with
          | directory => exact node
          | file n => exact absurd node (clear _ (List.prefix_append _ _) List.prefix_rfl n)
        rw [follow_of_directories forward short fun path _ le => ?_] at ends
        · cases ends
        · by_cases here : path = dir ++ moves way
          · exact here ▸ directory
          · exact closed.above directory le here
    · obtain rfl | ⟨_, name, mem, long⟩ | ⟨_, meets⟩ := of_follow_eq_error ends
      · rfl
      · exact absurd (short name mem) (Nat.not_le.2 long)
      · obtain ⟨before, name, rest, mid, next, n, rfl, way_mid, stepped, file⟩ := meets
        have mem : name ∈ before ++ name :: rest := by simp
        obtain rfl := eq_of_follow_forward
          (fun name mem => forward name (List.mem_append_left _ mem)) way_mid
        rw [step_of_forward (forward name mem) (short name mem), List.append_assoc,
          ← moves_append] at stepped
        obtain rfl := Except.ok.inj stepped
        have le := moves_le dir (before ++ [name]) rest
        rw [List.append_assoc, List.singleton_append] at le
        exact absurd file (clear _ (List.prefix_append _ _) le n)

/-- The last directory of a way is made, or was there. -/
theorem makeDirectory_of_clear (accepted : p.IsAccepted) {last : PathText}
    (steps : p.steps = up ++ (way ++ [last])) (begins : d.follow (d.start p) up = .ok dir)
    (follows : d.follow dir way = .ok (dir ++ moves way))
    (forward : last ≠ .text "..") (short : last.size ≤ maxName)
    (clear : d.IsClear dir (way ++ [last])) :
    d.makeDirectory p = (.ok (), d.setNode (dir ++ moves (way ++ [last])) .directory) ∧
        d.node? (dir ++ moves (way ++ [last])) = none ∨
      d.makeDirectory p = (.error .alreadyExists, d) ∧ d.isDirectory p = true ∧
        d.node? (dir ++ moves (way ++ [last])) = some .directory := by
  have found : d.locate p = .ok (dir ++ moves (way ++ [last])) := by
    rw [← List.append_assoc] at steps
    rw [locate_of_accepted accepted steps, follow_append, begins]
    change (d.follow dir way).bind _ = _
    rw [follows, moves_append, ← List.append_assoc]
    exact step_of_forward forward short
  unfold makeDirectory
  rw [found]
  cases node : d.node? (dir ++ moves (way ++ [last])) with
  | none => exact .inl ⟨by simp [node], rfl⟩
  | some there =>
    cases there with
    | directory =>
      exact .inr ⟨by simp [node], isDirectory_iff_locate.2 ⟨_, found, node⟩, rfl⟩
    | file n => exact absurd node (clear _ (List.prefix_append _ _) List.prefix_rfl n)

theorem paves_setNode {target : List PathText} (empty : d.node? target = none) :
    Paves target d (d.setNode target .directory) := by
  constructor
  · rw [node?_setNode _ _ _ _ (ne_nil_of_node?_eq_none empty), if_pos rfl]
  · intro path
    rw [node?_setNode _ _ _ _ (ne_nil_of_node?_eq_none empty)]
    split
    · next same => exact .inr (same ▸ List.prefix_rfl)
    · exact .inl rfl

theorem isAccepted_of_isPrefix {q : Place} (accepted : p.IsAccepted) (le : q.IsPrefix p)
    (named : q.path ≠ .text "") : q.IsAccepted := by
  obtain ⟨s, t, path, path_q, le⟩ := le
  refine Files.isAccepted_of_prefix_path accepted path path_q le fun empty => ?_
  exact named (empty ▸ path_q)

theorem Paves.refl {target : List PathText} (there : d.node? target = some .directory) :
    Paves target d d := ⟨there, fun _ => .inl rfl⟩

theorem Paves.behind {higher target : List PathText} {d₁ : Disk} (first : Paves higher d d₁)
    (le : higher <+: target) (second : Paves target d₁ d') : Paves target d d' := by
  refine ⟨second.there, fun path => ?_⟩
  obtain same | here := second.rest path
  · obtain same' | here := first.rest path
    · exact .inl (same.trans same')
    · exact .inr (here.trans le)
  · exact .inr here

/-- The directory of a place is made at once, unless the one above it is missing. -/
theorem makeFirst_cons {absolute : Bool} (sound : d.Sound absolute)
    (there : d.node? dir = some .directory) {p : Place} {up rest : List PathText}
    (tidy : p.IsTidy) (steps : p.steps = up ++ rest) (leads : d.follow (d.start p) up = .ok dir)
    (forward : ∀ name ∈ rest, name ≠ .text "..") (short : ∀ name ∈ rest, name.size ≤ maxName)
    (accepted : p.path ≠ .text "" → p.IsAccepted) (clear : d.IsClear dir rest)
    (above : List Place) :
    (∃ d', makeFirst (p :: above) d = (.ok (), d') ∧ Paves (dir ++ moves rest) d d') ∨
      p.path ≠ .text "" ∧ d.makeDirectory p = (.error .notFound, d) ∧
        ∃ way last, rest = way ++ [last] ∧ d.node? (dir ++ moves way) = none := by
  by_cases named : p.path = .text ""
  · have nowhere := Place.steps_of_path_empty tidy named
    rw [steps, List.append_eq_nil_iff] at nowhere
    obtain ⟨rfl, rfl⟩ := nowhere
    exact .inl ⟨d, by simp [makeFirst, named], .refl (by simpa [moves] using there)⟩
  have accepted := accepted named
  obtain rfl | ⟨way, last, rfl⟩ := List.eq_nil_or_concat rest
  · rw [List.append_nil] at steps
    have directory := isDirectory_of_follow accepted (steps ▸ leads) there
    obtain ⟨path, found, node⟩ := isDirectory_iff_locate.1 directory
    have refused : d.makeDirectory p = (.error .alreadyExists, d) := by
      simp [makeDirectory, found, node]
    refine .inl ⟨d, by simp [makeFirst, named, refused, directory], .refl ?_⟩
    simpa [moves] using there
  rw [List.concat_eq_append] at *
  have mem : last ∈ way ++ [last] := by simp
  have forward' : ∀ name ∈ way, name ≠ .text ".." :=
    fun name mem => forward name (List.mem_append_left _ mem)
  have short' : ∀ name ∈ way, name.size ≤ maxName :=
    fun name mem => short name (List.mem_append_left _ mem)
  obtain ⟨_, follows⟩ | ⟨missing, stops⟩ :=
    follow_of_clear sound.closed there forward' short' clear.anti
  · obtain ⟨made, empty⟩ | ⟨refused, directory, node⟩ := makeDirectory_of_clear accepted steps
      leads follows (forward last mem) (short last mem) clear
    · exact .inl ⟨_, by simp [makeFirst, named, made], paves_setNode empty⟩
    · exact .inl ⟨d, by simp [makeFirst, named, refused, directory], .refl node⟩
  · refine .inr ⟨named, ?_, way, last, rfl, missing⟩
    rw [← List.append_assoc] at steps
    have lost : d.locate p = .error .notFound := by
      rw [locate_of_accepted accepted steps, follow_append, leads]
      change (d.follow dir way).bind _ = _
      rw [stops]
      rfl
    simp [makeDirectory, lost]

/-- On the way down from a directory that it leaves, a place comes behind its parent. -/
theorem exists_parent_way (tidy : p.IsTidy) {last : PathText} (steps : p.steps = up ++ (way ++ [last]))
    (leaves : moves way ≠ []) :
    ∃ q inner more, p.parent? = some q ∧ q.IsTidy ∧ q.isAbsolute = p.isAbsolute ∧ q.IsPrefix p ∧
      q.steps = up ++ inner ∧ way = inner ++ more ∧ moves way = moves inner := by
  have some_left : p.steps ≠ [] := by simp [steps]
  obtain ⟨q, k, _, parent, tidy_q, absolute_q, le, chain⟩ := Place.exists_parent tidy some_left
  rw [steps, ← List.append_assoc] at chain
  obtain ⟨split, _⟩ := List.append_inj' chain rfl
  have no_dots : moves (List.replicate k (.text ".")) = [] := by simp [moves]
  obtain ⟨dots, _, only⟩ | ⟨inner, steps_q, whole⟩ := List.append_eq_append_iff.1 split.symm
  · rw [only, moves_append, List.append_eq_nil_iff] at no_dots
    exact absurd no_dots.2 leaves
  · refine ⟨q, inner, _, parent, tidy_q, absolute_q, le, steps_q, whole, ?_⟩
    rw [whole, moves_append, no_dots, List.append_nil]

/-- Once the directories above are made, the directory of a place can be made. -/
theorem makeDirectory_of_paves {d₁ : Disk} (grows : Grows d d₁) (closed : d₁.Closed)
    (there : d.node? dir = some .directory) {last : PathText}
    (steps : p.steps = up ++ (way ++ [last])) (leads : d.follow (d.start p) up = .ok dir)
    (forward : ∀ name ∈ way ++ [last], name ≠ .text "..")
    (short : ∀ name ∈ way ++ [last], name.size ≤ maxName) (accepted : p.IsAccepted)
    (clear : d.IsClear dir (way ++ [last])) (paves : Paves (dir ++ moves way) d d₁) :
    ∃ d', Paves (dir ++ moves (way ++ [last])) d d' ∧ (d₁.makeDirectory p = (.ok (), d') ∨
      d₁.makeDirectory p = (.error .alreadyExists, d₁) ∧ d₁.isDirectory p = true ∧ d' = d₁) := by
  have leads₁ : d₁.follow (d₁.start p) up = .ok dir := by
    rw [grows.passable.start]
    exact grows.passable.follow leads
  have clear₁ : d₁.IsClear dir (way ++ [last]) :=
    fun path begins le n file => clear path begins le n (grows.file_back file)
  have follows : d₁.follow dir way = .ok (dir ++ moves way) := by
    obtain ⟨_, follows⟩ | ⟨gone, _⟩ := follow_of_clear closed (grows.node_of_some there)
      (fun name mem => forward name (List.mem_append_left _ mem))
      (fun name mem => short name (List.mem_append_left _ mem)) clear₁.anti
    · exact follows
    · cases gone.symm.trans paves.there
  have mem : last ∈ way ++ [last] := by simp
  have le := moves_le dir way [last]
  obtain ⟨made, empty⟩ | ⟨already, directory, node⟩ := makeDirectory_of_clear accepted steps leads₁
    follows (forward last mem) (short last mem) clear₁
  · exact ⟨_, paves.behind le (paves_setNode empty), .inl made⟩
  · exact ⟨d₁, paves.behind le (.refl node), .inr ⟨already, directory, rfl⟩⟩

/-- **Directories can be made.** If no file is in the way, a directory is made with
all that are missing above it. -/
theorem makeFirst_upward {absolute : Bool} (sound : d.Sound absolute)
    (there : d.node? dir = some .directory) {n : Nat} {p : Place} {up rest : List PathText}
    (tidy : p.IsTidy) (begins : p.isAbsolute = absolute) (steps : p.steps = up ++ rest)
    (leads : d.follow (d.start p) up = .ok dir) (enough : rest.length ≤ n)
    (forward : ∀ name ∈ rest, name ≠ .text "..") (short : ∀ name ∈ rest, name.size ≤ maxName)
    (accepted : p.path ≠ .text "" → p.IsAccepted) (clear : d.IsClear dir rest) :
    ∃ d', makeFirst (p.upward n) d = (.ok (), d') ∧ Paves (dir ++ moves rest) d d' := by
  induction n generalizing p up rest with
  | zero =>
    obtain made | ⟨_, _, way, last, rfl, _⟩ :=
      makeFirst_cons sound there tidy steps leads forward short accepted clear []
    · exact made
    · simp at enough
  | succ n ih =>
    have climbs : p.upward (n + 1) = p :: (p.upward (n + 1)).tail := rfl
    obtain made | ⟨named, refused, way, last, rfl, missing⟩ :=
      makeFirst_cons sound there tidy steps leads forward short accepted clear
        (p.upward (n + 1)).tail
    · exact climbs ▸ made
    have leaves : moves way ≠ [] := by
      intro stays
      rw [stays, List.append_nil] at missing
      cases missing.symm.trans there
    obtain ⟨q, inner, more, parent, tidy_q, absolute_q, le, steps_q, rfl, same⟩ :=
      exists_parent_way tidy steps leaves
    have accepted := accepted named
    have begins_q := absolute_q.trans begins
    have start_q : d.start q = d.start p := by simp [start, absolute_q]
    have less : inner.length ≤ n := by
      simp only [List.length_append, List.length_cons, List.length_nil] at enough
      omega
    have mem_inner {name : PathText} (mem : name ∈ inner) : name ∈ inner ++ more ++ [last] :=
      List.mem_append_left _ (List.mem_append_left _ mem)
    obtain ⟨d₁, made₁, paves₁⟩ := ih tidy_q begins_q steps_q (start_q ▸ leads) less
      (fun name mem => forward name (mem_inner mem)) (fun name mem => short name (mem_inner mem))
      (isAccepted_of_isPrefix accepted le) clear.anti.anti
    rw [← same] at paves₁
    -- Now that the parent is there, the directory itself can be made.
    have sound₁ : (makeFirst (q.upward n) d).2.Sound absolute := by
      obtain ⟨s, base, _⟩ := tidy_q.base
      refine makeFirst_keeps (fun above mem d sound => sound.makeDirectory ?_) sound
      obtain ⟨_, _, same⟩ := Place.begins_of_mem_upward ⟨s, base, begins_q⟩ mem
      exact same
    have grows : Grows d (makeFirst (q.upward n) d).2 :=
      makeFirst_keeps (fun above _ _ grown => grown.trans (grows_makeDirectory above _)) (.refl d)
    rw [made₁] at sound₁ grows
    obtain ⟨d', paves, made⟩ := makeDirectory_of_paves grows sound₁.closed there steps leads
      forward short accepted clear paves₁
    have climbed : p.upward (n + 1) = p :: q.upward n := by rw [Place.upward, parent]
    rw [climbed]
    refine ⟨d', ?_, paves⟩
    obtain made | ⟨already, directory, rfl⟩ := made
    · simp [makeFirst, named, refused, made₁, made]
    · simp [makeFirst, named, refused, made₁, already, directory]

/-! ## Ways up and down

Where there are no files at all, directories are made along any way.
-/

theorem exists_step (dir : List PathText) {name : PathText} (short : name.size ≤ maxName) :
    ∃ next, step dir name = .ok next := by
  unfold step
  split
  · exact ⟨_, rfl⟩
  split
  · exact ⟨_, rfl⟩
  · rw [if_neg (Nat.not_lt.2 short)]
    exact ⟨_, rfl⟩

/-- No file is on the disk. -/
def IsBare (d : Disk) : Prop := ∀ path n, d.node? path ≠ some (.file n)

theorem IsBare.grows {d d' : Disk} (bare : d.IsBare) (grows : Grows d d') : d'.IsBare :=
  fun path n file => bare path n (grows.file_back file)

/-- A directory is made where its way can be followed, unless it is there. -/
theorem makeDirectory_of_bare (bare : d.IsBare) (accepted : p.IsAccepted) {last : PathText}
    (steps : p.steps = way ++ [last]) (short : last.size ≤ maxName)
    (ends : d.follow (d.start p) way = .ok dir) :
    ∃ d' path, Grows d d' ∧ d'.follow (d'.start p) p.steps = .ok path ∧
      (d.makeDirectory p = (.ok (), d') ∨
        d.makeDirectory p = (.error .alreadyExists, d) ∧ d.isDirectory p = true ∧ d' = d) := by
  obtain ⟨path, stepped⟩ := exists_step dir short
  have found : d.locate p = .ok path := by
    rw [locate_of_accepted accepted steps, ends]
    exact stepped
  have leads {d' : Disk} (grows : Grows d d') (there : d'.node? path = some .directory) :
      d'.follow (d'.start p) p.steps = .ok path :=
    follow_of_locate (grows.passable.locate found) there
  cases node : d.node? path with
  | none =>
    have grows := grows_setNode node
    refine ⟨_, path, grows, leads grows ?_, .inl (by simp [makeDirectory, found, node])⟩
    rw [node?_setNode _ _ _ _ (ne_nil_of_node?_eq_none node), if_pos rfl]
  | some there =>
    cases there with
    | file n => exact absurd node (bare path n)
    | directory =>
      refine ⟨d, path, .refl d, leads (.refl d) node, .inr ⟨?_, ?_, rfl⟩⟩
      · simp [makeDirectory, found, node]
      · exact isDirectory_iff_locate.2 ⟨path, found, node⟩

/-- The directory is made at once, unless its way cannot be followed so far. -/
theorem makeFirst_cons_of_bare {p : Place} (bare : d.IsBare) (absolute : p.isAbsolute = true)
    (accepted : p.IsAccepted) (short : ∀ name ∈ p.steps, name.size ≤ maxName) (above : List Place) :
    (∃ d' path, makeFirst (p :: above) d = (.ok (), d') ∧ Grows d d' ∧
        d'.follow (d'.start p) p.steps = .ok path) ∨
      d.makeDirectory p = (.error .notFound, d) ∧ ∃ way last, p.steps = way ++ [last] := by
  have named : p.path ≠ .text "" := fun empty => accepted.notEmpty (by simp [empty, PathText.size])
  obtain none_left | ⟨way, last, steps⟩ := List.eq_nil_or_concat p.steps
  · -- The place is the root of the disk.
    have leads : d.follow (d.start p) p.steps = .ok [] := by
      simp [none_left, start, absolute, follow]
    have found := locate_of_follow accepted leads
    have directory := isDirectory_of_follow accepted leads rfl
    refine .inl ⟨d, [], ?_, .refl d, leads⟩
    simp [makeFirst, named, makeDirectory, found, node?, directory]
  rw [List.concat_eq_append] at steps
  cases ends : d.follow (d.start p) way with
  | ok dir =>
    obtain ⟨d', path, grows, leads, made | ⟨already, directory, rfl⟩⟩ :=
      makeDirectory_of_bare bare accepted steps (short last (by simp [steps])) ends
    · exact .inl ⟨d', path, by simp [makeFirst, named, made], grows, leads⟩
    · exact .inl ⟨d', path, by simp [makeFirst, named, already, directory], grows, leads⟩
  | error fault =>
    refine .inr ⟨?_, way, last, steps⟩
    obtain rfl | ⟨_, name, mem, long⟩ | ⟨_, meets⟩ := of_follow_eq_error ends
    · have lost : d.locate p = .error .notFound := by
        rw [locate_of_accepted accepted steps, ends]
        rfl
      simp [makeDirectory, lost]
    · exact absurd (short name (by simp [steps, mem])) (Nat.not_le.2 long)
    · obtain ⟨_, _, _, _, path, k, _, _, _, file⟩ := meets
      exact absurd file (bare path k)

/-- On a disk without files a directory is made with all that are missing on its way, whether
the way leads down or up. -/
theorem makeFirst_of_bare {n : Nat} {p : Place} (bare : d.IsBare) (tidy : p.IsTidy)
    (absolute : p.isAbsolute = true) (accepted : p.IsAccepted)
    (plain : ∀ name ∈ p.steps, name ≠ .text ".") (short : ∀ name ∈ p.steps, name.size ≤ maxName)
    (enough : p.steps.length ≤ n) :
    ∃ d' path, makeFirst (p.upward n) d = (.ok (), d') ∧ Grows d d' ∧
      d'.follow (d'.start p) p.steps = .ok path := by
  induction n generalizing p with
  | zero =>
    obtain made | ⟨_, way, last, steps⟩ := makeFirst_cons_of_bare bare absolute accepted short []
    · exact made
    · simp [steps] at enough
  | succ n ih =>
    have climbs : p.upward (n + 1) = p :: (p.upward (n + 1)).tail := rfl
    obtain made | ⟨missing, way, last, steps⟩ :=
      makeFirst_cons_of_bare bare absolute accepted short (p.upward (n + 1)).tail
    · exact climbs ▸ made
    obtain ⟨q, parent, tidy_q, absolute_q, le, rfl⟩ := Place.exists_parent_of_plain tidy steps plain
    have inner {name : PathText} (mem : name ∈ q.steps) : name ∈ p.steps := by simp [steps, mem]
    have accepted_q : q.IsAccepted := isAccepted_of_isPrefix accepted le
      (Place.path_ne_empty_of_isAbsolute tidy_q (absolute_q.trans absolute))
    obtain ⟨d₁, dir, made₁, grows₁, ends⟩ := ih tidy_q (absolute_q.trans absolute) accepted_q
      (fun name mem => plain name (inner mem)) (fun name mem => short name (inner mem))
      (by simpa [steps] using enough)
    -- Now that the parent is there, the directory itself can be made.
    have start : d₁.start q = d₁.start p := by simp [Disk.start, absolute_q]
    obtain ⟨d', path, grows, leads, made⟩ := makeDirectory_of_bare (bare.grows grows₁) accepted
      steps (short last (by simp [steps])) (start ▸ ends)
    have named := Place.path_ne_empty_of_isAbsolute tidy absolute
    have climbed : p.upward (n + 1) = p :: q.upward n := by rw [Place.upward, parent]
    refine ⟨d', path, ?_, grows₁.trans grows, leads⟩
    rw [climbed]
    obtain made | ⟨already, directory, rfl⟩ := made
    · simp [makeFirst, named, missing, made₁, made]
    · simp [makeFirst, named, missing, made₁, already, directory]

end Disk
end ArtifactCache
