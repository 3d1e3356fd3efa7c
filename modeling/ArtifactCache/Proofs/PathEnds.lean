import ArtifactCache.Disk.Place
import Mathlib.Data.List.TakeWhile

/-!
The end of a path. Dropping slashes and dots at the end of a path, or its last
name, leaves a beginning of it, with the same start and the same steps but for
dots at the end.
-/
namespace ArtifactCache

/-- Cutting at a mark in the middle. -/
theorem Text.split_append_mark {α : Type} [DecidableEq α] (mark : α) (text rest : List α) :
    split mark (text ++ mark :: rest) = split mark text ++ split mark rest := by
  induction text with
  | nil => simp [split, cut]
  | cons c text ih =>
    simp only [split, List.cons_append, cut, List.cons.injEq] at ih ⊢
    split
    · simp [ih.1, ih.2]
    · simp [ih.1, ih.2]

namespace PathText

section
variable {α : Type} [DecidableEq α] {slash dot : α}

theorem trim_suffix (path : List α) : trim slash dot path <:+ path := by
  fun_induction trim slash dot path with
  | case1 => exact List.suffix_rfl
  | case2 => exact List.nil_suffix
  | case3 a h => exact List.suffix_rfl
  | case4 a b rest h ih => exact ih.trans (List.suffix_cons a _)
  | case5 a b rest h => exact List.suffix_rfl

theorem tidyList_prefix_self (path : List α) : tidyList slash dot path <+: path := by
  have kept : (trim slash dot path.reverse).reverse <+: path := by
    have suffix : trim slash dot path.reverse <:+ path.reverse := trim_suffix _
    simpa using suffix.reverse
  unfold tidyList
  dsimp only
  split
  · next root =>
    simp only [Bool.and_eq_true, decide_eq_true_eq] at root
    obtain ⟨rest, rfl⟩ := List.head?_eq_some_iff.1 root.2
    exact ⟨rest, rfl⟩
  · exact kept

theorem head?_tidyList (path : List α) :
    (tidyList slash dot path).head? = some slash ↔ path.head? = some slash := by
  have start : tidyList slash dot path <+: path := tidyList_prefix_self path
  obtain ⟨rest, eq⟩ := start
  cases tidy : tidyList slash dot path with
  | cons c kept =>
    rw [tidy] at eq
    simp [← eq]
  | nil =>
    refine ⟨fun h => (by cases h), fun begins => ?_⟩
    simp only [tidyList, begins, decide_true, Bool.and_true, decide_eq_true_eq] at tidy
    split at tidy
    · cases tidy
    · next kept => exact absurd tidy kept

/-- The names on a path: what stands between the slashes, if it is not empty. -/
def namesOf (slash : α) (path : List α) : List (List α) :=
  (Text.split slash path).filter (· ≠ [])

theorem namesOf_append_slash (path rest : List α) :
    namesOf slash (path ++ slash :: rest) = namesOf slash path ++ namesOf slash rest := by
  simp [namesOf, Text.split_append_mark]

theorem namesOf_singleton_slash : namesOf slash [slash] = [] := by
  simp [namesOf, Text.split, Text.cut]

/-- A path without names is empty or begins with a slash. -/
theorem head?_of_namesOf_eq_nil {path : List α} (nameless : namesOf slash path = [])
    (some_left : path ≠ []) : path.head? = some slash := by
  cases path with
  | nil => exact absurd rfl some_left
  | cons c rest =>
    by_cases here : c = slash
    · simp [here]
    · simp [namesOf, Text.split, Text.cut, here] at nameless

/-- At the end of a path, nothing is dropped but slashes and the name `.`. -/
theorem namesOf_trim (ne : dot ≠ slash) (path : List α) :
    ∃ k, namesOf slash path.reverse =
      namesOf slash (trim slash dot path).reverse ++ List.replicate k [dot] := by
  have closed (path : List α) : namesOf slash (path ++ [slash]) = namesOf slash path := by
    rw [namesOf_append_slash]
    simp [namesOf, Text.split, Text.cut]
  fun_induction trim slash dot path with
  | case1 => exact ⟨0, by simp⟩
  | case2 => exact ⟨0, by simp [namesOf, Text.split, Text.cut]⟩
  | case3 a h => exact ⟨0, by simp⟩
  | case4 a b rest h ih =>
    obtain ⟨k, eq⟩ := ih
    simp only [Bool.or_eq_true, Bool.and_eq_true, decide_eq_true_eq] at h
    obtain rfl | ⟨rfl, rfl⟩ := h
    · exact ⟨k, by rw [List.reverse_cons, closed, eq]⟩
    · refine ⟨k + 1, ?_⟩
      have dotted : namesOf b [a] = [[a]] := by simp [namesOf, Text.split, Text.cut, ne]
      rw [List.reverse_cons, List.reverse_cons, List.append_assoc, List.singleton_append,
        namesOf_append_slash, dotted]
      rw [List.reverse_cons, closed] at eq
      rw [eq, List.append_assoc, List.replicate_succ']
  | case5 a b rest h => exact ⟨0, by simp⟩

theorem namesOf_tidyList (ne : dot ≠ slash) (path : List α) :
    ∃ k, namesOf slash path =
      namesOf slash (tidyList slash dot path) ++ List.replicate k [dot] := by
  obtain ⟨k, eq⟩ := namesOf_trim ne path.reverse
  rw [List.reverse_reverse] at eq
  refine ⟨k, ?_⟩
  unfold tidyList
  dsimp only
  split
  · next root =>
    simp only [Bool.and_eq_true, decide_eq_true_eq] at root
    rw [eq, root.1, namesOf_singleton_slash]
    simp [namesOf, Text.split, Text.cut]
  · exact eq

omit [DecidableEq α] in
theorem head?_of_prefix_of_ne_nil {start path : List α} (le : start <+: path)
    (some_left : start ≠ []) : start.head? = path.head? := by
  obtain ⟨rest, rfl⟩ := le
  cases start with
  | nil => exact absurd rfl some_left
  | cons c start => rfl

/-- A path without its last name begins as the path does. -/
theorem of_parentList?_eq_some {path above : List α}
    (parent : parentList? slash dot path = some above) :
    above <+: path ∧ (above.head? = some slash ↔ path.head? = some slash) := by
  unfold parentList? at parent
  split at parent
  · cases parent
  next kept some_left =>
    obtain rfl := Option.some.inj parent
    have kept_le : (trim slash dot path.reverse).reverse <+: path := by
      have suffix : trim slash dot path.reverse <:+ path.reverse := trim_suffix _
      simpa using suffix.reverse
    have inner_le : ((trim slash dot path.reverse).dropWhile (· ≠ slash)).reverse <+: path :=
      (List.reverse_prefix.2 (List.dropWhile_suffix _)).trans kept_le
    refine ⟨(tidyList_prefix_self _).trans inner_le, ?_⟩
    rw [head?_tidyList]
    by_cases empty : (trim slash dot path.reverse).dropWhile (· ≠ slash) = []
    · rw [empty]
      refine ⟨fun h => (by cases h), fun begins => ?_⟩
      -- The slash in front is among what was kept, so it was not dropped.
      have front : (trim slash dot path.reverse).reverse.head? = some slash := by
        rw [head?_of_prefix_of_ne_nil kept_le (by simpa using some_left), begins]
      have mem : slash ∈ trim slash dot path.reverse := by
        simpa using List.mem_of_mem_head? front
      simpa using List.dropWhile_eq_nil_iff.1 empty slash mem
    · rw [head?_of_prefix_of_ne_nil inner_le (by simpa using empty)]

end

/-- A text and what it begins with. -/
theorem size_le_of_prefix_text {start path : String} (le : start.toList <+: path.toList) :
    start.utf8ByteSize ≤ path.utf8ByteSize := by
  obtain ⟨rest, eq⟩ := le
  have joined : path = start ++ String.ofList rest := String.toList_inj.1 (by simp [eq])
  rw [joined, String.utf8ByteSize_append]
  omega

end PathText

namespace Place

/-- The place is given by a text, and is absolute or not. -/
def Begins (absolute : Bool) (p : Place) : Prop :=
  ∃ s, p.base = .text s ∧ p.isAbsolute = absolute

theorem stepsOf_text (s : String) :
    stepsOf (.text s) =
      (PathText.namesOf '/' s.toList).map fun name => .text (String.ofList name) := by
  simp only [stepsOf, PathText.pieces, PathText.namesOf, List.filter_map]
  congr 1
  refine List.filter_congr fun piece _ => ?_
  simp

/-- The steps of a path and of the same path without slashes and dots at its end. -/
theorem stepsOf_tidy (s : String) :
    ∃ k, stepsOf (.text s) = stepsOf (PathText.tidy (.text s)) ++ List.replicate k (.text ".") := by
  have names : ∃ k, PathText.namesOf '/' s.toList =
      PathText.namesOf '/' (PathText.tidyList '/' '.' s.toList) ++ List.replicate k ['.'] :=
    PathText.namesOf_tidyList (by decide) _
  obtain ⟨k, eq⟩ := names
  exact ⟨k, by rw [PathText.tidy, stepsOf_text, stepsOf_text, eq, List.map_append,
    List.map_replicate, String.toList_ofList]⟩

theorem begins_of_base {absolute : Bool} {p q : Place} (begins : p.Begins absolute)
    (base : q.base = p.base) : q.Begins absolute := by
  obtain ⟨s, text, eq⟩ := begins
  exact ⟨s, base.trans text, by rw [← eq, isAbsolute, isAbsolute, base]⟩

/-- The place above another begins where that begins. -/
theorem begins_of_parent? {absolute : Bool} {p q : Place} (begins : p.Begins absolute)
    (parent : p.parent? = some q) : q.Begins absolute := by
  obtain ⟨s, text, rfl⟩ := begins
  unfold parent? at parent
  split at parent
  · rw [text] at parent
    obtain ⟨_, found, rfl⟩ := Option.map_eq_some_iff.1 parent
    obtain ⟨path, shorter, rfl⟩ := Option.map_eq_some_iff.1 found
    refine ⟨_, rfl, ?_⟩
    simp [isAbsolute, text, PathText.isAbsolute, (PathText.of_parentList?_eq_some shorter).2]
  split at parent
  · obtain rfl := Option.some.inj parent
    refine ⟨_, by rw [text]; rfl, ?_⟩
    simp [isAbsolute, text, PathText.tidy, PathText.isAbsolute, PathText.head?_tidyList]
  · obtain rfl := Option.some.inj parent
    exact begins_of_base ⟨s, text, rfl⟩ rfl

/-- All places that are made on the way to one begin where it begins. -/
theorem begins_of_mem_upward {absolute : Bool} {p q : Place} {count : Nat}
    (begins : p.Begins absolute) (mem : q ∈ upward count p) : q.Begins absolute := by
  induction count generalizing p with
  | zero => exact List.mem_singleton.1 mem ▸ begins
  | succ n ih =>
    obtain rfl | mem := List.mem_cons.1 mem
    · exact begins
    cases parent : p.parent? with
    | none => simp [parent] at mem
    | some above =>
      rw [parent] at mem
      exact ih (begins_of_parent? begins parent) mem

end Place
end ArtifactCache
