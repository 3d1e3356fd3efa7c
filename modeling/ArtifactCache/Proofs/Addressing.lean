import ArtifactCache.Proofs.PathEnds
import ArtifactCache.Resource
import Mathlib.Data.List.Induction

/-!
# Resources as nodes of a tree

A resource is its location and its segments, and what is done with the texts of paths, cutting
and joining them, is done with segments.

* `Path.ofText_append_slash`: a slash joins paths;
* `Path.text_parent`, `Path.text_child`: the texts of a parent and of a child;
* `Path.exists_child`: below the root a path is the child of its parent;
* `Resource.resources_form_a_tree`: what holds of every resource.
-/
namespace ArtifactCache

/-- Pieces in front and pieces behind, with a mark between them. -/
theorem Text.join_append {α : Type} (mark : α) {front back : List (List α)}
    (some_front : front ≠ []) (some_back : back ≠ []) :
    join mark (front ++ back) = join mark front ++ mark :: join mark back := by
  induction front with
  | nil => exact absurd rfl some_front
  | cons piece rest ih =>
    by_cases none_left : rest = []
    · subst none_left
      exact join_cons mark piece some_back
    · rw [List.cons_append, join_cons mark piece (by simp [none_left]), ih none_left,
        join_cons mark piece none_left, List.append_assoc, List.cons_append]

namespace Path

/-! ## Segments -/

theorem ofText_of_isSegment {s : String} (named : IsSegment s) : (ofText s).segments = [s] := by
  have whole : parts s = [s] := by
    simp [parts, Text.split, Text.cut_eq_of_notMem '/' named.2.2.2]
  simp [ofText, whole, named.1, named.2.1, named.2.2.1]

/-- A slash between two texts joins the paths that they name. -/
theorem ofText_append_slash (s t : String) :
    ofText (s ++ "/" ++ t) = (ofText s).append (ofText t) := by
  have split : parts (s ++ "/" ++ t) = parts s ++ parts t := by
    have chars : (s ++ "/" ++ t).toList = s.toList ++ '/' :: t.toList := by simp
    rw [parts, chars, Text.split_append_mark, List.map_append]
    rfl
  rw [eq_iff]
  simp [ofText, append, split]

@[simp] theorem ofText_empty : ofText "" = root := rfl

@[simp] theorem append_root (p : Path) : p.append root = p := by simp [append, root]

theorem append_assoc (p q r : Path) : (p.append q).append r = p.append (q.append r) := by
  simp [append]

@[simp] theorem segments_child (p : Path) (name : String) :
    (p.child name).segments = p.segments ++ (ofText name).segments := rfl

theorem isRoot_iff {p : Path} : p.isRoot = true ↔ p.segments = [] := by simp [isRoot]

/-- Below the root a path ends in a segment. -/
theorem exists_concat {p : Path} (below : p.isRoot = false) :
    ∃ init last, p.segments = init ++ [last] ∧ p.fileName = some last ∧ IsSegment last := by
  have some_left : p.segments ≠ [] := fun none_left => by simp [isRoot, none_left] at below
  obtain ⟨init, last, segments⟩ := (List.eq_nil_or_concat p.segments).resolve_left some_left
  rw [List.concat_eq_append] at segments
  exact ⟨init, last, segments, by simp [fileName, segments], p.named last (by simp [segments])⟩

/-- Below the root a path is the child of its parent. -/
theorem exists_child {p : Path} (below : p.isRoot = false) :
    ∃ name, p.fileName = some name ∧ IsSegment name ∧ p.parent.child name = p := by
  obtain ⟨init, last, segments, name, named⟩ := exists_concat below
  refine ⟨last, name, named, eq_iff.2 ?_⟩
  rw [segments_child, ofText_of_isSegment named]
  simp [parent, segments]

/-- Parts that are put one below the other name what they name with slashes between them. -/
theorem foldl_child (p : Path) (parts : List String) :
    parts.foldl child p = p.append (ofText ("/".intercalate parts)) := by
  induction parts generalizing p with
  | nil => simp
  | cons part rest ih =>
    rw [List.foldl_cons, ih]
    by_cases none_left : rest = []
    · simp [none_left, child]
    · rw [String.intercalate_cons_of_ne_nil none_left, ofText_append_slash, ← append_assoc]
      rfl

/-! ## Texts -/

theorem toList_text (p : Path) :
    p.text.toList = Text.join '/' (p.segments.map String.toList) := String.toList_ofList

/-- The text of a path is its segments with slashes between them. -/
theorem text_eq_intercalate (p : Path) : p.text = "/".intercalate p.segments := by
  have joined (pieces : List (List Char)) :
      Text.join '/' pieces = "/".toList.intercalate pieces := by
    induction pieces with
    | nil => rfl
    | cons piece rest ih =>
      by_cases last : rest = []
      · simp [last, Text.join]
      · rw [Text.join_cons '/' piece last, ih, List.intercalate_cons_of_ne_nil last]
        simp
  rw [← String.toList_inj, toList_text, joined, String.toList_intercalate]

theorem text_eq_empty_iff {p : Path} : p.text = "" ↔ p = root := by
  have empty : root.text = "" := rfl
  rw [← empty]
  exact ⟨fun same => text_injective same, congrArg text⟩

theorem toList_text_of_concat {p : Path} {init : List String} {last : String}
    (segments : p.segments = init ++ [last]) (more : init ≠ []) :
    p.text.toList = p.parent.text.toList ++ '/' :: last.toList := by
  have higher : p.parent.segments = init := by simp [parent, segments]
  rw [toList_text, toList_text, higher, segments, List.map_append, List.map_singleton,
    Text.join_append '/' (by simpa using more) (by simp)]
  rfl

/-- The text in front of the last slash, or the empty text where there is no slash. -/
def textAbove (t : String) : String :=
  String.ofList ((t.toList.reverse.dropWhile (· ≠ '/')).drop 1).reverse

/-- A parent is named by the text in front of the last slash. -/
theorem text_parent (p : Path) : p.parent.text = textAbove p.text := by
  cases below : p.isRoot with
  | true =>
    obtain rfl : p = root := eq_iff.2 (isRoot_iff.1 below)
    rfl
  | false =>
    obtain ⟨init, last, segments, _, named⟩ := exists_concat below
    have plain : ∀ c ∈ last.toList.reverse, decide (c ≠ '/') = true := by
      intro c mem
      exact decide_eq_true fun slash => named.2.2.2 (slash ▸ List.mem_reverse.1 mem)
    rw [← String.toList_inj, textAbove, String.toList_ofList]
    by_cases more : init = []
    · subst more
      have alone : p.text.toList = last.toList := by simp [toList_text, segments, Text.join]
      have top : p.parent.text.toList = [] := by
        simp [toList_text, parent, segments, Text.join]
      rw [top, alone, List.dropWhile_eq_nil_iff.2 plain]
      rfl
    · rw [toList_text_of_concat segments more, List.reverse_append, List.reverse_cons,
        List.append_assoc, List.dropWhile_append_of_pos plain]
      simp

/-- Paths are joined by their texts, with a slash between them unless one is empty. -/
theorem text_append (p q : Path) : (p.append q).text =
    if p.text = "" then q.text else if q.text = "" then p.text else p.text ++ "/" ++ q.text := by
  by_cases top : p.text = ""
  · rw [if_pos top, text_eq_empty_iff.1 top]
    rfl
  by_cases nothing : q.text = ""
  · rw [if_neg top, if_pos nothing, text_eq_empty_iff.1 nothing, append_root]
  rw [if_neg top, if_neg nothing, ← String.toList_inj, toList_text, append, List.map_append,
    Text.join_append '/' (by simpa [text_eq_empty_iff, eq_iff, root] using top)
      (by simpa [text_eq_empty_iff, eq_iff, root] using nothing)]
  simp [toList_text]

/-- A child is named by its name behind the text of its parent. -/
theorem text_child (p : Path) (name : String) : (p.child name).text = joinText p.text name :=
  text_append p (ofText name)

theorem text_foldl_child (p : Path) (parts : List String) :
    (parts.foldl child p).text = parts.foldl joinText p.text := by
  induction parts generalizing p with
  | nil => rfl
  | cons part rest ih => rw [List.foldl_cons, ih, text_child, List.foldl_cons]

/-- A segment stays one when more is written behind it. -/
theorem isSegment_append {name suffix : String} (named : IsSegment name)
    (plain : '/' ∉ suffix.toList) : IsSegment (name ++ suffix) := by
  obtain ⟨some_left, dot, dots, free⟩ := named
  have chars : name.toList ≠ [] := by simpa using some_left
  have of_chars {t : String} (same : name ++ suffix = t) :
      name.toList ++ suffix.toList = t.toList := by
    rw [← same, String.toList_append]
  obtain ⟨c, rest, eq⟩ := List.exists_cons_of_ne_nil chars
  refine ⟨fun empty => ?_, fun same => dot ?_, fun same => ?_, ?_⟩
  · simpa [eq] using of_chars empty
  · have one := of_chars same
    simp only [eq, List.cons_append] at one
    obtain ⟨rfl, nothing⟩ := List.cons.inj one
    rw [← String.toList_inj, eq, (List.append_eq_nil_iff.1 nothing).1]
    rfl
  · -- Of two dots the name would be one or both.
    have two := of_chars same
    simp only [eq, List.cons_append] at two
    obtain ⟨rfl, behind⟩ := List.cons.inj two
    obtain ⟨rfl, _⟩ | ⟨rfl, _⟩ := List.append_eq_singleton_iff.1 behind
    · exact dot (String.toList_inj.1 eq)
    · exact dots (String.toList_inj.1 eq)
  · simp [free, plain]

/-- What is written behind the text of a path goes to its last segment. -/
theorem ofText_text_append {p : Path} {suffix : String} (below : p.isRoot = false)
    (plain : '/' ∉ suffix.toList) :
    ∃ init last, p.segments = init ++ [last] ∧ IsSegment last ∧
      (ofText (p.text ++ suffix)).segments = init ++ [last ++ suffix] ∧
      (ofText (p.text ++ suffix)).text = p.text ++ suffix := by
  obtain ⟨init, last, segments, _, named⟩ := exists_concat below
  have named' := isSegment_append named plain
  let q : Path :=
    { segments := init ++ [last ++ suffix]
      named := fun s mem => by
        obtain mem | mem := List.mem_append.1 mem
        · exact p.named s (by simp [segments, mem])
        · exact List.mem_singleton.1 mem ▸ named' }
  have same : q.text = p.text ++ suffix := by
    rw [← String.toList_inj, String.toList_append]
    by_cases more : init = []
    · simp [toList_text, segments, q, more, Text.join]
    · rw [toList_text_of_concat (p := q) rfl more, toList_text_of_concat segments more]
      simp [parent, q, segments]
  rw [← same, ofText_text]
  exact ⟨init, last, segments, named, rfl, rfl⟩

end Path

namespace Resource

/-- What stands behind the last name of a resource goes to that name. -/
theorem exists_withSuffix {r : Resource} {suffix : String} (below : r.isRoot = false)
    (plain : '/' ∉ suffix.toList) :
    ∃ q name, r.withSuffix suffix = some q ∧ r.fileName = some name ∧ q.parent = r.parent ∧
      q.fileName = some (name ++ suffix) ∧ q.isRoot = false ∧
      q.path.text = r.path.text ++ suffix := by
  obtain ⟨init, last, segments, _, suffixed, text⟩ := Path.ofText_text_append below plain
  refine ⟨ofText r.location (r.path.text ++ suffix), last, by simp [withSuffix, below], ?_, ?_, ?_,
    ?_, text⟩
  · simp [fileName, Path.fileName, segments]
  · simp [parent, ofText, Path.parent, suffixed, segments]
  · simp [fileName, ofText, Path.fileName, suffixed]
  · simp [isRoot, ofText, Path.isRoot, suffixed]

/-- Below the root a resource is the child of its parent. -/
theorem exists_child {r : Resource} (below : r.isRoot = false) :
    ∃ name, r.fileName = some name ∧ IsSegment name ∧ r.parent.child name = r := by
  obtain ⟨name, last, named, whole⟩ := Path.exists_child below
  exact ⟨name, last, named, by simp [child, parent, whole]⟩

/-- Parts below each other are the resource that they name with slashes between them. -/
theorem ofParts_eq_ofText (l : Location) (parts : List String) :
    ofParts l parts = ofText l ("/".intercalate parts) := by
  rw [ofParts, Path.foldl_child]
  rfl

/-- **Resources are normal and form a tree.** Whatever texts a resource was made from, it is the
one that its own text names, which is normal. Below the root it is the child of its parent, and
a suffix without a slash goes to its last name. The texts of parents, children and parts below
each other are cut and joined from normal texts, and are normal again. -/
theorem resources_form_a_tree (r : Resource) :
    (ofText r.location r.path.text = r ∧ Path.normalize r.path.text = r.path.text) ∧
    (r.isRoot = false → ∃ name, r.fileName = some name ∧ r.parent.child name = r) ∧
    (r.parent.path.segments = r.path.segments.dropLast ∧
      r.parent.path.text = Path.textAbove r.path.text) ∧
    (∀ s, (r.child s).path.segments = r.path.segments ++ (Path.ofText s).segments ∧
      (r.child s).path.text = Path.joinText r.path.text s) ∧
    (∀ parts, ofParts r.location parts = ofText r.location ("/".intercalate parts) ∧
      (ofParts r.location parts).path.text = parts.foldl Path.joinText "") ∧
    ∀ suffix, r.isRoot = false → '/' ∉ suffix.toList →
      ∃ q name, r.withSuffix suffix = some q ∧ r.fileName = some name ∧ q.parent = r.parent ∧
        q.fileName = some (name ++ suffix) ∧ q.isRoot = false ∧
        q.path.text = r.path.text ++ suffix := by
  have normal : Path.ofText r.path.text = r.path := Path.ofText_text r.path
  refine ⟨⟨by rw [ofText, normal], by rw [Path.normalize, normal]⟩, fun below => ?_,
    ⟨rfl, Path.text_parent r.path⟩, fun s => ⟨rfl, Path.text_child r.path s⟩,
    fun parts => ⟨ofParts_eq_ofText r.location parts, Path.text_foldl_child .root parts⟩,
    fun suffix below plain => exists_withSuffix below plain⟩
  obtain ⟨name, last, _, whole⟩ := exists_child below
  exact ⟨name, last, whole⟩

/-- A path with dots, and a suffix that looks like one. -/
theorem dotted_resource_in_tree :
    let r : Resource := .ofText { name := "local", uri := "file:///srv/local" } "/../a/.//b.jar/"
    r.isRoot = false ∧ '/' ∉ "..".toList ∧ Path.normalize r.path.text = "a/b.jar" ∧
      r.parent.child "b.jar" = r ∧
      ∃ q, r.withSuffix ".." = some q ∧ q.parent = r.parent ∧ q.fileName = some "b.jar.." := by
  intro r
  obtain ⟨⟨_, normal⟩, node, _, _, _, suffixed⟩ := resources_form_a_tree r
  have below : r.isRoot = false := by decide
  have last : r.fileName = some "b.jar" := by decide
  obtain ⟨name, named, whole⟩ := node below
  obtain ⟨q, name', made, named', parent, ends, _⟩ := suffixed ".." below (by decide)
  obtain rfl := Option.some.inj (named.symm.trans last)
  obtain rfl := Option.some.inj (named'.symm.trans last)
  exact ⟨below, by decide, normal.trans (by decide), whole, q, made, parent, ends.trans (by decide)⟩

end Resource
end ArtifactCache
