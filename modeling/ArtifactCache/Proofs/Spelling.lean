import ArtifactCache.Proofs.Addressing
import Mathlib.Data.List.Basic

/-!
# Paths and their texts

Every text names a path. The normal texts are the empty one and segments with slashes between
them, so normal texts stand for paths: joining the texts joins the paths, and one path lies above
another where its text and a slash begin that of the other.

* `Path.segments_ofText_intercalate`: what a text names, part by part;
* `Path.exists_normalize_iff`: which texts are normal;
* `Path.normal_texts_are_paths`: what holds of normal texts, cut and joined;
* `Address.textIsAbove_eq_isAbove`: what lies above shows in the texts.
-/
namespace ArtifactCache

namespace Path
variable {d p : Path}

/-! ## Normal texts -/

theorem segments_ofText_of_slash_notMem {part : String} (free : '/' ∉ part.toList) :
    (ofText part).segments = [part].filter fun s => s ≠ "" ∧ s ≠ "." ∧ s ≠ ".." := by
  have whole : parts part = [part] := by simp [parts, Text.split, Text.cut_eq_of_notMem '/' free]
  simp only [ofText, whole]

/-- Parts with slashes between them name the path of those parts that name something. -/
theorem segments_ofText_intercalate {parts : List String}
    (free : ∀ part ∈ parts, '/' ∉ part.toList) : (ofText ("/".intercalate parts)).segments =
      parts.filter fun s => s ≠ "" ∧ s ≠ "." ∧ s ≠ ".." := by
  induction parts with
  | nil => rfl
  | cons part rest ih =>
    have here := segments_ofText_of_slash_notMem (free part List.mem_cons_self)
    have behind := ih fun s mem => free s (List.mem_cons_of_mem _ mem)
    by_cases last : rest = []
    · rw [last, String.intercalate_singleton, here]
    · calc (ofText ("/".intercalate (part :: rest))).segments
        _ = (ofText part).segments ++ (ofText ("/".intercalate rest)).segments := by
          rw [String.intercalate_cons_of_ne_nil last, ofText_append_slash]
          rfl
        _ = (part :: rest).filter fun s => s ≠ "" ∧ s ≠ "." ∧ s ≠ ".." := by
          rw [here, behind, ← List.filter_append, List.singleton_append]

theorem normalize_eq_iff {s t : String} :
    normalize s = normalize t ↔ (ofText s).segments = (ofText t).segments := by
  rw [← eq_iff]
  exact ⟨fun same => text_injective same, congrArg text⟩

/-- A text is normal if it is empty or segments with slashes between them. -/
theorem exists_normalize_iff {t : String} : (∃ s, normalize s = t) ↔
    t = "" ∨ ∃ parts, parts ≠ [] ∧ t = "/".intercalate parts ∧ ∀ part ∈ parts, IsSegment part := by
  constructor
  · rintro ⟨s, rfl⟩
    rw [normalize, text_eq_intercalate]
    by_cases none_left : (ofText s).segments = []
    · exact .inl (by rw [none_left, String.intercalate_nil])
    · exact .inr ⟨_, none_left, rfl, (ofText s).named⟩
  · rintro (rfl | ⟨parts, _, rfl, named⟩)
    · exact ⟨"", rfl⟩
    · refine ⟨"/".intercalate parts, ?_⟩
      have kept : (ofText ("/".intercalate parts)).segments = parts := by
        rw [segments_ofText_intercalate fun part mem => (named part mem).2.2.2, List.filter_eq_self]
        intro part mem
        obtain ⟨some_left, dot, dots, _⟩ := named part mem
        simp [some_left, dot, dots]
      rw [normalize, text_eq_intercalate, kept]

/-! ## Joining -/

/-- Joining the texts of paths joins the paths. -/
theorem joinText_text (p q : Path) : joinText p.text q.text = (p.append q).text := by
  rw [← text_child, child, ofText_text]

theorem joinText_normalize (s t : String) : joinText (normalize s) t = normalize (s ++ "/" ++ t) := by
  rw [normalize, normalize, ← text_child, ofText_append_slash]
  rfl

/-- **Normal texts are paths.** A text and its normal text name the same segments, which are its
parts between slashes that name something. So normal texts are kept, two texts have one normal
text if they name the same segments, and the normal texts are those that join segments. Joining
normal texts joins what they name: it is associative, and the empty text is its unit. -/
theorem normal_texts_are_paths :
    (∀ t, (ofText (normalize t)).segments = (ofText t).segments ∧
      normalize (normalize t) = normalize t) ∧
    (∀ parts : List String, (∀ part ∈ parts, '/' ∉ part.toList) →
      (ofText ("/".intercalate parts)).segments =
        parts.filter fun s => s ≠ "" ∧ s ≠ "." ∧ s ≠ "..") ∧
    (∀ s t, normalize s = normalize t ↔ (ofText s).segments = (ofText t).segments) ∧
    (∀ t, (∃ s, normalize s = t) ↔ t = "" ∨ ∃ parts, parts ≠ [] ∧ t = "/".intercalate parts ∧
      ∀ part ∈ parts, part ≠ "" ∧ part ≠ "." ∧ part ≠ ".." ∧ '/' ∉ part.toList) ∧
    (∀ s t, joinText (normalize s) t = normalize (s ++ "/" ++ t)) ∧
    (∀ s t u, joinText (joinText (normalize s) (normalize t)) (normalize u) =
      joinText (normalize s) (joinText (normalize t) (normalize u))) ∧
    ∀ t, joinText "" (normalize t) = normalize t ∧ joinText (normalize t) "" = normalize t := by
  refine ⟨fun t => ⟨by rw [normalize, ofText_text], normalize_normalize t⟩,
    fun parts free => segments_ofText_intercalate free, fun s t => normalize_eq_iff,
    fun t => exists_normalize_iff, joinText_normalize, fun s t u => ?_, fun t => ⟨?_, ?_⟩⟩
  · simp only [normalize, joinText_text, append_assoc]
  · exact joinText_text root (ofText t)
  · have joined := joinText_text (ofText t) root
    rwa [append_root] at joined

/-! ## What lies above -/

/-- Below the root, a path lies above those whose text goes on with a slash behind its own. -/
theorem exists_text_behind_iff (below : d.isRoot = false) :
    (∃ rest, d.text.toList ++ '/' :: rest = p.text.toList) ↔
      d.segments <+: p.segments ∧ d ≠ p := by
  constructor
  · rintro ⟨rest, texts⟩
    have text : d.text ++ "/" ++ String.ofList rest = p.text := by
      rw [← String.toList_inj]
      simpa using texts
    have joined : p = d.append (ofText (String.ofList rest)) := by
      rw [← ofText_text p, ← text, ofText_append_slash, ofText_text]
    refine ⟨joined ▸ List.prefix_append _ _, ?_⟩
    rintro rfl
    have longer := congrArg List.length texts
    simp at longer
  · rintro ⟨⟨more, segments⟩, ne⟩
    have some_front : d.segments ≠ [] := fun none_left => by simp [isRoot, none_left] at below
    have some_more : more ≠ [] := by
      rintro rfl
      exact ne (eq_iff.2 (by rw [← segments, List.append_nil]))
    refine ⟨Text.join '/' (more.map String.toList), ?_⟩
    rw [toList_text, toList_text, ← segments, List.map_append,
      Text.join_append '/' (by simpa using some_front) (by simpa using some_more)]

/-- What is behind the text of `d` in that of `p`, if it begins with a slash. -/
theorem any_isPrefixOf?_iff : ((d.text.toList.isPrefixOf? p.text.toList).any
      fun rest => rest.head? = some '/') = true ↔
    ∃ rest, d.text.toList ++ '/' :: rest = p.text.toList := by
  simp only [Option.any_eq_true, List.isPrefixOf?_eq_some_iff_append_eq, decide_eq_true_eq]
  constructor
  · rintro ⟨behind, texts, slash⟩
    obtain ⟨rest, rfl⟩ := List.head?_eq_some_iff.1 slash
    exact ⟨rest, texts⟩
  · rintro ⟨rest, texts⟩
    exact ⟨_, texts, rfl⟩

theorem textIsAbove_iff : d.textIsAbove p = true ↔ d.segments <+: p.segments ∧ d ≠ p := by
  rw [textIsAbove, Bool.and_eq_true, Bool.or_eq_true, any_isPrefixOf?_iff, decide_eq_true_eq]
  cases top : d.isRoot with
  | true => simp [isRoot_iff.1 top]
  | false =>
    rw [exists_text_behind_iff top]
    simp [and_comm]

end Path

namespace Address

theorem textIsAbove_eq_isAbove : textIsAbove = isAbove := by
  funext d a
  have paths : d.path.textIsAbove a.path = d.path.isAbove a.path :=
    Bool.eq_iff_iff.2 (Path.textIsAbove_iff.trans (by simp [Path.isAbove]))
  rw [textIsAbove, isAbove, paths]

end Address
end ArtifactCache
