import ArtifactCache.Text.Pieces

/-!
Paths inside a location. A path is its segments; its text joins them with
`/`. `ofText_text` says that the text of a path names that path and no other,
and `normalize_normalize` that a normal text is its own normal form.
-/
namespace ArtifactCache

/-- A segment names a child of its parent: it is not empty, it is neither `.`
nor `..`, and it holds no `/`. -/
def IsSegment (s : String) : Prop :=
  s ≠ "" ∧ s ≠ "." ∧ s ≠ ".." ∧ '/' ∉ s.toList

instance (s : String) : Decidable (IsSegment s) := by unfold IsSegment; infer_instance

structure Path where
  segments : List String
  named : ∀ s ∈ segments, IsSegment s := by simp
  deriving DecidableEq

namespace Path

/-- The parts between the slashes of a text. -/
def parts (text : String) : List String := (Text.split '/' text.toList).map String.ofList

theorem slash_notMem_of_mem_parts {text s : String} (h : s ∈ parts text) : '/' ∉ s.toList := by
  obtain ⟨piece, hp, rfl⟩ := List.mem_map.1 h
  simpa using Text.mark_notMem_of_mem_split hp

/-- The path that a text names. Empty parts, `.` and `..` are dropped, so no
spelling leads out of the location. -/
def ofText (text : String) : Path where
  segments := (parts text).filter fun s => s ≠ "" ∧ s ≠ "." ∧ s ≠ ".."
  named s h := by
    simp only [List.mem_filter, decide_eq_true_eq] at h
    exact ⟨h.2.1, h.2.2.1, h.2.2.2, slash_notMem_of_mem_parts h.1⟩

def text (p : Path) : String :=
  String.ofList (Text.join '/' (p.segments.map String.toList))

/-- The one normal text of the path that `t` names. -/
def normalize (t : String) : String := (ofText t).text

/-- The path of the location itself. -/
def root : Path := { segments := [] }

def isRoot (p : Path) : Bool := p.segments.isEmpty

/-- The path without its last segment; the root is its own parent. -/
def parent (p : Path) : Path where
  segments := p.segments.dropLast
  named s h := p.named s ((List.dropLast_sublist _).mem h)

def append (p q : Path) : Path where
  segments := p.segments ++ q.segments
  named s h := (List.mem_append.1 h).elim (p.named s) (q.named s)

/-- The segments of `name` below `p`. -/
def child (p : Path) (name : String) : Path := p.append (ofText name)

def fileName (p : Path) : Option String := p.segments.getLast?

/-- Puts the normal form of `child` below `parent`, which is taken as it stands. -/
def joinText (parent child : String) : String :=
  if parent = "" then normalize child
  else if normalize child = "" then parent
  else parent ++ "/" ++ normalize child

/-- `d` lies strictly above `p`. -/
def isAbove (d p : Path) : Bool := d.segments.isPrefixOf p.segments && d ≠ p

/-- The same as the texts show it: what follows the text of `d` in that of `p`
begins with a slash. The root has no text, and all other paths lie below it. -/
def textIsAbove (d p : Path) : Bool :=
  d ≠ p && (d.isRoot ||
    (d.text.toList.isPrefixOf? p.text.toList).any fun rest => rest.head? = some '/')

theorem eq_iff {p q : Path} : p = q ↔ p.segments = q.segments := by
  cases p
  cases q
  simp

/-- A normal text is empty or joins segments with single slashes. -/
theorem ofText_text (p : Path) : ofText p.text = p := by
  have key : (parts p.text).filter (fun s => s ≠ "" ∧ s ≠ "." ∧ s ≠ "..") = p.segments := by
    have hs : ∀ s ∈ p.segments, s ≠ "" ∧ s ≠ "." ∧ s ≠ ".." := fun s h =>
      ⟨(p.named s h).1, (p.named s h).2.1, (p.named s h).2.2.1⟩
    by_cases hne : p.segments = []
    · simp [parts, text, hne, Text.join, Text.split, Text.cut]
    · have hsplit : parts p.text = p.segments := by
        unfold parts text
        rw [String.toList_ofList, Text.split_join '/' (by simpa using hne)]
        · simp [Function.comp_def]
        · intro piece hp
          obtain ⟨s, hm, rfl⟩ := List.mem_map.1 hp
          exact (p.named s hm).2.2.2
      rw [hsplit]
      exact List.filter_eq_self.2 fun s h => by simpa using hs s h
  cases p
  simpa [ofText] using key

theorem normalize_normalize (t : String) : normalize (normalize t) = normalize t := by
  unfold normalize
  rw [ofText_text]

theorem text_injective {p q : Path} (h : p.text = q.text) : p = q := by
  rw [← ofText_text p, h, ofText_text]

end Path
end ArtifactCache
