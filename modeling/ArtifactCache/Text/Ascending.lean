/-!
Names in ascending order of their characters.
-/
namespace ArtifactCache.Text

/-- Puts a name at its place, unless it is there already. -/
def insertName (name : String) : List String → List String
  | [] => [name]
  | first :: rest =>
    if name < first then name :: first :: rest
    else if name = first then first :: rest
    else first :: insertName name rest

/-- The names in ascending order, each once. -/
def ascending (names : List String) : List String := names.foldr insertName []

theorem mem_insertName {name x : String} {names : List String} :
    x ∈ insertName name names ↔ x = name ∨ x ∈ names := by
  induction names with
  | nil => simp [insertName]
  | cons first rest ih => grind [insertName]

theorem mem_ascending {x : String} {names : List String} : x ∈ ascending names ↔ x ∈ names := by
  induction names with
  | nil => simp [ascending]
  | cons first rest ih =>
    rw [ascending, List.foldr_cons, mem_insertName, ← ascending, ih, List.mem_cons]

/-- The names in ascending order, as often as they are given. -/
def sorted (names : List String) : List String := names.mergeSort fun a b => !(b < a)

end ArtifactCache.Text
