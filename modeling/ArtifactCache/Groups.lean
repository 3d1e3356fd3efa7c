import ArtifactCache.Failure
import ArtifactCache.Table

/-!
Named groups of locations and their expansion. A group stands for its members
in their order, groups among them expanded in place, and each URI counts only
where it is met first.
-/
namespace ArtifactCache

structure Groups where
  table : Table String (List Location) := ∅

namespace Groups

/-- Later groups replace earlier ones of the same name. -/
def ofPairs (pairs : List (String × List Location)) : Groups := ⟨Table.ofPairs pairs⟩

def members? (g : Groups) (name : String) : Option (List Location) := g.table.get? name

/-- The names of the groups that are not on the way. -/
def unvisited (g : Groups) (way : List String) : Nat :=
  (g.table.keys.filter fun name => !way.contains name).length

theorem unvisited_lt (g : Groups) {way : List String} {name : String} {members : List Location}
    (hm : g.members? name = some members) (hw : way.contains name = false) :
    g.unvisited (way ++ [name]) < g.unvisited way := by
  have hk : name ∈ g.table.keys := (g.table.mem_keys_iff name).2 (by simp [members?] at hm; simp [hm])
  unfold unvisited
  rw [← List.countP_eq_length_filter, ← List.countP_eq_length_filter]
  have hle : ∀ l : List String, l.countP (fun n => !(way ++ [name]).contains n)
      ≤ l.countP (fun n => !way.contains n) := fun l =>
    List.countP_mono_left fun n _ h => by simp_all
  have hlt : ∀ l : List String, name ∈ l → l.countP (fun n => !(way ++ [name]).contains n)
      < l.countP (fun n => !way.contains n) := by
    intro l
    induction l with
    | nil => simp
    | cons n l ih =>
      intro h
      rw [List.countP_cons, List.countP_cons]
      rcases List.mem_cons.1 h with rfl | h
      · have := hle l
        simp only [List.contains_eq_mem, List.mem_append, List.mem_singleton, or_true, decide_true,
          Bool.not_true, Bool.false_eq_true, if_false] at hw ⊢
        simp only [hw, Bool.not_false, if_true]
        simp only [List.contains_eq_mem, List.mem_append, List.mem_singleton] at this
        omega
      · have := ih h
        have h1 : (if (!(way ++ [name]).contains n) = true then 1 else 0)
            ≤ (if (!way.contains n) = true then 1 else 0) := by
          by_cases hn : way.contains n = true
          · simp_all
          · simp_all
            split <;> omega
        omega
  exact hlt _ hk

set_option linter.unusedVariables false in
/-- Adds what `l` stands for to the locations found so far. `way` holds the
groups that are being expanded, the outermost first. -/
def gather (g : Groups) (way : List String) (found : List Location) (l : Location) :
    Except Failure (List Location) :=
  if l.isGroup then
    if hw : way.contains l.name then .error (.cycle (way ++ [l.name]))
    else match hm : g.members? l.name with
      | none => .error (.invalidResource (.unknownGroup l.name))
      | some members =>
        members.foldlM (fun found member => g.gather (way ++ [l.name]) found member) found
  else .ok (if found.any l.same then found else found ++ [l])
termination_by g.unvisited way
decreasing_by exact g.unvisited_lt hm (by simpa using hw)

/-- The locations that a list stands for, each URI once. -/
def expand (g : Groups) (locations : List Location) : Except Failure (List Location) :=
  locations.foldlM (g.gather []) []

end Groups

/-- How the locations that a caller names become locations to visit. -/
inductive Expansion
  /-- They are taken as they are. -/
  | identity
  | groups (g : Groups)

namespace Expansion

def expand : Expansion → List Location → Except Failure (List Location)
  | identity, locations => .ok locations
  | groups g, locations => g.expand locations

/-- The path over the locations that the given ones stand for. -/
def spread (e : Expansion) (locations : List Location) (path : String) :
    Except Failure Spread := do
  match Spread.ofText? (← e.expand locations) path with
  | some spread => return spread
  | none => throw (.invalidResource (.noLocations path))

end Expansion
end ArtifactCache
