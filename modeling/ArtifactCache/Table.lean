/-!
Finite maps with one value to a key. The view of a table is `get?`; each
operation says what it does to that view, and `size` counts the keys.
-/
namespace ArtifactCache

/-- Rows of distinct keys, the latest key first. -/
structure Table (κ ν : Type) where
  rows : List (κ × ν) := []
  distinct : (rows.map (·.1)).Nodup := by simp

namespace Table
variable {κ ν : Type}

def empty : Table κ ν := {}

instance : Inhabited (Table κ ν) := ⟨empty⟩
instance : EmptyCollection (Table κ ν) := ⟨empty⟩

def keys (t : Table κ ν) : List κ := t.rows.map (·.1)

def size (t : Table κ ν) : Nat := t.rows.length

variable [DecidableEq κ]

def get? (t : Table κ ν) (k : κ) : Option ν :=
  (t.rows.find? (·.1 = k)).map (·.2)

def contains (t : Table κ ν) (k : κ) : Bool := (t.get? k).isSome

/-- The rows that are not at `k`. -/
def erase (t : Table κ ν) (k : κ) : Table κ ν where
  rows := t.rows.filter (·.1 ≠ k)
  distinct := t.distinct.sublist ((List.filter_sublist).map _)

/-- Puts `v` at `k`, in place of what was there. -/
def insert (t : Table κ ν) (k : κ) (v : ν) : Table κ ν where
  rows := (k, v) :: (t.erase k).rows
  distinct := by
    refine List.nodup_cons.2 ⟨?_, (t.erase k).distinct⟩
    simp [erase]

/-- Keeps the rows that pass the test. -/
def filter (t : Table κ ν) (keep : κ → ν → Bool) : Table κ ν where
  rows := t.rows.filter fun (k, v) => keep k v
  distinct := t.distinct.sublist ((List.filter_sublist).map _)

/-- Later pairs win over earlier ones of the same key. -/
def ofPairs (pairs : List (κ × ν)) : Table κ ν :=
  pairs.foldl (fun t (k, v) => t.insert k v) ∅

@[simp] theorem get?_empty (k : κ) : (∅ : Table κ ν).get? k = none := rfl

theorem get?_insert (t : Table κ ν) (k j : κ) (v : ν) :
    (t.insert k v).get? j = if k = j then some v else t.get? j := by
  unfold get? insert erase
  by_cases h : k = j
  · simp [h]
  · simp only [List.find?_cons, h, decide_false, List.find?_filter, if_false]
    congr 1
    congr 1
    funext row
    by_cases hr : row.1 = j
    · simp [hr, Ne.symm h]
    · simp [hr]

@[simp] theorem get?_insert_self (t : Table κ ν) (k : κ) (v : ν) :
    (t.insert k v).get? k = some v := by simp [get?_insert]

theorem get?_insert_of_ne (t : Table κ ν) {k j : κ} (h : k ≠ j) (v : ν) :
    (t.insert k v).get? j = t.get? j := by simp [get?_insert, h]

theorem get?_erase (t : Table κ ν) (k j : κ) :
    (t.erase k).get? j = if k = j then none else t.get? j := by
  unfold get? erase
  by_cases h : k = j
  · subst h
    simp [List.find?_filter]
  · simp only [List.find?_filter, h, if_false]
    congr 1
    congr 1
    funext row
    by_cases hr : row.1 = j
    · simp [hr, Ne.symm h]
    · simp [hr]

theorem get?_filter (t : Table κ ν) (keep : κ → ν → Bool) (k : κ) :
    (t.filter keep).get? k = (t.get? k).filter (keep k) := by
  obtain ⟨rows, distinct⟩ := t
  unfold get? filter
  induction rows with
  | nil => rfl
  | cons row rest ih =>
    obtain ⟨j, v⟩ := row
    obtain ⟨apart, distinct⟩ := List.nodup_cons.1 distinct
    have others := ih distinct
    by_cases here : j = k
    · subst here
      -- No other row has this key.
      have gone : rest.find? (·.1 = j) = none :=
        List.find?_eq_none.2 fun other mem same =>
          apart (List.mem_map.2 ⟨other, mem, of_decide_eq_true same⟩)
      rw [gone] at others
      by_cases kept : keep j v = true
      · simp [kept, Option.filter]
      · simpa [kept, Option.filter] using others
    · by_cases kept : keep j v = true
      · simpa [here, kept] using others
      · simpa [here, kept] using others

theorem mem_keys_iff (t : Table κ ν) (k : κ) : k ∈ t.keys ↔ (t.get? k).isSome := by
  unfold keys get?
  rw [Option.isSome_map, List.find?_isSome]
  simp only [List.mem_map, decide_eq_true_eq]

end Table
end ArtifactCache
