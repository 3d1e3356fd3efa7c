import ArtifactCache.Document.Shelf
import Mathlib.Data.List.Basic
import Mathlib.Data.List.Count

/-!
# A shelf that clears itself

A shelf forgets the dead documents that it meets. Nobody misses them: a document whose last
holder is gone can never be held again, so its place answers as an empty one does, now and
later.

* `Shelf.living?`: the only thing that is ever seen of a place;
* `Shelf.Clears`: what looking up does to a shelf;
* `Shelf.Use`: what is done with documents and a shelf; `Shelf.Possible`: the runs in which
  new documents are new, and only documents that somebody holds are handed on or put;
* `Shelf.living?_after`: after any run a place answers with the document put last, if it
  lives;
* `Shelf.clearing_is_invisible`: what lookups answer, told without any clearing.
-/
namespace ArtifactCache.Shelf
variable {K D : Type} {s s' s₁ s₂ : Shelf K D} {d : Document D}

/-! ## What is seen of a shelf -/

theorem isAlive_iff : s.isAlive d = true ↔ d.number ∈ s.held := by
  simp [isAlive]

variable [DecidableEq K] {slot : K × String} {key : K} {l : Location} {ls : List Location}

/-- The living document at a place. -/
def living? (s : Shelf K D) (slot : K × String) : Option (Document D) :=
  (s.places.get? slot).filter fun d => s.isAlive d

theorem living?_eq_some_iff :
    s.living? slot = some d ↔ s.places.get? slot = some d ∧ s.isAlive d = true := by
  simp [living?, Option.filter_eq_some_iff]

/-- `s'` is `s` but for dead documents that were cleared away, and for more holders of
documents that live anyway. -/
structure Clears (s s' : Shelf K D) : Prop where
  made : s'.made = s.made
  alive (n : Nat) : n ∈ s'.held ↔ n ∈ s.held
  kept {slot : K × String} {d : Document D} :
    s'.places.get? slot = some d → s.places.get? slot = some d
  living {slot : K × String} {d : Document D} :
    s.places.get? slot = some d → s.isAlive d = true → s'.places.get? slot = some d

theorem Clears.refl (s : Shelf K D) : Clears s s := ⟨rfl, fun _ => .rfl, id, fun h _ => h⟩

theorem Clears.isAlive_eq (clears : Clears s s') (d : Document D) :
    s'.isAlive d = s.isAlive d := by
  rw [Bool.eq_iff_iff, isAlive_iff, isAlive_iff, clears.alive]

theorem Clears.trans (first : Clears s s₁) (second : Clears s₁ s₂) : Clears s s₂ where
  made := second.made.trans first.made
  alive n := (second.alive n).trans (first.alive n)
  kept at_place := first.kept (second.kept at_place)
  living at_place lives :=
    second.living (first.living at_place lives) ((first.isAlive_eq _).trans lives)

theorem Clears.living?_eq (clears : Clears s s') (slot : K × String) :
    s'.living? slot = s.living? slot := by
  refine Option.ext fun d => ?_
  rw [living?_eq_some_iff, living?_eq_some_iff, clears.isAlive_eq]
  exact ⟨fun ⟨at_place, lives⟩ => ⟨clears.kept at_place, lives⟩,
    fun ⟨at_place, lives⟩ => ⟨clears.living at_place lives, lives⟩⟩

theorem Clears.filter_living? (clears : Clears s s') (slot : K × String) :
    ((s.living? slot).filter fun d => s'.isAlive d) = s.living? slot := by
  refine Option.ext fun d => ?_
  rw [Option.filter_eq_some_iff, clears.isAlive_eq]
  exact ⟨And.left, fun seen => ⟨seen, (living?_eq_some_iff.1 seen).2⟩⟩

/-! ### Looking up -/

theorem get_fst (s : Shelf K D) (key : K) (l : Location) :
    (s.get key l).1 = s.living? (key, l.uri) := by
  unfold get living?
  cases s.places.get? (key, l.uri) with
  | none => rfl
  | some d => cases lives : s.isAlive d <;> simp [lives, Option.filter]

theorem held_get (s : Shelf K D) (key : K) (l : Location) :
    (s.get key l).2.held = (s.living? (key, l.uri)).toList.map (·.number) ++ s.held := by
  unfold get living?
  cases s.places.get? (key, l.uri) with
  | none => rfl
  | some d => cases lives : s.isAlive d <;> simp [lives, Option.filter, hold]

theorem clears_get (s : Shelf K D) (key : K) (l : Location) : Clears s (s.get key l).2 := by
  unfold get
  cases found : s.places.get? (key, l.uri) with
  | none => exact .refl s
  | some d =>
    dsimp only
    split
    · next lives =>
      have held : d.number ∈ s.held := isAlive_iff.1 lives
      exact ⟨rfl, fun n => by simpa [hold] using fun same => same ▸ held, id, fun h _ => h⟩
    · next dead =>
      refine ⟨rfl, fun _ => .rfl, fun {slot d'} at_place => ?_, fun {slot d'} at_place lives => ?_⟩
      · rw [Table.get?_erase] at at_place
        split at at_place
        · cases at_place
        · exact at_place
      · rw [Table.get?_erase, if_neg]
        · exact at_place
        -- A living document is not the one that was found dead here.
        · rintro rfl
          obtain rfl := Option.some.inj (found.symm.trans at_place)
          exact dead lives

theorem getFirst_fst (s : Shelf K D) (key : K) (ls : List Location) :
    (s.getFirst key ls).1 = ls.findSome? fun l => s.living? (key, l.uri) := by
  induction ls generalizing s with
  | nil => rfl
  | cons l rest ih =>
    have here := get_fst s key l
    have clears := clears_get s key l
    rw [getFirst, List.findSome?_cons, ← here]
    rcases got : s.get key l with ⟨_ | d, s₁⟩
    · rw [got] at clears
      simp only [ih, clears.living?_eq]
    · rfl

theorem held_getFirst (s : Shelf K D) (key : K) (ls : List Location) :
    (s.getFirst key ls).2.held = (s.getFirst key ls).1.toList.map (·.number) ++ s.held := by
  induction ls generalizing s with
  | nil => rfl
  | cons l rest ih =>
    have held := held_get s key l
    have here := get_fst s key l
    rw [getFirst]
    rcases got : s.get key l with ⟨_ | d, s₁⟩
    · rw [← here, got] at held
      simpa [ih] using held
    · rw [← here, got] at held
      exact held

theorem clears_getFirst (s : Shelf K D) (key : K) (ls : List Location) :
    Clears s (s.getFirst key ls).2 := by
  induction ls generalizing s with
  | nil => exact .refl s
  | cons l rest ih =>
    have clears := clears_get s key l
    rw [getFirst]
    rcases got : s.get key l with ⟨_ | d, s₁⟩
    · rw [got] at clears
      exact clears.trans (ih s₁)
    · rw [got] at clears
      exact clears

theorem getAll_fst (s : Shelf K D) (key : K) (ls : List Location) :
    (s.getAll key ls).1 =
      ls.filterMap fun l => (s.living? (key, l.uri)).map fun d => (l, d) := by
  induction ls generalizing s with
  | nil => rfl
  | cons l rest ih =>
    have same := (clears_get s key l).living?_eq
    rw [getAll, List.filterMap_cons, ← get_fst s key l]
    simp only [ih, same]
    cases (s.get key l).1 <;> rfl

theorem held_getAll (s : Shelf K D) (key : K) (ls : List Location) :
    (s.getAll key ls).2.held =
      ((s.getAll key ls).1.map (·.2.number)).reverse ++ s.held := by
  induction ls generalizing s with
  | nil => rfl
  | cons l rest ih =>
    have held := held_get s key l
    rw [← get_fst] at held
    simp only [getAll, ih, held]
    cases (s.get key l).1 <;> simp

theorem clears_getAll (s : Shelf K D) (key : K) (ls : List Location) :
    Clears s (s.getAll key ls).2 := by
  induction ls generalizing s with
  | nil => exact .refl s
  | cons l rest ih => exact (clears_get s key l).trans (ih _)

theorem clears_purge (s : Shelf K D) : Clears s s.purge.2 where
  made := rfl
  alive _ := .rfl
  kept at_place := by
    rw [purge, Table.get?_filter, Option.filter_eq_some_iff] at at_place
    exact at_place.1
  living at_place lives := by
    rw [purge, Table.get?_filter, Option.filter_eq_some_iff]
    exact ⟨at_place, lives⟩

/-! ### Holding and giving back -/

omit [DecidableEq K] in
theorem held_release (s : Shelf K D) (ds : List (Document D)) :
    (s.release ds).held = s.held.diff (ds.map (·.number)) := by
  rw [release, List.diff_eq_foldl, List.foldl_map]

omit [DecidableEq K] in
/-- What was held in addition is given back. -/
theorem perm_release {ds : List (Document D)} {rest : List Nat}
    (held : s.held.Perm (ds.map (·.number) ++ rest)) : (s.release ds).held.Perm rest := by
  rw [held_release, List.perm_iff_count]
  intro n
  rw [List.count_diff, held.count_eq, List.count_append]
  omega

/-- Numbers tell documents apart: all that are held or were put have been given out. -/
structure Orderly (s : Shelf K D) : Prop where
  held : ∀ n ∈ s.held, n < s.made
  places {slot : K × String} {d : Document D} :
    s.places.get? slot = some d → d.number < s.made

theorem orderly_empty : Orderly ({} : Shelf K D) := ⟨nofun, nofun⟩

theorem Orderly.alive (orderly : s.Orderly) (lives : s.isAlive d = true) : d.number < s.made :=
  orderly.held _ (isAlive_iff.1 lives)

theorem Clears.orderly (clears : Clears s s') (orderly : s.Orderly) : s'.Orderly where
  held n mem := clears.made ▸ orderly.held n ((clears.alive n).1 mem)
  places at_place := clears.made ▸ orderly.places (clears.kept at_place)

/-! ## Runs -/

/-- What is done with documents and a shelf. Who looks something up gives back what was
found; to keep it is to hold it, which is a step of its own. -/
inductive Use (K D : Type)
  /-- There is a new document, and somebody holds it. -/
  | bring (d : Document D)
  | hold (d : Document D)
  | drop (d : Document D)
  | put (key : K) (l : Location) (d : Document D)
  | first (key : K) (ls : List Location)
  | all (key : K) (ls : List Location)
  | purge

namespace Use

def looks : Use K D → Bool
  | first .. | all .. | purge => true
  | _ => false

/-- The document that is put at the place. -/
def puts? (slot : K × String) : Use K D → Option (Document D)
  | put key l d => if (key, l.uri) = slot then some d else none
  | _ => none

/-- The document with the number has one holder more. -/
def gives (n : Nat) : Use K D → Bool
  | bring d | hold d => d.number = n
  | _ => false

/-- The document with the number has one holder less. -/
def takes (n : Nat) : Use K D → Bool
  | drop d => d.number = n
  | _ => false

/-- A new document has a new number. What nobody holds, nobody can hold on to, drop or put. -/
def Fits (s : Shelf K D) : Use K D → Prop
  | bring d => s.made ≤ d.number
  | hold d | drop d | put _ _ d => s.isAlive d = true
  | _ => True

end Use

instance (s : Shelf K D) : (u : Use K D) → Decidable (u.Fits s)
  | .bring d => inferInstanceAs (Decidable (s.made ≤ d.number))
  | .hold d | .drop d | .put _ _ d => inferInstanceAs (Decidable (s.isAlive d = true))
  | .first .. | .all .. | .purge => isTrue trivial

def use (s : Shelf K D) : Use K D → Shelf K D
  | .bring d => { s with made := d.number + 1, held := d.number :: s.held }
  | .hold d => s.hold d
  | .drop d => s.release [d]
  | .put key l d => s.put key l d
  | .first key ls => (s.getFirst key ls).2.release (s.getFirst key ls).1.toList
  | .all key ls => (s.getAll key ls).2.release ((s.getAll key ls).1.map (·.2))
  | .purge => s.purge.2

def after (s : Shelf K D) (uses : List (Use K D)) : Shelf K D := uses.foldl use s

/-- Each use fits the shelf as it is then. -/
def Possible : List (Use K D) → Shelf K D → Prop
  | [], _ => True
  | u :: rest, s => u.Fits s ∧ Possible rest (s.use u)

instance decidablePossible : (uses : List (Use K D)) → (s : Shelf K D) →
    Decidable (Possible uses s)
  | [], _ => isTrue trivial
  | u :: rest, s =>
    have := decidablePossible rest (s.use u)
    inferInstanceAs (Decidable (u.Fits s ∧ Possible rest (s.use u)))

/-! ### One step -/

section
variable {u : Use K D}

/-- Looking up leaves all holders as they were. -/
theorem held_use_of_looks (looks : u.looks = true) : (s.use u).held.Perm s.held := by
  cases u with
  | bring | hold | drop | put => cases looks
  | first key ls => exact perm_release (.of_eq (held_getFirst s key ls))
  | all key ls =>
    refine perm_release ((List.Perm.of_eq (held_getAll s key ls)).trans ?_)
    rw [List.map_map]
    exact (List.reverse_perm _).append_right _
  | purge => exact .refl _

theorem clears_use (looks : u.looks = true) : Clears s (s.use u) := by
  have held : (s.use u).held.Perm s.held := held_use_of_looks looks
  cases u with
  | bring | hold | drop | put => cases looks
  | first key ls =>
    have clears := clears_getFirst s key ls
    exact ⟨clears.made, fun _ => held.mem_iff, clears.kept, clears.living⟩
  | all key ls =>
    have clears := clears_getAll s key ls
    exact ⟨clears.made, fun _ => held.mem_iff, clears.kept, clears.living⟩
  | purge => exact clears_purge s

theorem count_use (fits : u.Fits s) (n : Nat) :
    (s.use u).held.count n + (u.takes n).toNat = s.held.count n + (u.gives n).toNat := by
  cases u with
  | bring d | hold d =>
    by_cases same : d.number = n <;> simp [use, hold, Use.takes, Use.gives, same]
  | drop d =>
    have held : 0 < s.held.count d.number := List.count_pos_iff.2 (isAlive_iff.1 fits)
    simp only [use, held_release, List.count_diff, Use.takes, Use.gives]
    by_cases same : d.number = n
    · subst same
      simp
      omega
    · simp [same]
  | put => rfl
  | first | all | purge => simpa [Use.takes, Use.gives] using (held_use_of_looks rfl).count_eq n

theorem made_le_use (fits : u.Fits s) : s.made ≤ (s.use u).made := by
  cases u with
  | bring d => exact Nat.le_succ_of_le fits
  | hold | drop | put => exact Nat.le_refl _
  | first | all | purge =>
    refine Nat.le_of_eq (clears_use ?_).made.symm
    rfl

/-- A dead document stays dead. -/
theorem isAlive_of_use (fits : u.Fits s) (old : d.number < s.made)
    (lives : (s.use u).isAlive d = true) : s.isAlive d = true := by
  rw [isAlive_iff] at lives ⊢
  cases u with
  | bring d' =>
    obtain same | mem := List.mem_cons.1 lives
    · exact absurd (same ▸ old) (Nat.not_lt.2 fits)
    · exact mem
  | hold d' =>
    obtain same | mem := List.mem_cons.1 lives
    · exact same ▸ isAlive_iff.1 fits
    · exact mem
  | drop d' =>
    rw [use, held_release] at lives
    exact (List.diff_sublist _ _).subset lives
  | put => exact lives
  | first | all | purge => exact (held_use_of_looks rfl).mem_iff.1 lives

theorem orderly_use (fits : u.Fits s) (orderly : s.Orderly) : (s.use u).Orderly := by
  cases u with
  | bring d =>
    refine ⟨fun n mem => ?_, fun at_place => ?_⟩
    · obtain rfl | mem := List.mem_cons.1 mem
      · exact Nat.lt_succ_self _
      · exact Nat.lt_succ_of_le (Nat.le_of_lt (Nat.lt_of_lt_of_le (orderly.held n mem) fits))
    · exact Nat.lt_succ_of_le (Nat.le_of_lt (Nat.lt_of_lt_of_le (orderly.places at_place) fits))
  | hold d =>
    refine ⟨fun n mem => ?_, orderly.places⟩
    obtain rfl | mem := List.mem_cons.1 mem
    · exact orderly.alive fits
    · exact orderly.held n mem
  | drop d =>
    refine ⟨fun n mem => orderly.held n ?_, orderly.places⟩
    rw [use, held_release] at mem
    exact (List.diff_sublist _ _).subset mem
  | put key l d =>
    refine ⟨orderly.held, fun {slot d'} at_place => ?_⟩
    rw [use, put, Table.get?_insert] at at_place
    split at at_place
    · obtain rfl := Option.some.inj at_place
      exact orderly.alive fits
    · exact orderly.places at_place
  | first | all | purge => exact (clears_use rfl).orderly orderly

/-- What is seen of a place: what was put last, as long as it lives. -/
theorem living?_use (fits : u.Fits s) (orderly : s.Orderly) (slot : K × String) :
    (s.use u).living? slot =
      ((u.puts? slot).or (s.living? slot)).filter fun d => (s.use u).isAlive d := by
  have same_places (places : (s.use u).places = s.places) :
      (s.use u).living? slot = (s.living? slot).filter fun d => (s.use u).isAlive d := by
    refine Option.ext fun d => ?_
    rw [living?_eq_some_iff, Option.filter_eq_some_iff, living?_eq_some_iff, places]
    refine ⟨fun ⟨at_place, lives⟩ => ?_, fun ⟨⟨at_place, _⟩, lives⟩ => ⟨at_place, lives⟩⟩
    exact ⟨⟨at_place, isAlive_of_use fits (orderly.places at_place) lives⟩, lives⟩
  cases u with
  | bring | hold | drop => exact same_places rfl
  | put key l d =>
    have alive (d' : Document D) : (s.put key l d).isAlive d' = s.isAlive d' := rfl
    simp only [use, living?, Use.puts?, put, Table.get?_insert] at alive ⊢
    split
    · simp
    · simp [alive, Option.filter_filter]
  | first | all | purge =>
    rw [(clears_use _).living?_eq]
    · exact ((clears_use rfl).filter_living? slot).symm
    · rfl

end

/-! ### A whole run -/

section
variable {uses uses' : List (Use K D)}

theorem isAlive_of_after (possible : Possible uses s) (old : d.number < s.made)
    (lives : (s.after uses).isAlive d = true) : s.isAlive d = true := by
  induction uses generalizing s with
  | nil => exact lives
  | cons u rest ih =>
    have then_old := Nat.lt_of_lt_of_le old (made_le_use possible.1)
    exact isAlive_of_use possible.1 old (ih possible.2 then_old lives)

/-- The document put last at the place. -/
def latest? (slot : K × String) : List (Use K D) → Option (Document D)
  | [] => none
  | u :: rest => (latest? slot rest).or (u.puts? slot)

/-- A document that was put has been given out. -/
theorem old_of_puts? {u : Use K D} (fits : u.Fits s) (orderly : s.Orderly)
    (puts : u.puts? slot = some d) : d.number < (s.use u).made := by
  cases u with
  | put key l d' =>
    rw [Use.puts?] at puts
    split at puts
    · obtain rfl := Option.some.inj puts
      exact orderly.alive fits
    · cases puts
  | _ => cases puts

/-- **What is seen of a place after a run**: the document put last, or the one that was seen
there at first, as long as it lives. No lookup has a part in this. -/
theorem living?_after (possible : Possible uses s) (orderly : s.Orderly) (slot : K × String) :
    (s.after uses).living? slot =
      ((latest? slot uses).or (s.living? slot)).filter fun d => (s.after uses).isAlive d := by
  induction uses generalizing s with
  | nil => exact ((Clears.refl s).filter_living? slot).symm
  | cons u rest ih =>
    obtain ⟨fits, possible⟩ := possible
    change ((s.use u).after rest).living? slot = _
    rw [ih possible (orderly_use fits orderly), living?_use fits orderly, latest?,
      Option.or_assoc]
    cases latest? slot rest with
    | some d => rfl
    | none =>
      -- Whoever lives at the end has lived after the first step.
      refine Option.ext fun d => ?_
      simp only [Option.none_or, Option.filter_eq_some_iff]
      refine ⟨fun ⟨⟨seen, _⟩, lives⟩ => ⟨seen, lives⟩, fun ⟨seen, lives⟩ => ?_⟩
      refine ⟨⟨seen, isAlive_of_after possible ?_ lives⟩, lives⟩
      obtain puts | ⟨_, seen⟩ := Option.or_eq_some_iff.1 seen
      · exact old_of_puts? fits orderly puts
      · have old := orderly.places (living?_eq_some_iff.1 seen).1
        exact Nat.lt_of_lt_of_le old (made_le_use fits)

theorem count_after (possible : Possible uses s) (n : Nat) :
    (s.after uses).held.count n + uses.countP (·.takes n) =
      s.held.count n + uses.countP (·.gives n) := by
  induction uses generalizing s with
  | nil => rfl
  | cons u rest ih =>
    have here := count_use possible.1 n
    have further := ih possible.2
    change ((s.use u).after rest).held.count n + _ = _
    have one (b : Bool) : (if b = true then 1 else 0) = b.toNat := by cases b <;> rfl
    rw [List.countP_cons, List.countP_cons, one, one]
    omega

/-! ### What a run tells of itself -/

/-- Somebody still holds the document: it was not dropped as often as it was held. -/
def isHeld (uses : List (Use K D)) (d : Document D) : Bool :=
  uses.countP (·.takes d.number) < uses.countP (·.gives d.number)

/-- What is found at a place after a run: the document put last for the key and the location,
if somebody still holds it. -/
def found? (uses : List (Use K D)) (key : K) (l : Location) : Option (Document D) :=
  (latest? (key, l.uri) uses).filter (isHeld uses)

theorem isAlive_after (possible : Possible uses {}) (d : Document D) :
    (({} : Shelf K D).after uses).isAlive d = isHeld uses d := by
  have count := count_after possible d.number
  rw [Bool.eq_iff_iff, isAlive_iff, ← List.count_pos_iff, isHeld, decide_eq_true_eq]
  change _ = 0 + _ at count
  omega

theorem living?_eq_found? (possible : Possible uses {}) (key : K) (l : Location) :
    (({} : Shelf K D).after uses).living? (key, l.uri) = found? uses key l := by
  have empty : ({} : Shelf K D).living? (key, l.uri) = none := rfl
  rw [living?_after possible orderly_empty, empty, Option.or_none, found?]
  exact congrArg (Option.filter · _) (funext (isAlive_after possible))

/-! ### Runs without lookups -/

theorem latest?_changes (slot : K × String) (uses : List (Use K D)) :
    latest? slot (uses.filter fun u => !u.looks) = latest? slot uses := by
  induction uses with
  | nil => rfl
  | cons u rest ih =>
    rw [List.filter_cons, latest?, ← ih]
    cases u with
    | bring | hold | drop | put => rfl
    | first | all | purge => exact (Option.or_none).symm

omit [DecidableEq K] in
theorem isHeld_changes (uses : List (Use K D)) :
    isHeld (uses.filter fun u => !u.looks) = isHeld uses := by
  funext d
  have takes (u : Use K D) : (u.takes d.number && !u.looks) = u.takes d.number := by
    cases u <;> simp [Use.takes, Use.looks]
  have gives (u : Use K D) : (u.gives d.number && !u.looks) = u.gives d.number := by
    cases u <;> simp [Use.gives, Use.looks]
  simp only [isHeld, List.countP_filter, takes, gives]

/-- What is found does not depend on the lookups of a run. -/
theorem found?_congr (same : uses'.filter (fun u => !u.looks) = uses.filter fun u => !u.looks)
    (key : K) (l : Location) : found? uses' key l = found? uses key l := by
  unfold found?
  rw [← latest?_changes, ← isHeld_changes, same, latest?_changes, isHeld_changes]

/-- Whether a run is possible depends on who holds what, and on nothing else. -/
theorem Possible.anti (possible : Possible uses s') (made : s.made ≤ s'.made)
    (held : s.held.Perm s'.held) : Possible uses s := by
  induction uses generalizing s s' with
  | nil => trivial
  | cons u rest ih =>
    obtain ⟨fits, possible⟩ := possible
    have alive {d : Document D} (lives : s'.isAlive d = true) : s.isAlive d = true :=
      isAlive_iff.2 (held.mem_iff.2 (isAlive_iff.1 lives))
    cases u with
    | bring d => exact ⟨Nat.le_trans made fits, ih possible (Nat.le_refl _) (held.cons _)⟩
    | hold d => exact ⟨alive fits, ih possible made (held.cons _)⟩
    | drop d =>
      refine ⟨alive fits, ih possible made ?_⟩
      rw [use, use, held_release, held_release]
      exact held.diff_right _
    | put key l d => exact ⟨alive fits, ih possible made held⟩
    | first | all | purge =>
      refine ⟨trivial, ih possible ?_ ?_⟩
      · rwa [(clears_use _).made, (clears_use _).made] <;> rfl
      · exact (held_use_of_looks rfl).trans (held.trans (held_use_of_looks rfl).symm)

/-- Lookups can be put into a run and taken out of it. -/
theorem possible_changes_iff (s : Shelf K D) (uses : List (Use K D)) :
    Possible (uses.filter fun u => !u.looks) s ↔ Possible uses s := by
  induction uses generalizing s with
  | nil => exact .rfl
  | cons u rest ih =>
    rw [List.filter_cons]
    cases looks : u.looks with
    | false => exact and_congr_right' (ih _)
    | true =>
      have held : (s.use u).held.Perm s.held := held_use_of_looks looks
      have made := (clears_use (s := s) looks).made
      have fits : u.Fits s := by
        cases u with
        | first | all | purge => trivial
        | bring | hold | drop | put => cases looks
      refine (ih s).trans ?_
      constructor
      · exact fun possible => ⟨fits, possible.anti (Nat.le_of_eq made) held⟩
      · exact fun possible => possible.2.anti (Nat.le_of_eq made.symm) held.symm

theorem possible_congr (same : uses'.filter (fun u => !u.looks) = uses.filter fun u => !u.looks)
    (possible : Possible uses s) : Possible uses' s := by
  rw [← possible_changes_iff] at possible ⊢
  rwa [same]

end

/-- **Clearing is invisible.** Let documents be brought, held, dropped and put, and a shelf be
searched and cleared, in any order. The first document for a key is then the one put last at
the first location where somebody still holds what was put last; all documents are these for
all locations, in their order; and clearing counts the entries whose document nobody holds
and leaves the others. Lookups that are put into the run, or taken out of it, change none of
these answers. -/
theorem clearing_is_invisible {uses : List (Use K D)} (possible : Possible uses {}) :
    let s := ({} : Shelf K D).after uses
    (∀ key ls, (s.getFirst key ls).1 = ls.findSome? (found? uses key)) ∧
    (∀ key ls, (s.getAll key ls).1 =
      ls.filterMap fun l => (found? uses key l).map fun d => (l, d)) ∧
    (s.purge.1 = s.places.rows.countP (fun row => !isHeld uses row.2) ∧
      s.purge.2.places.rows = s.places.rows.filter (fun row => isHeld uses row.2) ∧
      ∀ key l, s.purge.2.places.get? (key, l.uri) = found? uses key l) ∧
    ∀ uses', uses'.filter (fun u => !u.looks) = uses.filter (fun u => !u.looks) →
      Possible uses' {} ∧
      ∀ key ls, (((({} : Shelf K D).after uses').getFirst key ls).1 = (s.getFirst key ls).1) ∧
        ((({} : Shelf K D).after uses').getAll key ls).1 = (s.getAll key ls).1 := by
  intro s
  have seen (key : K) (l : Location) : s.living? (key, l.uri) = found? uses key l :=
    living?_eq_found? possible key l
  have alive (d : Document D) : s.isAlive d = isHeld uses d := isAlive_after possible d
  refine ⟨fun key ls => ?_, fun key ls => ?_, ⟨?_, ?_, fun key l => ?_⟩, fun uses' same => ?_⟩
  · rw [getFirst_fst]
    exact congrArg (List.findSome? · ls) (funext (seen key))
  · simp only [getAll_fst, seen]
  · simp only [purge, Table.size, Table.filter, alive]
    have split := List.length_eq_countP_add_countP (fun row => isHeld uses row.2)
      (l := s.places.rows)
    rw [← List.countP_eq_length_filter]
    simp only [Bool.not_eq_true, Bool.decide_eq_false] at split
    omega
  · simp only [purge, Table.filter, alive]
  · rw [purge, Table.get?_filter, ← seen]
    rfl
  · have possible' := possible_congr same possible
    refine ⟨possible', fun key ls => ?_⟩
    simp only [getFirst_fst, getAll_fst, living?_eq_found? possible',
      living?_eq_found? possible, found?_congr same, s, and_self]

/-- In `b` the second document has replaced the first and is dropped; the first is still held,
but does not come back. A lookup in between has cleared `b`, and nobody can tell. -/
theorem replaced_and_dropped_is_absent :
    let a : Location := { name := "a", uri := "file:///srv/a" }
    let b : Location := { name := "b", uri := "file:///srv/b" }
    let uses : List (Use String Nat) :=
      [.bring ⟨0, 10⟩, .put "k" b ⟨0, 10⟩, .bring ⟨1, 11⟩, .put "k" b ⟨1, 11⟩, .drop ⟨1, 11⟩,
        .bring ⟨2, 12⟩, .put "k" a ⟨2, 12⟩]
    let uses' := uses.take 5 ++ .first "k" [a, b] :: uses.drop 5 ++ [.purge]
    Possible uses {} ∧
      uses'.filter (fun u => !u.looks) = uses.filter (fun u => !u.looks) ∧
      found? uses "k" b = none ∧
      ((({} : Shelf String Nat).after uses').getFirst "k" [b, a]).1 = some ⟨2, 12⟩ ∧
      ((({} : Shelf String Nat).after uses').getAll "k" [a, b, a]).1 =
        [(a, ⟨2, 12⟩), (a, ⟨2, 12⟩)] := by
  intro a b uses uses'
  have possible : Possible uses {} := by decide
  have same : uses'.filter (fun u => !u.looks) = uses.filter fun u => !u.looks := rfl
  obtain ⟨first, all, _, alike⟩ := clearing_is_invisible possible
  obtain ⟨_, answers⟩ := alike uses' same
  refine ⟨possible, same, by decide, ?_, ?_⟩
  · rw [(answers "k" [b, a]).1, first]
    rfl
  · rw [(answers "k" [a, b, a]).2, all]
    rfl

end ArtifactCache.Shelf
