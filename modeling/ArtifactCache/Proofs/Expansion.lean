import ArtifactCache.Proofs.Flattening
import Mathlib.Data.List.Lex
import Mathlib.Data.Set.Finite.Lattice

/-!
# Expansion ends, and rejects the tables that cannot be expanded

An expansion visits locations; the place of a visit is the list of the positions
that lead to it, so the order of visits is the lexicographic order of places.

* `Visits` are the visits of an expansion that nothing stops, and `fault?` is
  what is wrong with one of them; `finite_visits` is that they come to an end;
* `gather_settles`: an answer of `gather` means that no visit has a fault, and a
  failure of `gather` is the fault of the first visit that has one;
* `Visits.needed`, `Visits.holds` and `exists_visit` relate visits to the groups
  that can be reached, and `Visits.route` is the way of a visit as a chain.
-/
namespace ArtifactCache.Groups
variable {g : Groups}

/-- The group `n` has a group named `m` among its members. -/
def Holds (g : Groups) (n m : String) : Prop :=
  ∃ members, g.members? n = some members ∧ ∃ l ∈ members, l.isGroup = true ∧ l.name = m

/-- A group of this name is one of the locations. -/
def Asked (locations : List Location) (n : String) : Prop :=
  ∃ l ∈ locations, l.isGroup = true ∧ l.name = n

/-- A group of this name can be reached from the locations. -/
def Needs (g : Groups) (locations : List Location) (n : String) : Prop :=
  ∃ first, Asked locations first ∧ Relation.ReflTransGen g.Holds first n

/-- The visits of an expansion of `locations` below the groups of `way`: at each
place a location, with the groups that are being expanded there. -/
inductive Visits (g : Groups) (way : List String) (locations : List Location) :
    List Nat → List String → Location → Prop
  | listed {i : Nat} {l : Location} : locations[i]? = some l → Visits g way locations [i] way l
  | member {place : List Nat} {here : List String} {l m : Location} {members : List Location}
    {i : Nat} :
    Visits g way locations place here l → l.isGroup = true → l.name ∉ here →
    g.members? l.name = some members → members[i]? = some m →
    Visits g way locations (place ++ [i]) (here ++ [l.name]) m

/-- What is wrong with a location below the groups of `way`. -/
def fault? (g : Groups) (way : List String) (l : Location) : Option Failure :=
  if l.isGroup = false then none
  else if l.name ∈ way then some (.cycle (way ++ [l.name]))
  else if (g.members? l.name).isSome then none
  else some (.invalidResource (.unknownGroup l.name))

/-- No visit has a fault. -/
def Faultless (g : Groups) (way : List String) (locations : List Location) : Prop :=
  ∀ place here l, g.Visits way locations place here l → g.fault? here l = none

/-- `e` is the fault of a visit, and no visit before that one has a fault. -/
def FirstFault (g : Groups) (way : List String) (locations : List Location) (e : Failure) : Prop :=
  ∃ place here l, g.Visits way locations place here l ∧ g.fault? here l = some e ∧
    ∀ before here' l', before < place → g.Visits way locations before here' l' →
      g.fault? here' l' = none

section order

theorem getElem?_singleton {l m : Location} {i : Nat} (h : [l][i]? = some m) : i = 0 ∧ m = l := by
  cases i <;> simp_all

/-- A visit is at a location of the list, or below it. -/
theorem visits_iff {way here : List String} {locations : List Location} {place : List Nat}
    {m : Location} :
    g.Visits way locations place here m ↔ ∃ i l, locations[i]? = some l ∧
      (place = [i] ∧ here = way ∧ m = l ∨
       ∃ members p, l.isGroup = true ∧ l.name ∉ way ∧ g.members? l.name = some members ∧
         place = i :: p ∧ g.Visits (way ++ [l.name]) members p here m) := by
  constructor
  · intro h
    induction h with
    | listed hl => exact ⟨_, _, hl, .inl ⟨rfl, rfl, rfl⟩⟩
    | member _ hg hw hm hi ih =>
      obtain ⟨j, l, hl, ⟨rfl, rfl, rfl⟩ | ⟨members, p, hg', hw', hm', rfl, hv⟩⟩ := ih
      · exact ⟨j, _, hl, .inr ⟨_, _, hg, hw, hm, rfl, .listed hi⟩⟩
      · exact ⟨j, l, hl, .inr ⟨members, _, hg', hw', hm', rfl, .member hv hg hw hm hi⟩⟩
  · rintro ⟨i, l, hl, ⟨rfl, rfl, rfl⟩ | ⟨members, p, hg, hw, hm, rfl, hv⟩⟩
    · exact .listed hl
    · induction hv with
      | listed hi => exact .member (.listed hl) hg hw hm hi
      | member _ hg' hw' hm' hi' ih => exact .member ih hg' hw' hm' hi'

/-- The visits of a list are those of its first location, and behind them those of the rest. -/
theorem visits_cons {way here : List String} {l m : Location} {rest : List Location}
    {place : List Nat} :
    g.Visits way (l :: rest) place here m ↔
      (∃ p, place = 0 :: p ∧ g.Visits way [l] place here m) ∨
      ∃ j p, place = (j + 1) :: p ∧ g.Visits way rest (j :: p) here m := by
  constructor
  · intro h
    obtain ⟨i, first, hl, hat⟩ := visits_iff.1 h
    cases i with
    | zero =>
      refine .inl ?_
      have hone : [l][0]? = some first := hl
      rcases hat with ⟨rfl, rfl, rfl⟩ | ⟨members, p, hg, hw, hm, rfl, hv⟩
      · exact ⟨[], rfl, .listed hone⟩
      · exact ⟨p, rfl, visits_iff.2 ⟨0, first, hone, .inr ⟨members, p, hg, hw, hm, rfl, hv⟩⟩⟩
    | succ j =>
      refine .inr ?_
      have hrest : rest[j]? = some first := hl
      rcases hat with ⟨rfl, rfl, rfl⟩ | ⟨members, p, hg, hw, hm, rfl, hv⟩
      · exact ⟨j, [], rfl, .listed hrest⟩
      · exact ⟨j, p, rfl, visits_iff.2 ⟨j, first, hrest, .inr ⟨members, p, hg, hw, hm, rfl, hv⟩⟩⟩
  · rintro (⟨_, -, h⟩ | ⟨j, p, rfl, h⟩)
    · obtain ⟨i, first, hl, hat⟩ := visits_iff.1 h
      obtain ⟨rfl, rfl⟩ := getElem?_singleton hl
      exact visits_iff.2 ⟨0, _, rfl, hat⟩
    · obtain ⟨i, first, hl, hat⟩ := visits_iff.1 h
      rcases hat with ⟨hp, rfl, rfl⟩ | ⟨members, q, hg, hw, hm, hp, hv⟩
      · obtain ⟨rfl, rfl⟩ := List.cons.inj hp
        exact .listed hl
      · obtain ⟨rfl, rfl⟩ := List.cons.inj hp
        exact visits_iff.2 ⟨j + 1, first, hl, .inr ⟨members, p, hg, hw, hm, rfl, hv⟩⟩

/-- Below a group there are the visits of its members. -/
theorem visits_group {way here : List String} {l m : Location} {members : List Location}
    {place : List Nat} (hg : l.isGroup = true) (hw : l.name ∉ way)
    (hm : g.members? l.name = some members) :
    g.Visits way [l] place here m ↔ place = [0] ∧ here = way ∧ m = l ∨
      ∃ p, place = 0 :: p ∧ g.Visits (way ++ [l.name]) members p here m := by
  constructor
  · intro h
    obtain ⟨i, first, hl, hat⟩ := visits_iff.1 h
    obtain ⟨rfl, rfl⟩ := getElem?_singleton hl
    rcases hat with hat | ⟨_, p, -, -, hm', rfl, hv⟩
    · exact .inl hat
    · rw [hm] at hm'
      obtain rfl := Option.some.inj hm'
      exact .inr ⟨p, rfl, hv⟩
  · rintro (⟨rfl, rfl, rfl⟩ | ⟨p, rfl, hv⟩)
    · exact .listed rfl
    · exact visits_iff.2 ⟨0, l, rfl, .inr ⟨members, p, hg, hw, hm, rfl, hv⟩⟩

theorem fault?_members {way : List String} {l : Location} {members : List Location}
    (hw : l.name ∉ way) (hm : g.members? l.name = some members) : g.fault? way l = none := by
  simp [fault?, hw, hm]

/-- Where the one location does not lead further, it is the one visit. -/
theorem visits_stop {way here : List String} {l m : Location} {place : List Nat}
    (hstop : l.isGroup = true → l.name ∈ way ∨ g.members? l.name = none)
    (h : g.Visits way [l] place here m) : place = [0] ∧ here = way ∧ m = l := by
  obtain ⟨i, first, hl, hat⟩ := visits_iff.1 h
  obtain ⟨rfl, rfl⟩ := getElem?_singleton hl
  rcases hat with hat | ⟨_, _, hg, hw, hm, -⟩
  · exact hat
  · rcases hstop hg with hin | hnone
    · exact absurd hin hw
    · rw [hnone] at hm; cases hm

theorem Faultless.cons {way : List String} {l : Location} {rest : List Location}
    (hl : g.Faultless way [l]) (hrest : g.Faultless way rest) : g.Faultless way (l :: rest) := by
  intro place here m h
  rcases visits_cons.1 h with ⟨_, -, h⟩ | ⟨_, _, -, h⟩
  · exact hl _ _ _ h
  · exact hrest _ _ _ h

theorem Faultless.group {way : List String} {l : Location} {members : List Location}
    (hg : l.isGroup = true) (hw : l.name ∉ way) (hm : g.members? l.name = some members)
    (h : g.Faultless (way ++ [l.name]) members) : g.Faultless way [l] := by
  intro place here m hv
  rcases (visits_group hg hw hm).1 hv with ⟨-, rfl, rfl⟩ | ⟨_, -, hv⟩
  · exact fault?_members hw hm
  · exact h _ _ _ hv

/-- A fault at the only visit is the first one. -/
theorem FirstFault.here {way : List String} {l : Location} {e : Failure}
    (h : g.fault? way l = some e) : g.FirstFault way [l] e := by
  refine ⟨[0], way, l, .listed rfl, h, fun before here m hlt hv => ?_⟩
  -- No place is empty, and only the empty place is before the first one.
  obtain ⟨i, _, -, ⟨rfl, -, -⟩ | ⟨_, p, -, -, -, rfl, -⟩⟩ := visits_iff.1 hv
  all_goals simp [List.cons_lt_cons_iff] at hlt

theorem FirstFault.head {way : List String} {l : Location} {rest : List Location} {e : Failure}
    (h : g.FirstFault way [l] e) : g.FirstFault way (l :: rest) e := by
  obtain ⟨place, here, m, hv, he, hfirst⟩ := h
  have hzero : ∃ p, place = 0 :: p := by
    obtain ⟨i, first, hl, hat⟩ := visits_iff.1 hv
    obtain ⟨rfl, -⟩ := getElem?_singleton hl
    rcases hat with ⟨rfl, -⟩ | ⟨_, p, -, -, -, rfl, -⟩ <;> exact ⟨_, rfl⟩
  obtain ⟨p, rfl⟩ := hzero
  refine ⟨0 :: p, here, m, visits_cons.2 (.inl ⟨p, rfl, hv⟩), he, fun before _ _ hlt hb => ?_⟩
  rcases visits_cons.1 hb with ⟨_, -, hone⟩ | ⟨j, q, rfl, -⟩
  · exact hfirst _ _ _ hlt hone
  · simp [List.cons_lt_cons_iff] at hlt

theorem FirstFault.tail {way : List String} {l : Location} {rest : List Location} {e : Failure}
    (hl : g.Faultless way [l]) (h : g.FirstFault way rest e) :
    g.FirstFault way (l :: rest) e := by
  obtain ⟨place, here, m, hv, he, hfirst⟩ := h
  have hcons : ∃ j p, place = j :: p := by
    obtain ⟨j, _, -, ⟨rfl, -⟩ | ⟨_, p, -, -, -, rfl, -⟩⟩ := visits_iff.1 hv <;> exact ⟨j, _, rfl⟩
  obtain ⟨j, p, rfl⟩ := hcons
  refine ⟨(j + 1) :: p, here, m, visits_cons.2 (.inr ⟨j, p, rfl, hv⟩), he, fun _ _ _ hlt hb => ?_⟩
  rcases visits_cons.1 hb with ⟨_, -, hb⟩ | ⟨i, q, rfl, hrest⟩
  · exact hl _ _ _ hb
  · refine hfirst _ _ _ ?_ hrest
    simpa [List.cons_lt_cons_iff] using hlt

theorem FirstFault.group {way : List String} {l : Location} {members : List Location} {e : Failure}
    (hg : l.isGroup = true) (hw : l.name ∉ way) (hm : g.members? l.name = some members)
    (h : g.FirstFault (way ++ [l.name]) members e) : g.FirstFault way [l] e := by
  obtain ⟨place, here, m, hv, he, hfirst⟩ := h
  refine ⟨0 :: place, here, m, (visits_group hg hw hm).2 (.inr ⟨place, rfl, hv⟩), he,
    fun before here' m' hlt hb => ?_⟩
  rcases (visits_group hg hw hm).1 hb with ⟨-, rfl, rfl⟩ | ⟨p, rfl, hbelow⟩
  · exact fault?_members hw hm
  · exact hfirst _ _ _ (by simpa [List.cons_lt_cons_iff] using hlt) hbelow

/-- What the answer of an expansion says about its visits. -/
def Settles (g : Groups) (way : List String) (locations : List Location) {α : Type} :
    Except Failure α → Prop
  | .ok _ => g.Faultless way locations
  | .error e => g.FirstFault way locations e

theorem fold_settles {way : List String}
    (hstep : ∀ found l, g.Settles way [l] (g.gather way found l)) (locations found : List Location) :
    g.Settles way locations (locations.foldlM (g.gather way) found) := by
  induction locations generalizing found with
  | nil =>
    intro place here l h
    obtain ⟨i, _, hl, -⟩ := visits_iff.1 h
    simp at hl
  | cons l rest ih =>
    rw [List.foldlM_cons]
    have hl := hstep found l
    cases hout : g.gather way found l with
    | error e =>
      rw [hout] at hl
      exact FirstFault.head hl
    | ok mid =>
      rw [hout] at hl
      have hrest := ih mid
      show g.Settles way (l :: rest) (rest.foldlM (g.gather way) mid)
      cases hrest' : rest.foldlM (g.gather way) mid with
      | error e =>
        rw [hrest'] at hrest
        exact FirstFault.tail hl hrest
      | ok out =>
        rw [hrest'] at hrest
        exact Faultless.cons hl hrest

/-- **One location.** `gather` answers when no visit below it has a fault, and
fails with the fault of the first that has one. -/
theorem gather_settles (way : List String) (found : List Location) (l : Location) :
    g.Settles way [l] (g.gather way found l) := by
  induction way, found, l using Groups.gather.induct g with
  | case1 way found l hg hw =>
    have hw : l.name ∈ way := by simpa using hw
    rw [gather_cycle hg hw]
    exact .here (by simp [fault?, hg, hw])
  | case2 way found l hg hw hm =>
    have hw : l.name ∉ way := by simpa using hw
    rw [gather_unknown hg hw hm]
    exact .here (by simp [fault?, hg, hw, hm])
  | case3 way found l hg hw members hm ih =>
    have hw : l.name ∉ way := by simpa using hw
    rw [gather_members hg hw hm]
    have hfold := fold_settles ih members found
    cases hout : members.foldlM (g.gather (way ++ [l.name])) found with
    | error e =>
      rw [hout] at hfold
      exact FirstFault.group hg hw hm hfold
    | ok out =>
      rw [hout] at hfold
      exact Faultless.group hg hw hm hfold
  | case4 way found l hg =>
    have hg : l.isGroup = false := by simpa using hg
    rw [gather_single hg]
    intro place here m h
    obtain ⟨-, rfl, rfl⟩ := visits_stop (fun hg' => by rw [hg] at hg'; cases hg') h
    simp [fault?, hg]

theorem expand_settles (locations : List Location) :
    g.Settles [] locations (g.expand locations) :=
  fold_settles (gather_settles []) locations []

end order

theorem not_visits_nil {way here : List String} {locations : List Location} {l : Location} :
    ¬ g.Visits way locations [] here l := by
  intro h
  obtain ⟨_, _, -, ⟨hp, -⟩ | ⟨_, _, -, -, -, hp, -⟩⟩ := visits_iff.1 h <;> cases hp

/-- A place has one visit at most. -/
theorem Visits.unique {way here here' : List String} {locations : List Location}
    {place : List Nat} {l l' : Location} (h : g.Visits way locations place here l)
    (h' : g.Visits way locations place here' l') : here = here' ∧ l = l' := by
  induction place generalizing way locations with
  | nil => exact absurd h not_visits_nil
  | cons i p ih =>
    obtain ⟨_, m, hm, ⟨hp, rfl, rfl⟩ | ⟨members, _, -, -, hin, hp, hv⟩⟩ := visits_iff.1 h <;>
      obtain ⟨_, m', hm', ⟨hp', rfl, rfl⟩ | ⟨members', _, -, -, hin', hp', hv'⟩⟩ := visits_iff.1 h' <;>
      cases hp <;> cases hp' <;> obtain rfl := Option.some.inj (hm.symm.trans hm')
    · exact ⟨rfl, rfl⟩
    · exact absurd hv' not_visits_nil
    · exact absurd hv not_visits_nil
    · obtain rfl := Option.some.inj (hin.symm.trans hin')
      exact ih hv hv'

/-- One failure comes first. -/
theorem FirstFault.unique {way : List String} {locations : List Location} {e e' : Failure}
    (h : g.FirstFault way locations e) (h' : g.FirstFault way locations e') : e = e' := by
  obtain ⟨place, here, l, hv, he, hfirst⟩ := h
  obtain ⟨place', here', l', hv', he', hfirst'⟩ := h'
  rcases lt_trichotomy place place' with hlt | rfl | hlt
  · rw [hfirst' _ _ _ hlt hv] at he; cases he
  · obtain ⟨rfl, rfl⟩ := hv.unique hv'
    exact Option.some.inj (he.symm.trans he')
  · rw [hfirst _ _ _ hlt hv'] at he'; cases he'

theorem FirstFault.not_faultless {way : List String} {locations : List Location} {e : Failure}
    (h : g.FirstFault way locations e) : ¬ g.Faultless way locations := by
  obtain ⟨place, here, l, hv, he, -⟩ := h
  intro hf
  rw [hf _ _ _ hv] at he
  cases he

/-- **The visits come to an end.** Each group that is entered is not on the way
yet and is in the table, so fewer are left. -/
theorem finite_visits (way : List String) (locations : List Location) :
    {place | ∃ here l, g.Visits way locations place here l}.Finite := by
  induction hn : g.unvisited way using Nat.strong_induction_on generalizing way locations with
  | _ n ih =>
    subst hn
    have below : ∀ i : Fin locations.length, {p | ∃ members here l,
        (locations[i]).name ∉ way ∧ g.members? (locations[i]).name = some members ∧
          g.Visits (way ++ [(locations[i]).name]) members p here l}.Finite := by
      intro i
      by_cases hw : (locations[i]).name ∈ way
      · refine Set.finite_empty.subset ?_
        rintro _ ⟨_, _, _, hnot, _⟩
        exact (hnot hw).elim
      · cases hm : g.members? (locations[i]).name with
        | none => simp
        | some members =>
          have hlt := g.unvisited_lt hm (by simpa using hw)
          refine (ih _ hlt (way ++ [(locations[i]).name]) members rfl).subset ?_
          rintro p ⟨_, here, l, -, ⟨⟩, hv⟩
          exact ⟨here, l, hv⟩
    refine (Set.finite_iUnion fun i : Fin locations.length =>
      (Set.finite_singleton [i.val]).union ((below i).image (i.val :: ·))).subset ?_
    rintro place ⟨here, m, hv⟩
    obtain ⟨i, l, hl, hat⟩ := visits_iff.1 hv
    obtain ⟨hi, rfl⟩ := List.getElem?_eq_some_iff.1 hl
    refine Set.mem_iUnion.2 ⟨⟨i, hi⟩, ?_⟩
    rcases hat with ⟨rfl, -⟩ | ⟨members, p, -, hw, hm, rfl, hp⟩
    · exact .inl rfl
    · exact .inr ⟨p, ⟨members, here, m, hw, hm, hp⟩, rfl⟩

section reach
variable {locations : List Location}

theorem Visits.holds {place : List Nat} {here : List String} {l : Location}
    (h : g.Visits [] locations place here l) (hg : l.isGroup = true) :
    g.Needs locations l.name ∧ ∀ n ∈ here, Relation.TransGen g.Holds n l.name := by
  induction h with
  | listed hl =>
    exact ⟨⟨_, ⟨_, List.mem_of_getElem? hl, hg, rfl⟩, .refl⟩, fun n hn => by cases hn⟩
  | @member place here l m members i _ hg' hw hm hi ih =>
    obtain ⟨⟨first, hfirst, hreach⟩, hway⟩ := ih hg'
    have hstep : g.Holds l.name m.name := ⟨members, hm, m, List.mem_of_getElem? hi, hg, rfl⟩
    refine ⟨⟨first, hfirst, hreach.tail hstep⟩, fun n hn => ?_⟩
    rcases List.mem_append.1 hn with hn | hn
    · exact (hway n hn).tail hstep
    · rw [List.mem_singleton.1 hn]
      exact .single hstep

/-- **The way of a visit.** The groups that are being expanded are different ones,
each among the members of the one before, from a group of the input on. -/
theorem Visits.route {place : List Nat} {here : List String} {l : Location}
    (h : g.Visits [] locations place here l) (hg : l.isGroup = true) :
    here.Nodup ∧ List.IsChain g.Holds (here ++ [l.name]) ∧
      ∃ first, (here ++ [l.name]).head? = some first ∧ Asked locations first := by
  induction h with
  | listed hl => exact ⟨.nil, .singleton _, _, rfl, _, List.mem_of_getElem? hl, hg, rfl⟩
  | @member place here l m members i _ hg' hw hm hi ih =>
    obtain ⟨hnodup, hchain, first, hhead, hfirst⟩ := ih hg'
    have hstep : g.Holds l.name m.name := ⟨members, hm, m, List.mem_of_getElem? hi, hg, rfl⟩
    refine ⟨?_, ?_, first, ?_, hfirst⟩
    · rw [List.nodup_append]
      simp [hnodup]
      grind
    · simpa using List.isChain_append_cons_cons.2 ⟨hchain, hstep, .singleton _⟩
    · rw [List.head?_append, hhead]
      rfl

theorem fault?_eq_none_iff {way : List String} {l : Location} (hg : l.isGroup = true) :
    g.fault? way l = none ↔ l.name ∉ way ∧ (g.members? l.name).isSome := by
  by_cases hw : l.name ∈ way <;> simp [fault?, hg, hw, Option.isSome_iff_ne_none]

/-- Without faults the expansion goes on to every group among the members. -/
theorem exists_visit_next (hf : g.Faultless [] locations) {place : List Nat} {here : List String}
    {l : Location} {n : String} (hv : g.Visits [] locations place here l)
    (hg : l.isGroup = true) (h : g.Holds l.name n) :
    ∃ i m, g.Visits [] locations (place ++ [i]) (here ++ [l.name]) m ∧ m.isGroup = true ∧
      m.name = n := by
  obtain ⟨members, hm, m, hmem, hgm, rfl⟩ := h
  obtain ⟨i, hi⟩ := List.mem_iff_getElem?.1 hmem
  have hw := ((fault?_eq_none_iff hg).1 (hf _ _ _ hv)).1
  exact ⟨i, m, .member hv hg hw hm hi, hgm, rfl⟩

/-- Without faults the expansion comes from a group to all it reaches, the group on the way. -/
theorem exists_visit_below (hf : g.Faultless [] locations) {place : List Nat}
    {here : List String} {l : Location} (hv : g.Visits [] locations place here l)
    (hg : l.isGroup = true) {n : String} (h : Relation.TransGen g.Holds l.name n) :
    ∃ place' here' m, g.Visits [] locations place' here' m ∧ m.isGroup = true ∧ m.name = n ∧
      l.name ∈ here' := by
  induction h with
  | single h =>
    obtain ⟨i, m, hm, hgm, rfl⟩ := exists_visit_next hf hv hg h
    exact ⟨_, _, m, hm, hgm, rfl, by simp⟩
  | tail _ h ih =>
    obtain ⟨place', here', m, hm, hgm, rfl, hin⟩ := ih
    obtain ⟨i, m', hm', hgm', rfl⟩ := exists_visit_next hf hm hgm h
    exact ⟨_, _, m', hm', hgm', rfl, by simp [hin]⟩

/-- Without faults every group that can be reached is visited. -/
theorem exists_visit (hf : g.Faultless [] locations) {n : String} (h : g.Needs locations n) :
    ∃ place here l, g.Visits [] locations place here l ∧ l.isGroup = true ∧ l.name = n := by
  obtain ⟨_, ⟨l, hl, hg, rfl⟩, hreach⟩ := h
  obtain ⟨i, hi⟩ := List.mem_iff_getElem?.1 hl
  rcases Relation.reflTransGen_iff_eq_or_transGen.1 hreach with rfl | hreach
  · exact ⟨_, _, l, .listed hi, hg, rfl⟩
  · obtain ⟨place, here, m, hm, hgm, rfl, -⟩ := exists_visit_below hf (.listed hi) hg hreach
    exact ⟨place, here, m, hm, hgm, rfl⟩

/-- **What makes an expansion possible.** No visit has a fault when the groups that
can be reached are in the table and none is reached from itself. -/
theorem faultless_iff : g.Faultless [] locations ↔
    ∀ n, g.Needs locations n → (g.members? n).isSome ∧ ¬ Relation.TransGen g.Holds n n := by
  constructor
  · intro hf n hn
    obtain ⟨place, here, l, hv, hg, rfl⟩ := exists_visit hf hn
    refine ⟨((fault?_eq_none_iff hg).1 (hf _ _ _ hv)).2, fun hcycle => ?_⟩
    obtain ⟨_, _, m, hm, hgm, hname, hin⟩ := exists_visit_below hf hv hg hcycle
    exact ((fault?_eq_none_iff hgm).1 (hf _ _ _ hm)).1 (hname ▸ hin)
  · intro h place here l hv
    cases hg : l.isGroup with
    | false => simp [fault?, hg]
    | true =>
      obtain ⟨hneeds, hway⟩ := hv.holds hg
      obtain ⟨hsome, hacyclic⟩ := h _ hneeds
      exact (fault?_eq_none_iff hg).2 ⟨fun hin => hacyclic (hway _ hin), hsome⟩

/-- **What a failure says.** It names a group that is missing, or the way that led
to a group a second time. -/
theorem FirstFault.shape {e : Failure} (h : g.FirstFault [] locations e) :
    (∃ n, e = .invalidResource (.unknownGroup n) ∧ g.Needs locations n ∧ g.members? n = none) ∨
      ∃ way name, e = .cycle (way ++ [name]) ∧
        (∃ first, (way ++ [name]).head? = some first ∧ Asked locations first) ∧
        List.IsChain g.Holds (way ++ [name]) ∧ way.count name = 1 := by
  obtain ⟨place, here, l, hv, he, -⟩ := h
  cases hg : l.isGroup with
  | false => simp [fault?, hg] at he
  | true =>
    obtain ⟨hnodup, hchain, hhead⟩ := hv.route hg
    by_cases hw : l.name ∈ here
    · simp only [fault?, hg, hw, if_true, Bool.true_eq_false, if_false, Option.some.injEq] at he
      exact .inr ⟨here, l.name, he.symm, hhead, hchain, List.count_eq_one_of_mem hnodup hw⟩
    · cases hm : g.members? l.name with
      | some members => rw [fault?_members hw hm] at he; cases he
      | none =>
        simp only [fault?, hg, hw, hm, Bool.true_eq_false, if_false, Option.isSome_none,
          Bool.false_eq_true, Option.some.injEq] at he
        exact .inl ⟨l.name, he.symm, (hv.holds hg).1, hm⟩

end reach

/-- **Expansion ends, and fails exactly where it has to.** It makes finitely many
visits. It answers when the groups that can be reached are in the table and none is
reached from itself; otherwise its failure is the first one on its way through the
tree: a group that is missing, or the names that lead from a group of the input to a
name that is among them already. -/
theorem expansion_ends (g : Groups) (locations : List Location) :
    {place | ∃ way l, g.Visits [] locations place way l}.Finite ∧
    ((∃ out, g.expand locations = .ok out) ↔
      ∀ n, g.Needs locations n → (g.members? n).isSome ∧ ¬ Relation.TransGen g.Holds n n) ∧
    (∀ e, g.expand locations = .error e ↔ g.FirstFault [] locations e) ∧
    (∀ e, g.expand locations = .error e →
      (∃ n, e = .invalidResource (.unknownGroup n) ∧ g.Needs locations n ∧ g.members? n = none) ∨
      ∃ way name, e = .cycle (way ++ [name]) ∧
        e.message = "Cycle detected in location groups: " ++ " -> ".intercalate (way ++ [name]) ∧
        (∃ first, (way ++ [name]).head? = some first ∧ Asked locations first) ∧
        List.IsChain g.Holds (way ++ [name]) ∧ way.count name = 1) := by
  have hsettles := g.expand_settles locations
  refine ⟨finite_visits [] locations, ?_, fun e => ?_, fun e he => ?_⟩
  · rw [← faultless_iff]
    constructor
    · rintro ⟨out, hout⟩
      rwa [hout] at hsettles
    · intro hf
      cases hout : g.expand locations with
      | ok out => exact ⟨out, rfl⟩
      | error e =>
        rw [hout] at hsettles
        exact absurd hf hsettles.not_faultless
  · constructor
    · intro he
      rwa [he] at hsettles
    · intro hfirst
      cases hout : g.expand locations with
      | ok out =>
        rw [hout] at hsettles
        exact absurd hsettles hfirst.not_faultless
      | error e' =>
        rw [hout] at hsettles
        rw [FirstFault.unique hsettles hfirst]
  · rw [he] at hsettles
    rcases FirstFault.shape hsettles with hunknown | ⟨way, name, rfl, hrest⟩
    · exact .inl hunknown
    · exact .inr ⟨way, name, rfl, rfl, hrest⟩

/-- Two groups that have each other. -/
def circular : Groups :=
  .ofPairs [("a", [.group "b"]), ("b", [{ name := "x", uri := "file:///x" }, .group "a"])]

/-- The location between them is visited, and then the circle is found. -/
theorem circle_is_rejected :
    circular.expand [.group "a"] = .error (.cycle ["a", "b", "a"]) ∧
    circular.FirstFault [] [.group "a"] (.cycle ["a", "b", "a"]) ∧
    ¬ ∀ n, circular.Needs [.group "a"] n →
      (circular.members? n).isSome ∧ ¬ Relation.TransGen circular.Holds n n := by
  have first : circular.members? (Location.group "a").name = some [.group "b"] := rfl
  have second : circular.members? (Location.group "b").name
      = some [{ name := "x", uri := "file:///x" }, .group "a"] := rfl
  have rejected : circular.expand [.group "a"] = .error (.cycle ["a", "b", "a"]) := by
    simp (disch := decide) only [expand, List.foldlM_cons, List.foldlM_nil,
      gather_members _ _ first, gather_members _ _ second, gather_single, gather_cycle]
    rfl
  obtain ⟨_, answers, fails, _⟩ := expansion_ends circular [.group "a"]
  refine ⟨rejected, (fails _).1 rejected, fun sound => ?_⟩
  obtain ⟨out, hout⟩ := answers.2 sound
  rw [rejected] at hout
  cases hout

end ArtifactCache.Groups
