import ArtifactCache.Groups

/-!
# Expansion is flattening, each URI at its first place

`Groups.Flattens` says with no accumulator what a list of locations stands for:
every group gives way to what its members stand for, in their order.
`expansion_flattens` is that what `Groups.expand` answers is this list with each
URI at its first place only.

* `Location.keep` is the accumulator of `gather` with the groups taken away;
  `keep_eq` and `keep_nil` relate it to `Location.distinct`;
* `gather_flattens`: one location, by the recursion of `gather`; `fold_flattens`
  lifts that to a list of them;
* `Flattens.reaches_iff`: the locations of the flat list are the ones that can
  be reached and are no groups.
-/
namespace ArtifactCache

namespace Location

theorem same_iff {a b : Location} : a.same b = true ↔ a.uri = b.uri := by simp [same]

theorem same_comm (a b : Location) : a.same b = b.same a := by
  simp [same, eq_comm]

/-- Adds the locations whose URI has not been found yet. -/
def keep (found flat : List Location) : List Location :=
  flat.foldl (fun found l => if found.any l.same then found else found ++ [l]) found

theorem keep_append (found xs ys : List Location) :
    keep found (xs ++ ys) = keep (keep found xs) ys :=
  List.foldl_append

/-- What is found stays in front, and of the rest each new URI comes once. -/
theorem keep_eq (found flat : List Location) :
    keep found flat = found ++ (distinct flat).filter fun l => !found.any l.same := by
  induction flat generalizing found with
  | nil => simp [keep, distinct]
  | cons l rest ih =>
    have hstep : keep found (l :: rest)
        = keep (if found.any l.same then found else found ++ [l]) rest := rfl
    rw [hstep, ih, distinct]
    by_cases hl : found.any l.same = true
    · -- A location that `l` hides was hidden by the same URI before.
      have hidden : ∀ other ∈ distinct rest,
          (!found.any other.same) = (!found.any other.same && !l.same other) := by
        intro other _
        cases ho : l.same other
        · simp
        · have : found.any other.same = true := by
            simpa [same, same_iff.1 ho] using hl
          simp [this]
      simp [hl, List.filter_filter, List.filter_congr hidden]
    · simp [hl, List.filter_filter, List.any_append, same_comm l]

theorem keep_nil (flat : List Location) : keep [] flat = distinct flat := by
  simp [keep_eq]

theorem distinct_sublist (flat : List Location) : (distinct flat).Sublist flat := by
  induction flat with
  | nil => exact .slnil
  | cons l rest ih => exact (List.filter_sublist.trans ih).cons_cons l

theorem pairwise_distinct (flat : List Location) :
    (distinct flat).Pairwise fun a b => a.same b = false := by
  induction flat with
  | nil => exact .nil
  | cons l rest ih =>
    refine List.pairwise_cons.2 ⟨fun other h => ?_, ih.filter _⟩
    simpa using (List.mem_filter.1 h).2

/-- A location is kept exactly where its URI is met first. -/
theorem mem_distinct_iff {flat : List Location} {l : Location} :
    l ∈ distinct flat ↔ flat.find? l.same = some l := by
  induction flat with
  | nil => simp [distinct]
  | cons first rest ih =>
    rw [distinct, List.mem_cons, List.mem_filter, List.find?_cons, ih, same_comm first l]
    cases hs : l.same first
    · have hne : l ≠ first := by
        rintro rfl
        simp [same] at hs
      simp [hne]
    · simp [eq_comm]

theorem exists_same_distinct {flat : List Location} {l : Location} (h : l ∈ flat) :
    ∃ kept ∈ distinct flat, kept.same l = true := by
  have hl : (flat.find? l.same).isSome := List.find?_isSome.2 ⟨l, h, by simp [same]⟩
  obtain ⟨kept, hk⟩ := Option.isSome_iff_exists.1 hl
  have hsame : l.same kept = true := List.find?_some hk
  refine ⟨kept, mem_distinct_iff.2 ?_, by rw [same_comm, hsame]⟩
  have : kept.same = l.same := by
    funext other
    simp [same, same_iff.1 hsame]
  rw [this, hk]

/-- A list that has each URI once stays as it is. -/
theorem distinct_of_pairwise {flat : List Location}
    (h : flat.Pairwise fun a b => a.same b = false) : distinct flat = flat := by
  induction flat with
  | nil => rfl
  | cons l rest ih =>
    obtain ⟨hl, hrest⟩ := List.pairwise_cons.1 h
    rw [distinct, ih hrest, List.filter_eq_self.2 fun other ho => by simp [hl other ho]]

end Location

namespace Groups
variable {g : Groups}

/-- `flat` is what `locations` stand for: in the place of each group what its
members stand for, and every other location as it is. -/
inductive Flattens (g : Groups) : List Location → List Location → Prop
  | nil : Flattens g [] []
  | single {l : Location} {rest flat : List Location} :
    l.isGroup = false → Flattens g rest flat → Flattens g (l :: rest) (l :: flat)
  | group {l : Location} {members inner rest flat : List Location} :
    l.isGroup = true → g.members? l.name = some members →
    Flattens g members inner → Flattens g rest flat → Flattens g (l :: rest) (inner ++ flat)

/-- `l` is one of the locations, or a member of a group that can be reached from them. -/
inductive Reaches (g : Groups) (locations : List Location) : Location → Prop
  | listed {l : Location} : l ∈ locations → Reaches g locations l
  | member {l m : Location} {members : List Location} :
    Reaches g locations l → l.isGroup = true → g.members? l.name = some members → m ∈ members →
    Reaches g locations m

theorem Reaches.mono {locations more : List Location} {l : Location}
    (hsub : ∀ m ∈ locations, g.Reaches more m) (h : g.Reaches locations l) : g.Reaches more l := by
  induction h with
  | listed hl => exact hsub _ hl
  | member _ hg hm hmem ih => exact .member ih hg hm hmem

theorem not_reaches_nil (l : Location) : ¬ g.Reaches [] l := by
  intro h
  induction h with
  | listed h => cases h
  | member _ _ _ _ ih => exact ih

theorem reaches_cons {l m : Location} {rest : List Location} :
    g.Reaches (l :: rest) m ↔ g.Reaches [l] m ∨ g.Reaches rest m := by
  constructor
  · intro h
    induction h with
    | listed hl =>
      rcases List.mem_cons.1 hl with rfl | hl
      · exact .inl (.listed (by simp))
      · exact .inr (.listed hl)
    | member _ hg hm hmem ih =>
      exact ih.imp (fun h => .member h hg hm hmem) (fun h => .member h hg hm hmem)
  · rintro (h | h)
    · exact h.mono fun m hm => .listed (by simp_all)
    · exact h.mono fun m hm => .listed (by simp_all)

/-- Below a group there are only its members and what they reach. -/
theorem reaches_group {l m : Location} {members : List Location} (hg : l.isGroup = true)
    (hm : g.members? l.name = some members) :
    g.Reaches [l] m ↔ m = l ∨ g.Reaches members m := by
  constructor
  · intro h
    induction h with
    | listed hl => exact .inl (List.mem_singleton.1 hl)
    | member _ hg' hm' hmem ih =>
      rcases ih with rfl | ih
      · rw [hm] at hm'
        obtain rfl := Option.some.inj hm'
        exact .inr (.listed hmem)
      · exact .inr (.member ih hg' hm' hmem)
  · rintro (rfl | h)
    · exact .listed (by simp)
    · exact h.mono fun m hmem => .member (.listed (by simp)) hg hm hmem

/-- Below a location that is no group there is nothing. -/
theorem reaches_single {l m : Location} (hg : l.isGroup = false) :
    g.Reaches [l] m ↔ m = l := by
  constructor
  · intro h
    induction h with
    | listed hl => exact List.mem_singleton.1 hl
    | member _ hg' _ _ ih =>
      rw [ih, hg] at hg'
      cases hg'
  · rintro rfl
    exact .listed (by simp)

namespace Flattens

/-- A list stands for one flat list at most. -/
theorem unique {locations flat other : List Location} (h : g.Flattens locations flat)
    (h' : g.Flattens locations other) : other = flat := by
  induction h generalizing other with
  | nil => cases h'; rfl
  | single hl _ ih =>
    cases h' with
    | single _ hrest => rw [ih hrest]
    | group hg => rw [hl] at hg; cases hg
  | group hg hm _ _ ihm ihr =>
    cases h' with
    | single hl => rw [hg] at hl; cases hl
    | group _ hm' hin hrest =>
      rw [hm] at hm'
      obtain rfl := Option.some.inj hm'
      rw [ihm hin, ihr hrest]

theorem append {xs ys flat other : List Location} (hx : g.Flattens xs flat)
    (hy : g.Flattens ys other) : g.Flattens (xs ++ ys) (flat ++ other) := by
  induction hx with
  | nil => exact hy
  | single hl _ ih => exact .single hl ih
  | group hg hm hin _ _ ih =>
    rw [List.append_assoc]
    exact .group hg hm hin ih

/-- What is left has no groups. -/
theorem isGroup_eq_false {locations flat : List Location} {l : Location}
    (h : g.Flattens locations flat) (hl : l ∈ flat) : l.isGroup = false := by
  induction h with
  | nil => cases hl
  | single hg _ ih =>
    rcases List.mem_cons.1 hl with rfl | hl
    · exact hg
    · exact ih hl
  | group _ _ _ _ ihm ihr => exact (List.mem_append.1 hl).elim ihm ihr

/-- The flat list has what can be reached, the groups apart. -/
theorem reaches_iff {locations flat : List Location} {l : Location}
    (h : g.Flattens locations flat) : l ∈ flat ↔ g.Reaches locations l ∧ l.isGroup = false := by
  constructor
  · intro hl
    refine ⟨?_, h.isGroup_eq_false hl⟩
    induction h with
    | nil => cases hl
    | single hg _ ih =>
      rcases List.mem_cons.1 hl with rfl | hl
      · exact .listed (by simp)
      · exact reaches_cons.2 (.inr (ih hl))
    | group hg hm _ _ ihm ihr =>
      rcases List.mem_append.1 hl with hl | hl
      · exact reaches_cons.2 (.inl ((reaches_group hg hm).2 (.inr (ihm hl))))
      · exact reaches_cons.2 (.inr (ihr hl))
  · rintro ⟨hr, hl⟩
    induction h with
    | nil => exact absurd hr (not_reaches_nil l)
    | single hg _ ih =>
      rcases reaches_cons.1 hr with hr | hr
      · simp [(reaches_single hg).1 hr]
      · exact List.mem_cons_of_mem _ (ih hr)
    | group hg hm _ _ ihm ihr =>
      rcases reaches_cons.1 hr with hr | hr
      · rcases (reaches_group hg hm).1 hr with rfl | hr
        · rw [hg] at hl; cases hl
        · exact List.mem_append_left _ (ihm hr)
      · exact List.mem_append_right _ (ihr hr)

end Flattens

section gather
variable {way : List String} {found : List Location} {l : Location}

theorem gather_single (hg : l.isGroup = false) :
    g.gather way found l = .ok (Location.keep found [l]) := by
  rw [gather]
  simp [hg, Location.keep]

theorem gather_cycle (hg : l.isGroup = true) (hw : l.name ∈ way) :
    g.gather way found l = .error (.cycle (way ++ [l.name])) := by
  rw [gather]
  simp [hg, hw]

theorem gather_unknown (hg : l.isGroup = true) (hw : l.name ∉ way)
    (hm : g.members? l.name = none) :
    g.gather way found l = .error (.invalidResource (.unknownGroup l.name)) := by
  rw [gather]
  simp only [hg, hw, List.contains_eq_mem, decide_false, if_true, dif_neg, Bool.false_eq_true,
    not_false_eq_true]
  split
  · rfl
  · simp_all

theorem gather_members {members : List Location} (hg : l.isGroup = true) (hw : l.name ∉ way)
    (hm : g.members? l.name = some members) :
    g.gather way found l = members.foldlM (g.gather (way ++ [l.name])) found := by
  rw [gather]
  simp only [hg, hw, List.contains_eq_mem, decide_false, if_true, dif_neg, Bool.false_eq_true,
    not_false_eq_true]
  split
  · simp_all
  · next hm' =>
    rw [hm] at hm'
    cases hm'
    rfl

end gather

/-- Where `gather` keeps what each location stands for, so does its fold. -/
theorem fold_flattens {way : List String} {locations found out : List Location}
    (hstep : ∀ found l out, g.gather way found l = .ok out →
      ∃ flat, g.Flattens [l] flat ∧ out = Location.keep found flat)
    (h : locations.foldlM (g.gather way) found = .ok out) :
    ∃ flat, g.Flattens locations flat ∧ out = Location.keep found flat := by
  induction locations generalizing found with
  | nil =>
    cases h
    exact ⟨[], .nil, rfl⟩
  | cons l rest ih =>
    rw [List.foldlM_cons] at h
    cases hl : g.gather way found l with
    | error e => rw [hl] at h; cases h
    | ok mid =>
      rw [hl] at h
      obtain ⟨one, hone, rfl⟩ := hstep found l mid hl
      obtain ⟨flat, hflat, rfl⟩ := ih h
      exact ⟨one ++ flat, hone.append hflat, (Location.keep_append ..).symm⟩

/-- **One location.** What `gather` adds is what the location stands for. -/
theorem gather_flattens (way : List String) (found : List Location) (l : Location) :
    ∀ out, g.gather way found l = .ok out →
      ∃ flat, g.Flattens [l] flat ∧ out = Location.keep found flat := by
  induction way, found, l using Groups.gather.induct g with
  | case1 way found l hg hw =>
    intro out h
    rw [gather_cycle hg (by simpa using hw)] at h
    cases h
  | case2 way found l hg hw hm =>
    intro out h
    rw [gather_unknown hg (by simpa using hw) hm] at h
    cases h
  | case3 way found l hg hw members hm ih =>
    intro out h
    rw [gather_members hg (by simpa using hw) hm] at h
    obtain ⟨inner, hinner, rfl⟩ := fold_flattens ih h
    exact ⟨inner ++ [], .group hg hm hinner .nil, by rw [List.append_nil]⟩
  | case4 way found l hg =>
    have hg : l.isGroup = false := by simpa using hg
    intro out h
    rw [gather_single hg] at h
    cases h
    exact ⟨[l], .single hg .nil, rfl⟩

theorem expand_flattens {locations out : List Location} (h : g.expand locations = .ok out) :
    ∃ flat, g.Flattens locations flat ∧ out = Location.distinct flat := by
  obtain ⟨flat, hflat, rfl⟩ := fold_flattens (gather_flattens []) h
  exact ⟨flat, hflat, Location.keep_nil flat⟩

/-- Where there are no groups, only what comes again is left out. -/
theorem expand_of_no_groups {locations : List Location} (h : ∀ l ∈ locations, l.isGroup = false) :
    g.expand locations = .ok (Location.distinct locations) := by
  rw [← Location.keep_nil]
  unfold expand
  generalize ([] : List Location) = found
  induction locations generalizing found with
  | nil => rfl
  | cons l rest ih =>
    rw [List.foldlM_cons, gather_single (h l (by simp))]
    exact ih (fun m hm => h m (by simp [hm])) _

/-- **Expansion is flattening, each URI at its first place.** What `expand`
answers is the flat list without the places whose URI stood in front of them:
no group, each URI once, the first location with it, all that can be reached and
nothing else. Expanding it again leaves it as it is. -/
theorem expansion_is_flattening {locations out : List Location}
    (h : g.expand locations = .ok out) :
    ∃ flat, g.Flattens locations flat ∧ (∀ other, g.Flattens locations other → other = flat) ∧
      out = Location.distinct flat ∧
      out.Sublist flat ∧ (∀ l, l ∈ out ↔ flat.find? l.same = some l) ∧
      (∀ l ∈ out, l.isGroup = false) ∧
      out.Pairwise (fun a b => a.same b = false) ∧
      (∀ l, g.Reaches locations l → l.isGroup = false → ∃ kept ∈ out, kept.same l = true) ∧
      (∀ l ∈ out, g.Reaches locations l) ∧
      g.expand out = .ok out := by
  obtain ⟨flat, hflat, rfl⟩ := expand_flattens h
  have hsub := Location.distinct_sublist flat
  have hpair := Location.pairwise_distinct flat
  have hleaf : ∀ l ∈ Location.distinct flat, l.isGroup = false :=
    fun l hl => hflat.isGroup_eq_false (hsub.subset hl)
  refine ⟨flat, hflat, fun _ => hflat.unique, rfl, hsub, fun _ => Location.mem_distinct_iff, hleaf,
    hpair, fun l hr hl => ?_, fun l hl => (hflat.reaches_iff.1 (hsub.subset hl)).1, ?_⟩
  · exact Location.exists_same_distinct (hflat.reaches_iff.2 ⟨hr, hl⟩)
  · rw [expand_of_no_groups hleaf, Location.distinct_of_pairwise hpair]

/-- A group of a location, the group `inner` and a location that `inner` has under
another name. -/
def nested : Groups :=
  .ofPairs
    [("inner", [{ name := "b", uri := "file:///b" }, { name := "c", uri := "file:///c" }]),
     ("outer", [{ name := "a", uri := "file:///a" }, .group "inner",
       { name := "again", uri := "file:///b" }])]

/-- `inner` is expanded in its place, so what `outer` names after it is found already. -/
theorem nested_expands_in_place :
    nested.expand [.group "outer", { name := "a", uri := "file:///a", priority := 1 },
      { name := "d", uri := "file:///d" }]
        = .ok [{ name := "a", uri := "file:///a" }, { name := "b", uri := "file:///b" },
          { name := "c", uri := "file:///c" }, { name := "d", uri := "file:///d" }] ∧
    nested.expand [{ name := "a", uri := "file:///a" }, { name := "b", uri := "file:///b" },
      { name := "c", uri := "file:///c" }, { name := "d", uri := "file:///d" }]
        = .ok [{ name := "a", uri := "file:///a" }, { name := "b", uri := "file:///b" },
          { name := "c", uri := "file:///c" }, { name := "d", uri := "file:///d" }] := by
  have inner : nested.members? (Location.group "inner").name
      = some [{ name := "b", uri := "file:///b" }, { name := "c", uri := "file:///c" }] := rfl
  have outer : nested.members? (Location.group "outer").name
      = some [{ name := "a", uri := "file:///a" }, .group "inner",
        { name := "again", uri := "file:///b" }] := rfl
  have expanded : nested.expand [.group "outer", { name := "a", uri := "file:///a", priority := 1 },
      { name := "d", uri := "file:///d" }]
        = .ok [{ name := "a", uri := "file:///a" }, { name := "b", uri := "file:///b" },
          { name := "c", uri := "file:///c" }, { name := "d", uri := "file:///d" }] := by
    simp (disch := decide) only [expand, List.foldlM_cons, List.foldlM_nil, gather_single,
      gather_members _ _ inner, gather_members _ _ outer]
    rfl
  obtain ⟨_, _, _, _, _, _, _, _, _, _, again⟩ := expansion_is_flattening expanded
  exact ⟨expanded, again⟩

end Groups
end ArtifactCache
