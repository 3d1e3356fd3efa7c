import ArtifactCache.CommandLine.Commands
import ArtifactCache.Proofs.Accord
import ArtifactCache.Proofs.Flattening

/-!
# Where content for a group goes

What is stored or published at a group, or made an alias there, goes to the first
location below the group that accepts stores. Only the first location with a URI
counts: one that comes again is no second chance, even if it would accept stores
where the first does not (`Location.IsTarget`).

* `Location.find?_distinct_eq_some_iff`: what is found in a flat list without the
  places that come again, said of the flat list itself;
* `Groups.storageTarget?_eq`: the target of an expanded group;
* `Groups.target_is_first_eligible`: all three ways in choose that target, and
  complain of no storage location exactly if there is none.
-/
namespace ArtifactCache

namespace Location
variable {flat before after : List Location} {x : Location}

/-- The location accepts stores where its URI is met first, and none in front of it does. -/
def IsTarget (flat : List Location) (x : Location) : Prop :=
  ∃ before after, flat = before ++ x :: after ∧ x.acceptsStores = true ∧
    flat.find? x.same = some x ∧
    ∀ y ∈ before, flat.find? y.same = some y → y.acceptsStores = false

theorem distinct_append (xs ys : List Location) :
    distinct (xs ++ ys) =
      distinct xs ++ (distinct ys).filter fun l => !(distinct xs).any l.same := by
  rw [← keep_nil, keep_append, keep_nil, keep_eq]

theorem same_self (x : Location) : x.same x = true := same_iff.2 rfl

/-- A location whose URI is new splits the distinct locations as it splits the list. -/
theorem exists_distinct_eq (new : ∀ y ∈ before, x.same y = false) (after : List Location) :
    ∃ rest, distinct (before ++ x :: after) = distinct before ++ x :: rest := by
  have unseen : (distinct before).any x.same = false := by
    simpa using fun y mem => new y ((distinct_sublist before).subset mem)
  rw [distinct_append, distinct, List.filter_cons, if_pos (by simp [unseen])]
  exact ⟨_, rfl⟩

/-- Among what comes first of its URI, that is the first. -/
theorem find?_before {y : Location} (mem : y ∈ before) :
    (before ++ x :: after).find? y.same = before.find? y.same := by
  rw [List.find?_append]
  exact Option.or_of_isSome (List.find?_isSome.2 ⟨y, mem, same_self y⟩)

/-- **What is found among the distinct locations.** It passes where its URI is met
first, and nothing in front of it does. -/
theorem find?_distinct_eq_some_iff {p : Location → Bool} :
    (distinct flat).find? p = some x ↔ ∃ before after, flat = before ++ x :: after ∧
      p x = true ∧ flat.find? x.same = some x ∧
      ∀ y ∈ before, flat.find? y.same = some y → p y = false := by
  constructor
  · intro found
    have first := mem_distinct_iff.1 (List.mem_of_find?_eq_some found)
    obtain ⟨_, before, after, rfl, others⟩ := List.find?_eq_some_iff_append.1 first
    have new : ∀ y ∈ before, x.same y = false := by simpa using others
    refine ⟨before, after, rfl, List.find?_some found, first, fun y mem first_y => ?_⟩
    obtain ⟨rest, split⟩ := exists_distinct_eq new after
    rw [find?_before mem] at first_y
    rw [split, List.find?_append] at found
    cases earlier : (distinct before).find? p with
    | none => simpa using List.find?_eq_none.1 earlier y (mem_distinct_iff.2 first_y)
    | some z =>
      -- Then `x` would be found in front of itself.
      obtain rfl : z = x := by simpa [earlier] using found
      have mem_z := (distinct_sublist before).subset (List.mem_of_find?_eq_some earlier)
      cases (new _ mem_z).symm.trans (same_self _)
  · rintro ⟨before, after, rfl, passes, first, others⟩
    have new : ∀ y ∈ before, x.same y = false := by
      intro y mem
      refine Bool.not_eq_true _ |>.mp fun same => ?_
      have early : (before.find? x.same).isSome := List.find?_isSome.2 ⟨y, mem, same⟩
      obtain ⟨z, found⟩ := Option.isSome_iff_exists.1 early
      obtain rfl : z = x := by simpa [List.find?_append, found] using first
      have refused := others _ (List.mem_of_find?_eq_some found) first
      simp [passes] at refused
    obtain ⟨rest, split⟩ := exists_distinct_eq new after
    have nothing : (distinct before).find? p = none := by
      refine List.find?_eq_none.2 fun y mem => ?_
      have mem_y := (distinct_sublist before).subset mem
      have first_y := mem_distinct_iff.1 mem
      have whole : (before ++ x :: after).find? y.same = some y :=
        (find?_before mem_y).trans first_y
      simpa using others y mem_y whole
    rw [split, List.find?_append, nothing]
    simp [passes]

theorem find?_distinct_eq_none_iff {p : Location → Bool} :
    (distinct flat).find? p = none ↔ ∀ x ∈ flat, flat.find? x.same = some x → p x = false := by
  rw [List.find?_eq_none]
  constructor
  · intro none_passes x _ first
    simpa using none_passes x (mem_distinct_iff.2 first)
  · intro none_passes x mem
    simpa using none_passes x ((distinct_sublist flat).subset mem) (mem_distinct_iff.1 mem)

/-- The target is the first of all that accept stores, unless that one comes again. -/
theorem find?_distinct_eq_find?_iff {p : Location → Bool} :
    (distinct flat).find? p = flat.find? p ↔
      ∀ x, flat.find? p = some x → flat.find? x.same = some x := by
  constructor
  · intro agree x found
    exact mem_distinct_iff.1 (List.mem_of_find?_eq_some (agree.trans found))
  · intro first
    cases found : flat.find? p with
    | none =>
      refine find?_distinct_eq_none_iff.2 fun x mem _ => ?_
      simpa using List.find?_eq_none.1 found x mem
    | some x =>
      obtain ⟨passes, before, after, rfl, others⟩ := List.find?_eq_some_iff_append.1 found
      refine find?_distinct_eq_some_iff.2
        ⟨before, after, rfl, passes, first x found, fun y mem _ => ?_⟩
      simpa using others y mem

theorem find?_distinct_acceptsStores :
    (distinct flat).find? (·.acceptsStores) = some x ↔ IsTarget flat x :=
  find?_distinct_eq_some_iff

theorem exists_isTarget_iff :
    (∃ x, IsTarget flat x) ↔ ∃ x ∈ flat, flat.find? x.same = some x ∧ x.acceptsStores = true := by
  simp only [← find?_distinct_acceptsStores, ← Option.isSome_iff_exists, List.find?_isSome]
  constructor
  · rintro ⟨x, mem, accepts⟩
    exact ⟨x, (distinct_sublist flat).subset mem, mem_distinct_iff.1 mem, accepts⟩
  · rintro ⟨x, _, first, accepts⟩
    exact ⟨x, mem_distinct_iff.2 first, accepts⟩

end Location

/-! ## The spread of a group -/

section
variable {e : Expansion} {locations out : List Location} {path : String}

theorem Expansion.spread_of_expand (expanded : e.expand locations = .ok out) (some_left : out ≠ [])
    (path : String) : e.spread locations path = .ok ⟨out, .ofText path, some_left⟩ := by
  simp [spread, expanded, Spread.ofText?, some_left, bind, Except.bind, pure, Except.pure]

theorem Expansion.spread_of_expand_nil (expanded : e.expand locations = .ok [])
    (path : String) :
    e.spread locations path = .error (.invalidResource (.noLocations path)) := by
  simp [spread, expanded, Spread.ofText?, bind, Except.bind, throw, throwThe, MonadExceptOf.throw]

end

open CommandLine in
/-- An alias for a group is made at its target, if one is made. -/
theorem CommandLine.Desk.endsIn_makeAlias {desk : Desk} {l : Location} {path : String}
    {chosen : Except Complaint Resource} (choice : desk.aliasTarget l path = chosen)
    (source : Location) (sourcePath : String) :
    (desk.makeAlias source sourcePath l path).EndsIn fun result =>
      ∀ target origin, result = .ok (target, origin) → chosen = .ok target := by
  refine .seq fun found => ?_
  obtain e | _ | h := found
  · exact fun _ _ made => by cases made
  · exact fun _ _ made => by cases made
  · dsimp only
    rw [choice]
    cases chosen with
    | error complaint => exact fun _ _ made => by cases made
    | ok r =>
      refine .seq fun made => ?_
      cases made with
      | error e => exact fun _ _ made => by cases made
      | ok =>
        intro target origin made
        obtain ⟨rfl, _⟩ := Prod.mk.inj (Except.ok.inj made)
        rfl

namespace Groups
open CommandLine (Desk)
variable {g : Groups} {l x : Location} {out flat : List Location}

/-- The location `x` is chosen for what goes to `l`: content that is stored or
published there, and an alias if `l` is a group. -/
structure Chooses (g : Groups) (l x : Location) : Prop where
  store {S H : Type} (supplier : Supplier S H) (path : String) (source : Source S) (m : Metadata) :
    Catalog.store ⟨supplier, .groups g⟩ l path source m =
      supplier.store ⟨x, .ofText path⟩ source m
  publish {S H : Type} (supplier : Supplier S H) (path : String) (source : Source S)
      (length : Nat) (contentType : String) :
    Catalog.publish ⟨supplier, .groups g⟩ l path source length contentType = do
      let target : Resource := ⟨x, .ofText path⟩
      Action.say .debug .catalog ("publishing " ++ target.display ++ " (" ++ contentType ++ ")")
      supplier.publish target source length contentType
  makeAlias (desk : Desk) (path : String) : desk.config.groupTable = g → l.isGroup = true →
    desk.aliasTarget l path = .ok ⟨x, .ofText path⟩ ∧ ∀ source sourcePath,
      (desk.makeAlias source sourcePath l path).EndsIn fun result =>
        ∀ target origin, result = .ok (target, origin) → target = ⟨x, .ofText path⟩

/-- No location is chosen, and all ways in complain of that. Where `l` stands for no
locations at all, that is what is wrong with it. -/
structure Rejects (g : Groups) (l : Location) (out : List Location) : Prop where
  vacant (path : String) : out = [] →
    (Expansion.groups g).spread [l] path = .error (.invalidResource (.noLocations path))
  store {S H : Type} (supplier : Supplier S H) (path : String) (source : Source S) (m : Metadata)
      (some_left : out ≠ []) :
    Catalog.store ⟨supplier, .groups g⟩ l path source m = do
      Action.say .warn .search "Cannot store. No valid storage locations in group."
      return .error (.noStorageLocation (Spread.display ⟨out, .ofText path, some_left⟩))
  publish {S H : Type} (supplier : Supplier S H) (path : String) (source : Source S)
      (length : Nat) (contentType : String) (some_left : out ≠ []) :
    Catalog.publish ⟨supplier, .groups g⟩ l path source length contentType =
      return .error (.noStorageLocation (Spread.display ⟨out, .ofText path, some_left⟩))
  makeAlias (desk : Desk) (path : String) : desk.config.groupTable = g → l.isGroup = true →
    out ≠ [] →
    desk.aliasTarget l path =
        .error { message := "No location in " ++ l.name ++ " accepts stores" } ∧
      ∀ source sourcePath, (desk.makeAlias source sourcePath l path).EndsIn fun result =>
        ∀ made, result ≠ .ok made

theorem spread_eq (expanded : g.expand [l] = .ok out) (some_left : out ≠ []) (path : String) :
    (Expansion.groups g).spread [l] path = .ok ⟨out, .ofText path, some_left⟩ :=
  Expansion.spread_of_expand (e := .groups g) expanded some_left path

/-- The target of an expanded location is looked for among the distinct ones. -/
theorem storageTarget?_eq (path : Path) (some_left : out ≠ []) :
    Search.storageTarget? ⟨out, path, some_left⟩ =
      (out.find? (·.acceptsStores)).map fun l => ⟨l, path⟩ := rfl

theorem chooses (expanded : g.expand [l] = .ok out)
    (found : out.find? (·.acceptsStores) = some x) : g.Chooses l x := by
  have some_left : out ≠ [] := List.ne_nil_of_mem (List.mem_of_find?_eq_some found)
  have target (path : Path) :
      Search.storageTarget? ⟨out, path, some_left⟩ = some ⟨x, path⟩ := by
    rw [storageTarget?_eq, found, Option.map_some]
  constructor
  · intro S H supplier path source m
    simp only [Catalog.store, Catalog.spreading, spread_eq expanded some_left, Search.store, target]
  · intro S H supplier path source length contentType
    simp only [Catalog.publish, Catalog.spreading, spread_eq expanded some_left, target]
  · rintro desk path rfl group
    have choice : desk.aliasTarget l path = .ok ⟨x, .ofText path⟩ := by
      simp only [Desk.aliasTarget, Desk.catalog, spread_eq expanded some_left, group, target,
        if_true]
    refine ⟨choice, fun source sourcePath => ?_⟩
    have ends := Desk.endsIn_makeAlias choice source sourcePath
    exact ends.mono fun result fits target origin made =>
      (Except.ok.inj (fits target origin made)).symm

theorem rejects (expanded : g.expand [l] = .ok out)
    (none_found : out.find? (·.acceptsStores) = none) : g.Rejects l out := by
  have target (path : Path) (some_left : out ≠ []) :
      Search.storageTarget? ⟨out, path, some_left⟩ = none := by
    rw [storageTarget?_eq, none_found, Option.map_none]
  constructor
  · rintro path rfl
    exact Expansion.spread_of_expand_nil (e := .groups g) expanded path
  · intro S H supplier path source m some_left
    simp only [Catalog.store, Catalog.spreading, spread_eq expanded some_left, Search.store, target]
  · intro S H supplier path source length contentType some_left
    simp only [Catalog.publish, Catalog.spreading, spread_eq expanded some_left, target]
  · rintro desk path rfl group some_left
    have choice : desk.aliasTarget l path =
        .error { message := "No location in " ++ l.name ++ " accepts stores" } := by
      simp only [Desk.aliasTarget, Desk.catalog, spread_eq expanded some_left, group, target,
        if_true]
    refine ⟨choice, fun source sourcePath => ?_⟩
    have ends := Desk.endsIn_makeAlias choice source sourcePath
    refine ends.mono fun result fits made eq => ?_
    cases fits made.1 made.2 eq

/-- **What goes to a group goes to its first eligible location.** `flat` lists all
locations that can be reached, in depth-first order. The one that is chosen accepts
stores where its URI is met first, and none in front of it does; if there is none,
storing, publishing and making an alias complain of that. So the choice is the first
of all that accept stores, unless that one comes again. -/
theorem target_is_first_eligible (expanded : g.expand [l] = .ok out) :
    ∃ flat, g.Flattens [l] flat ∧ (∀ other, g.Flattens [l] other → other = flat) ∧
      (∀ x, x ∈ flat ↔ g.Reaches [l] x ∧ x.isGroup = false) ∧ (out = [] ↔ flat = []) ∧
      (∀ x, Location.IsTarget flat x → g.Chooses l x) ∧
      ((∀ x ∈ flat, flat.find? x.same = some x → x.acceptsStores = false) → g.Rejects l out) ∧
      ((∃ x, Location.IsTarget flat x) ↔
        ∃ x ∈ flat, flat.find? x.same = some x ∧ x.acceptsStores = true) ∧
      ∀ x, flat.find? (·.acceptsStores) = some x →
        (Location.IsTarget flat x ↔ flat.find? x.same = some x) := by
  obtain ⟨flat, flattens, rfl⟩ := expand_flattens expanded
  refine ⟨flat, flattens, fun _ => flattens.unique, fun _ => flattens.reaches_iff, ?_,
    fun x target => ?_, fun none_accepts => ?_, Location.exists_isTarget_iff,
    fun x first_of_all => ⟨fun target => ?_, fun first => ?_⟩⟩
  · cases flat <;> simp [Location.distinct]
  · exact chooses expanded (Location.find?_distinct_acceptsStores.2 target)
  · exact rejects expanded (Location.find?_distinct_eq_none_iff.2 none_accepts)
  · obtain ⟨_, _, _, _, first, _⟩ := target
    exact first
  · have same : (Location.distinct flat).find? (·.acceptsStores)
        = flat.find? (·.acceptsStores) := by
      refine Location.find?_distinct_eq_find?_iff.2 fun y found => ?_
      obtain rfl := Option.some.inj (first_of_all.symm.trans found)
      exact first
    exact Location.find?_distinct_acceptsStores.1 (same.trans first_of_all)

/-- The second member of a group within a group, for every way in. -/
theorem nested_target_is_chosen :
    let ro : Location := { name := "ro", uri := "file:///ro" }
    let rw : Location := { name := "rw", uri := "file:///rw", acceptsStores := true }
    let g : Groups := .ofPairs [("all", [ro, .group "writable"]), ("writable", [rw])]
    g.expand [.group "all"] = .ok [ro, rw] ∧ g.Chooses (.group "all") rw := by
  intro ro rw g
  have all : g.members? (Location.group "all").name = some [ro, .group "writable"] := rfl
  have writable : g.members? (Location.group "writable").name = some [rw] := rfl
  have expanded : g.expand [.group "all"] = .ok [ro, rw] := by
    simp (disch := decide) only [expand, List.foldlM_cons, List.foldlM_nil, gather_single,
      gather_members _ _ all, gather_members _ _ writable]
    rfl
  obtain ⟨flat, _, unique, _, _, chosen, _⟩ := target_is_first_eligible expanded
  have flattens : g.Flattens [.group "all"] [ro, rw] :=
    .group (by decide) all
      (.single (by decide) (.group (by decide) writable (.single (by decide) .nil) .nil)) .nil
  obtain rfl := unique _ flattens
  exact ⟨expanded, chosen rw ⟨[ro], [], rfl, rfl, by decide, by simp [ro]⟩⟩

/-- A location that accepts stores has the URI of one in front of it that does not.
It can be reached, but nothing can be stored at the group. -/
theorem eligible_location_hidden :
    let ro : Location := { name := "ro", uri := "file:///srv" }
    let rw : Location := { name := "rw", uri := "file:///srv", acceptsStores := true }
    let g : Groups := .ofPairs [("all", [ro, rw])]
    g.expand [.group "all"] = .ok [ro] ∧ g.Reaches [.group "all"] rw ∧
      rw.isGroup = false ∧ rw.acceptsStores = true ∧
      (∀ (S H : Type) (supplier : Supplier S H) (path : String) (source : Source S) (m : Metadata),
        ∃ spread, Catalog.store ⟨supplier, .groups g⟩ (.group "all") path source m = do
          Action.say .warn .search "Cannot store. No valid storage locations in group."
          return .error (.noStorageLocation spread)) ∧
      ∀ desk : Desk, desk.config.groupTable = g → ∀ path,
        desk.aliasTarget (.group "all") path =
          .error { message := "No location in all accepts stores" } := by
  intro ro rw g
  have all : g.members? (Location.group "all").name = some [ro, rw] := rfl
  have expanded : g.expand [.group "all"] = .ok [ro] := by
    simp (disch := decide) only [expand, List.foldlM_cons, List.foldlM_nil, gather_single,
      gather_members _ _ all]
    rfl
  have rejected : g.Rejects (.group "all") [ro] := rejects expanded (by decide)
  have group : (Location.group "all").isGroup = true := by decide
  refine ⟨expanded, ?_, by decide, rfl, fun S H supplier path source m => ?_,
    fun desk table path => ?_⟩
  · exact .member (.listed (List.mem_singleton_self _)) group all (by simp)
  · exact ⟨_, rejected.store supplier path source m (by simp)⟩
  · exact (rejected.makeAlias desk path table group (by simp)).1

end Groups
end ArtifactCache
