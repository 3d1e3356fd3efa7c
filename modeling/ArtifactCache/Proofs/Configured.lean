import ArtifactCache.CommandLine.Commands
import ArtifactCache.Config.Text
import ArtifactCache.Proofs.Blame
import ArtifactCache.Proofs.Flattening
import Mathlib.Data.List.Induction

/-!
# What an accepted configuration can expand

Validation expands every group, so whatever has the name of a group can be expanded
(`expand_group`). It does not expand the locations, and it does not look at the
schemes of their URIs: a location with a URI such as `group:y` passes for a group of
its own name, which is in no table (`expand_disguised`).

* `Accepted` are the facts that validation establishes;
* `location?_eq_some` and `members?_eq_some` relate names, locations and the table;
* `accepted_expands_iff` joins the cases, and follows them to the operations of a
  catalog.
-/
namespace ArtifactCache

/-- The latest pair of a key is what the table has at it. -/
theorem Table.get?_ofPairs {κ ν : Type} [DecidableEq κ] (pairs : List (κ × ν)) (k : κ) :
    (Table.ofPairs pairs).get? k = (pairs.reverse.find? (·.1 = k)).map (·.2) := by
  unfold ofPairs
  induction pairs using List.reverseRecOn with
  | nil => rfl
  | append_singleton pairs pair ih =>
    rw [List.foldl_append, List.reverse_concat, List.find?_cons]
    simp only [List.foldl_cons, List.foldl_nil, get?_insert]
    by_cases h : pair.1 = k
    · simp [h]
    · simp [h, ih]

theorem Location.isGroup_group (name : String) : (Location.group name).isGroup = true := by
  simp [isGroup, group]

namespace Config
variable {c : Config} {name : String} {l : Location} {uris : UriReader}
  {yaml : String → Option Config}

/-- What validation establishes. -/
structure Accepted (c : Config) : Prop where
  /-- No name comes twice, be it of a location or of a group. -/
  distinct : c.names.Nodup
  /-- Every member has a name that is declared. -/
  declared : ∀ g ∈ c.groups, ∀ member ∈ g.members, member ∈ c.names
  /-- Every group can be expanded. -/
  expands : ∀ g ∈ c.groups, ∃ out, c.groupTable.expand [Location.group g.name] = .ok out

theorem nodup_of_checkNames {seen names : List String} (passed : checkNames seen names = .ok ()) :
    names.Nodup ∧ ∀ name ∈ names, name ∉ seen := by
  induction names generalizing seen with
  | nil => exact ⟨.nil, fun _ h => by cases h⟩
  | cons name rest ih =>
    unfold checkNames at passed
    split at passed
    · cases passed
    split at passed
    · cases passed
    · next fresh =>
      obtain ⟨distinct, apart⟩ := ih passed
      have fresh : name ∉ seen := by simpa using fresh
      refine ⟨List.nodup_cons.2 ⟨fun again => apart name again (by simp), distinct⟩, ?_⟩
      rintro other (_ | ⟨_, mem⟩)
      · exact fresh
      · exact fun old => apart other mem (by simp [old])

theorem declared_of_checkMembers {known : List String} {groups : List Group}
    (passed : checkMembers known groups = .ok ()) :
    ∀ g ∈ groups, ∀ member ∈ g.members, member ∈ known := by
  induction groups with
  | nil => exact fun _ h => by cases h
  | cons g rest ih =>
    unfold checkMembers at passed
    split at passed
    · cases passed
    · next none =>
      rintro other (_ | ⟨_, mem⟩) member has
      · simpa using List.find?_eq_none.1 none member has
      · exact ih passed other mem member has

theorem expands_of_checkGroups {table : Groups} {groups : List Group}
    (passed : checkGroups table groups = .ok ()) :
    ∀ g ∈ groups, ∃ out, table.expand [Location.group g.name] = .ok out := by
  induction groups with
  | nil => exact fun _ h => by cases h
  | cons g rest ih =>
    unfold checkGroups at passed
    split at passed
    · cases passed
    · next out expanded =>
      rintro other (_ | ⟨_, mem⟩)
      · exact ⟨out, expanded⟩
      · exact ih passed other mem

theorem accepted_of_validate (valid : c.validate uris = .ok ()) : c.Accepted := by
  unfold validate at valid
  cases names : checkNames [] c.names with
  | error e => rw [names] at valid; cases valid
  | ok =>
  cases checked : checkUris uris c.locations with
  | error e => rw [names, checked] at valid; cases valid
  | ok =>
  cases members : checkMembers c.names c.groups with
  | error e => rw [names, checked, members] at valid; cases valid
  | ok =>
  rw [names, checked, members] at valid
  exact ⟨(nodup_of_checkNames names).1, declared_of_checkMembers members,
    expands_of_checkGroups valid⟩

theorem valid_of_parse {text : String} (parsed : parse text yaml uris = .ok c) :
    c.validate uris = .ok () := by
  unfold parse at parsed
  split at parsed
  · cases parsed
  · next config read =>
    cases valid : config.validate uris with
    | error e => rw [valid] at parsed; cases parsed
    | ok =>
      rw [valid] at parsed
      cases parsed
      exact valid

theorem accepted_of_parse {text : String} (parsed : parse text yaml uris = .ok c) : c.Accepted :=
  accepted_of_validate (valid_of_parse parsed)

theorem parses_of_checkUris {ls : List Location} (passed : checkUris uris ls = .ok ()) :
    ∀ l ∈ ls, ∃ uri, uris.parse l.uri = .ok uri := by
  induction ls with
  | nil => nofun
  | cons l rest ih =>
    unfold checkUris at passed
    split at passed
    · cases passed
    · next uri parsed => exact List.forall_mem_cons.2 ⟨⟨uri, parsed⟩, ih passed⟩

/-- No URI is empty, if the empty text is read as none. -/
theorem uri_ne_empty_of_validate {why : Uri.Fault} (refused : uris.parse "" = .error why)
    (valid : c.validate uris = .ok ()) : ∀ l ∈ c.locations, l.uri ≠ "" := by
  intro l mem empty
  have passed : checkUris uris c.locations = .ok () := by
    unfold validate at valid
    cases names : checkNames [] c.names with
    | error e => rw [names] at valid; cases valid
    | ok =>
    cases checked : checkUris uris c.locations with
    | error e => rw [names, checked] at valid; cases valid
    | ok => rfl
  obtain ⟨uri, parsed⟩ := parses_of_checkUris passed l mem
  rw [empty, refused] at parsed
  cases parsed

/-- What has a name is the location of that name, or stands for the group of that name. -/
theorem location?_eq_some (found : c.location? name = some l) :
    l.name = name ∧ (l ∈ c.locations ∨
      ∃ g ∈ c.groups, g.name = name ∧ l = Location.group name) := by
  unfold location? at found
  cases declared : c.locations.find? fun l => l.name = name with
  | some l' =>
    rw [declared] at found
    cases found
    have named := List.find?_some declared
    exact ⟨by simpa using named, .inl (List.mem_of_find?_eq_some declared)⟩
  | none =>
    rw [declared, Option.none_or] at found
    obtain ⟨g, grouped, rfl⟩ := Option.map_eq_some_iff.1 found
    have named : g.name = name := by simpa using List.find?_some grouped
    exact ⟨named, .inr ⟨g, List.mem_of_find?_eq_some grouped, named, by rw [named]⟩⟩

theorem exists_location (known : name ∈ c.names) : ∃ l, c.location? name = some l := by
  unfold location?
  cases declared : c.locations.find? fun l => l.name = name with
  | some l => exact ⟨l, rfl⟩
  | none =>
    rw [List.find?_eq_none] at declared
    obtain named | named := List.mem_append.1 known
    · obtain ⟨l, mem, rfl⟩ := List.mem_map.1 named
      simpa using declared l mem
    · obtain ⟨g, mem, rfl⟩ := List.mem_map.1 named
      have some : (c.groups.find? fun g' => g'.name = g.name).isSome :=
        List.find?_isSome.2 ⟨g, mem, by simp⟩
      obtain ⟨g', found⟩ := Option.isSome_iff_exists.1 some
      exact ⟨_, by rw [Option.none_or, found]; rfl⟩

/-- The table has the groups, each with what its members name. -/
theorem members?_eq_some {members : List Location}
    (found : c.groupTable.members? name = some members) :
    ∃ g ∈ c.groups, g.name = name ∧ members = g.members.filterMap c.location? := by
  simp only [groupTable, Groups.ofPairs, Groups.members?, Table.get?_ofPairs,
    Option.map_eq_some_iff] at found
  obtain ⟨pair, found, rfl⟩ := found
  have paired := List.mem_reverse.1 (List.mem_of_find?_eq_some found)
  obtain ⟨g, mem, rfl⟩ := List.mem_map.1 paired
  exact ⟨g, mem, by simpa using List.find?_some found, rfl⟩

/-- Expanding a group leads to declared locations. -/
theorem mem_locations_of_expand {out : List Location}
    (expanded : c.groupTable.expand [Location.group name] = .ok out) :
    ∀ m ∈ out, m ∈ c.locations ∧ m.isGroup = false := by
  intro m mem
  obtain ⟨flat, flattens, rfl⟩ := Groups.expand_flattens expanded
  obtain ⟨reaches, plain⟩ := flattens.reaches_iff.1 ((Location.distinct_sublist flat).subset mem)
  refine ⟨?_, plain⟩
  cases reaches with
  | listed here =>
    rw [List.mem_singleton.1 here, Location.isGroup_group] at plain
    cases plain
  | member _ _ found here =>
    obtain ⟨g, -, -, rfl⟩ := members?_eq_some found
    obtain ⟨member, -, named⟩ := List.mem_filterMap.1 here
    obtain ⟨-, declared | ⟨_, -, -, rfl⟩⟩ := location?_eq_some named
    · exact declared
    · rw [Location.isGroup_group] at plain
      cases plain

namespace Accepted

/-- A location whose URI has the scheme of groups is a group that is in no table. -/
theorem expand_disguised (accepted : c.Accepted) (declared : l ∈ c.locations)
    (group : l.isGroup = true) :
    c.groupTable.expand [l] = .error (.invalidResource (.unknownGroup l.name)) := by
  have missing : c.groupTable.members? l.name = none := by
    cases found : c.groupTable.members? l.name with
    | none => rfl
    | some members =>
      obtain ⟨g, mem, named, -⟩ := members?_eq_some found
      have apart := (List.nodup_append.1 accepted.distinct).2.2 l.name
        (List.mem_map_of_mem declared) g.name (List.mem_map_of_mem mem)
      exact absurd named.symm apart
  unfold Groups.expand
  rw [List.foldlM_cons, Groups.gather_unknown group (by simp) missing]
  rfl

/-- Everything else that has a name can be expanded. -/
theorem exists_expand (accepted : c.Accepted) (found : c.location? name = some l)
    (honest : ¬ (l ∈ c.locations ∧ l.isGroup = true)) :
    ∃ out, c.groupTable.expand [l] = .ok out ∧ ∀ m ∈ out, m ∈ c.locations ∧ m.isGroup = false := by
  obtain ⟨-, declared | ⟨g, mem, rfl, rfl⟩⟩ := location?_eq_some found
  · have plain : l.isGroup = false := by simpa using fun group => honest ⟨declared, group⟩
    have alone : ∀ m ∈ [l], m.isGroup = false := fun m mem => List.mem_singleton.1 mem ▸ plain
    refine ⟨_, Groups.expand_of_no_groups alone, fun m mem => ?_⟩
    obtain rfl := List.mem_singleton.1 ((Location.distinct_sublist [l]).subset mem)
    exact ⟨declared, plain⟩
  · obtain ⟨out, expanded⟩ := accepted.expands g mem
    exact ⟨out, expanded, mem_locations_of_expand expanded⟩

end Accepted

/-- **What an accepted configuration can expand.** Each declared name stands for a
location. It can be expanded, and to declared locations only, unless it was declared
as a location with a URI whose scheme is that of groups: then it is an unknown group.
What can be expanded can be used, by any thread and whatever others do: no failure of
a search, a store, a deletion or a listing is about the groups. It does not matter
how URIs are read, and how the written form. -/
theorem accepted_expands_iff {text : String} (parsed : parse text yaml uris = .ok c)
    (known : name ∈ c.names) :
    ∃ l, c.location? name = some l ∧ l.name = name ∧
      ((∃ out, c.groupTable.expand [l] = .ok out ∧
          ∀ m ∈ out, m ∈ c.locations ∧ m.isGroup = false) ↔
        ¬ (l ∈ c.locations ∧ l.isGroup = true)) ∧
      (l ∈ c.locations → l.isGroup = true →
        c.groupTable.expand [l] = .error (.invalidResource (.unknownGroup name))) ∧
      (¬ (l ∈ c.locations ∧ l.isGroup = true) →
        ∀ {S R W : Type} (cache : Cache S R W), cache.SparesGroups →
        ∀ (t : Thread) (path : String) (source : Source S) (m : Metadata),
          let catalog : Catalog S (Handle S R W) := ⟨cache.supplier t, .groups c.groupTable⟩
          (catalog.retrieve l path m).Answers Blameless ∧
          (catalog.store l path source m).Answers Blameless ∧
          (catalog.delete l path m).Answers Blameless ∧
          (catalog.list l path).Answers Blameless) := by
  have accepted := accepted_of_parse parsed
  obtain ⟨l, found⟩ := exists_location known
  have named := (location?_eq_some found).1
  refine ⟨l, found, named, ⟨?_, accepted.exists_expand found⟩, fun declared group => ?_,
    fun honest S R W cache spares t path source m => ?_⟩
  · rintro ⟨out, expanded, -⟩ ⟨declared, group⟩
    rw [accepted.expand_disguised declared group] at expanded
    cases expanded
  · rw [accepted.expand_disguised declared group, named]
  · obtain ⟨out, expanded, -⟩ := accepted.exists_expand found honest
    have expands : Blameless ((Expansion.groups c.groupTable).expand [l]) := by
      rw [Expansion.expand, expanded]
      exact blameless_ok _
    exact ⟨Catalog.answers_retrieve spares expands m, Catalog.answers_store spares expands source m,
      Catalog.answers_delete expands m, Catalog.answers_list spares expands⟩

/-- A group of one location, in memory and at the command line. -/
theorem accepted_group_expands :
    let text := "locations:\n  - name: x\n    uri: file:///x\n" ++
      "groups:\n  - name: all\n    members: [x]\n"
    ∃ c, parse text = .ok c ∧ "all" ∈ c.names ∧ c.location? "all" = some (.group "all") ∧
      (∃ out, c.groupTable.expand [.group "all"] = .ok out ∧
        ∀ m ∈ out, m ∈ c.locations ∧ m.isGroup = false) ∧
      ∀ path m, (Catalog.retrieve ⟨Cache.supplier { backend := Memory.backend false } 0,
          .groups c.groupTable⟩ (.group "all") path m).Answers Blameless ∧
        ∀ files, (({ config := c, files } : CommandLine.Desk).catalog.retrieve
          (.group "all") path m).Answers Blameless := by
  intro text
  have read : (parse text).toOption.map (fun c => (c.names, c.locations, c.location? "all"))
      = some (["x", "all"], [{ name := "x", uri := "file:///x" }], some (.group "all")) := by
    decide +kernel
  cases parsed : parse text with
  | error e => rw [parsed] at read; cases read
  | ok c =>
    rw [parsed] at read
    obtain ⟨names, locations, found⟩ : c.names = ["x", "all"] ∧
        c.locations = [{ name := "x", uri := "file:///x" }] ∧
        c.location? "all" = some (.group "all") := by simpa [Except.toOption] using read
    have known : "all" ∈ c.names := by simp [names]
    have honest : ¬ (Location.group "all" ∈ c.locations ∧ (Location.group "all").isGroup = true) := by
      simp [locations, Location.group]
    obtain ⟨l, same, -, expands, -, answers⟩ := accepted_expands_iff parsed known
    obtain rfl := Option.some.inj (found.symm.trans same)
    refine ⟨c, rfl, known, found, expands.2 honest, fun path m => ⟨?_, fun files => ?_⟩⟩
    · exact (answers honest _ (Cache.sparesGroups_memory false .logging none) 0 path
        (fun _ => { bytes := [] }) m).1
    · exact (answers honest _ (Cache.sparesGroups_files files .logging none {}) 0 path
        (fun _ => { bytes := [] }) m).1

/-- A location with a URI of the scheme of groups is accepted. It cannot be expanded,
so nothing can be retrieved from it. -/
theorem disguised_location_accepted :
    ∃ c l, parse "locations:\n  - name: x\n    uri: group:y\n" = .ok c ∧ "x" ∈ c.names ∧
      c.location? "x" = some l ∧
      c.groupTable.expand [l] = .error (.invalidResource (.unknownGroup "x")) ∧
      ∀ (path : String) (m : Metadata),
        Catalog.retrieve ⟨Cache.supplier { backend := Memory.backend false } 0,
          .groups c.groupTable⟩ l path m = return .error (.invalidResource (.unknownGroup "x")) := by
  have read : (parse "locations:\n  - name: x\n    uri: group:y\n").toOption.map
      (fun c => (c.names, c.locations, c.location? "x"))
      = some (["x"], [{ name := "x", uri := "group:y" }], some { name := "x", uri := "group:y" }) := by
    decide +kernel
  cases parsed : parse "locations:\n  - name: x\n    uri: group:y\n" with
  | error e => rw [parsed] at read; cases read
  | ok c =>
    rw [parsed] at read
    obtain ⟨names, locations, found⟩ : c.names = ["x"] ∧
        c.locations = [{ name := "x", uri := "group:y" }] ∧
        c.location? "x" = some { name := "x", uri := "group:y" } := by
      simpa [Except.toOption] using read
    have unknown := (accepted_of_parse parsed).expand_disguised (by rw [locations]; simp)
      (l := { name := "x", uri := "group:y" }) (by decide)
    refine ⟨c, _, rfl, by simp [names], found, unknown, fun path m => ?_⟩
    simp only [Catalog.retrieve, Catalog.retrieveFirst, Catalog.spreading, Expansion.spread,
      Expansion.expand, unknown]
    rfl

end Config
end ArtifactCache
