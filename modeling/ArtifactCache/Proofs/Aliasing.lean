import ArtifactCache.CommandLine.Run
import ArtifactCache.Proofs.Aliases
import ArtifactCache.Proofs.Configured
import ArtifactCache.Proofs.Copies
import ArtifactCache.Proofs.FileOrder
import ArtifactCache.Proofs.Hits
import ArtifactCache.Proofs.Targets

/-!
# The alias command

A link and a copy do the same to what is read: the target reads what the source reads, and
nothing else has changed. For a source that is no file nothing is made, and nothing said. The
command finds its source as every search does, which may be a directory.

* `Files.makesAlias_of_createAlias`: what the store makes of an alias;
* `CommandLine.exists_makes_of_run`: a run that succeeds has found its source and made an alias;
* `CommandLine.Desk.Leaves`: what that leaves on the disk;
* `alias_made_unless_directory`: every run of the command.
-/
namespace ArtifactCache

/-! ## Aliases of files -/

namespace Files
variable {f : Files} {d : Disk} {home : List PathText} {source target : Resource}

theorem readAlike_of_content {r q : Resource} {bytes : Bytes}
    (first : f.numbering.content? r.address d = some bytes)
    (second : f.numbering.content? q.address d = some bytes) : f.backend.ReadAlike r q d where
  first := (isFile_eq_content? r d).trans (by rw [first]; rfl)
  second := (isFile_eq_content? q d).trans (by rw [second]; rfl)
  content := ⟨bytes, (f.serves.content r d).trans first, (f.serves.content q d).trans second⟩

theorem createAlias_of_not_isFile (no_file : d.isFile (f.placeOf source) = false) :
    f.createAlias source target d = ((.ok (), []), d) := by
  simp [createAlias, no_file]

theorem createAlias_of_same (same : source.same target = true) :
    f.createAlias source target d = ((.ok (), []), d) := by
  simp [createAlias, same]

theorem createAlias_of_copying (copying : f.linking = false) (other : source.same target = false)
    (file : d.isFile (f.placeOf source) = true) :
    f.createAlias source target d =
      (((f.copy source target d).1, []), (f.copy source target d).2) := by
  simp [createAlias, copying, other, file]

/-- Whether by a link or by a copy, the target of an alias has what the source has, and other
places have what they had. -/
theorem content_of_createAlias (standing : f.Standing home d)
    (file : d.isFile (f.placeOf source) = true)
    (apart : ¬ SamePlace source.address target.address)
    (made : (f.createAlias source target d).1.1 = .ok ()) :
    f.numbering.content? target.address (f.createAlias source target d).2 =
        f.numbering.content? source.address d ∧
      ∀ a, ¬ SamePlace a target.address →
        f.numbering.content? a (f.createAlias source target d).2 = f.numbering.content? a d := by
  have other := not_same_of_not_samePlace apart
  cases linking : f.linking with
  | true =>
    obtain ⟨n, number, renames, bodies⟩ := renames_of_createAlias standing linking file other made
    refine ⟨?_, fun a elsewhere => renames.content bodies elsewhere⟩
    rw [Numbering.content?, Numbering.content?, renames.here _ rfl, number]
    exact congrArg some (bodies n)
  | false =>
    rw [createAlias_of_copying linking other file] at made ⊢
    obtain ⟨n, k, number, unused, puts⟩ := puts_copy standing apart made
    refine ⟨?_, fun a elsewhere => puts.content_of_ne elsewhere fun used => unused ⟨a, used⟩⟩
    rw [puts.content rfl, Numbering.content?, number]
    rfl

/-- What the store makes of an alias that it does not refuse. -/
structure MakesAlias (f : Files) (source target : Resource) (d d' : Disk) : Prop where
  alike : f.backend.ReadAlike target source d' ↔ f.backend.isFile source d = true
  nothing : f.backend.isFile source d = false → d' = d
  kept : f.backend.Keeps source d d'
  others (q : Resource) : q.location.uri ≠ "" → q.same target = false → f.backend.Keeps q d d'

theorem makesAlias_of_createAlias (standing : f.Standing home d)
    (named : source.location.uri ≠ "") (named' : target.location.uri ≠ "")
    (made : (f.createAlias source target d).1.1 = .ok ()) :
    f.MakesAlias source target d (f.createAlias source target d).2 := by
  cases file : f.backend.isFile source d with
  | false =>
    rw [createAlias_of_not_isFile file]
    refine ⟨iff_of_false (fun alike => ?_) (by simp [file]), fun _ => rfl, .refl _ source d,
      fun q _ _ => .refl _ q d⟩
    cases file.symm.trans alike.second
  | true =>
    have there : ¬ f.backend.isFile source d = false := by simp [file]
    obtain ⟨bytes, given⟩ : ∃ bytes, f.numbering.content? source.address d = some bytes :=
      Option.isSome_iff_exists.1 ((isFile_eq_content? source d).symm.trans file)
    cases same : source.same target with
    | true =>
      have eq : source.address = target.address := by simpa [Resource.same] using same
      rw [createAlias_of_same same]
      exact ⟨iff_of_true (readAlike_of_content (eq ▸ given) given) file, fun _ => rfl,
        .refl _ source d, fun q _ _ => .refl _ q d⟩
    | false =>
      have apart {q : Resource} (named : q.location.uri ≠ "") (other : q.same target = false) :
          ¬ SamePlace q.address target.address :=
        (not_samePlace_iff (f := f)).2 (apart_of_named named named' other)
      obtain ⟨read, others⟩ := content_of_createAlias standing file (apart named same) made
      have kept := others source.address (apart named same)
      refine ⟨iff_of_true (readAlike_of_content (read.trans given) (kept.trans given)) file,
        fun no_file => absurd no_file there, keeps_iff_content.2 kept, fun q named other => ?_⟩
      exact keeps_iff_content.2 (others q.address (apart named other))

end Files

/-! ## Locations of a configuration -/

namespace Config
variable {c : Config} {name path : String} {l : Location}

/-- What the name of an accepted configuration is spread over are declared locations. -/
theorem locations_of_spread (accepted : c.Accepted) (found : c.location? name = some l)
    {spread : Spread}
    (spreads : (Expansion.groups c.groupTable).spread [l] path = .ok spread) :
    ∀ m ∈ spread.locations, m ∈ c.locations := by
  by_cases disguised : l ∈ c.locations ∧ l.isGroup = true
  · have unknown := accepted.expand_disguised disguised.1 disguised.2
    simp [Expansion.spread, Expansion.expand, unknown, bind, Except.bind] at spreads
  · obtain ⟨out, expanded, declared⟩ := accepted.exists_expand found disguised
    by_cases none_left : out = []
    · rw [none_left] at expanded
      rw [Expansion.spread_of_expand_nil (e := .groups c.groupTable) expanded] at spreads
      cases spreads
    · rw [Expansion.spread_of_expand (e := .groups c.groupTable) expanded none_left] at spreads
      obtain rfl := Except.ok.inj spreads
      exact fun m mem => (declared m mem).1

end Config

/-! ## Runs of the command -/

namespace CommandLine
variable {i : Invocation} {d : Disk} {options : Options} {config : Config} {libraries : Libraries}

theorem exists_parse_of_loadConfig {path : String}
    (loads : loadConfig path d libraries = .ok config) :
    ∃ text, Config.parse text libraries.yaml libraries.uris = .ok config := by
  unfold loadConfig at loads
  dsimp only at loads
  split at loads
  · split at loads
    · cases loads
    · split at loads
      · cases loads
      · next text _ =>
        cases parsed : Config.parse text libraries.yaml libraries.uris with
        | error e => rw [parsed] at loads; cases loads
        | ok c =>
          rw [parsed] at loads
          obtain rfl := Except.ok.inj loads
          exact ⟨text, parsed⟩
  · cases loads

namespace Desk
variable {desk : Desk} {l : Location} {path : String} {source target : Resource}

/-- An alias goes to a declared location. -/
theorem location_of_aliasTarget {name : String} (accepted : desk.config.Accepted)
    (found : desk.config.location? name = some l) (chosen : desk.aliasTarget l path = .ok target) :
    target.location ∈ desk.config.locations := by
  unfold aliasTarget at chosen
  split at chosen
  · cases chosen
  next spread spreads =>
  split at chosen
  · split at chosen
    · next r first =>
      obtain rfl := Except.ok.inj chosen
      obtain ⟨m, accepts, rfl⟩ := Option.map_eq_some_iff.1 first
      exact Config.locations_of_spread accepted found spreads m (List.mem_of_find?_eq_some accepts)
    · cases chosen
  · next plain =>
    obtain rfl := Except.ok.inj chosen
    obtain ⟨_, declared | ⟨_, _, _, rfl⟩⟩ := Config.location?_eq_some found
    · exact declared
    · exact absurd (Location.isGroup_group name) plain

/-- How an alias is made: the source is found, and the store makes the target of it. -/
structure Makes (desk : Desk) (l : Location) (path : String) (l' : Location) (path' : String)
    (source target : Resource) (w w' : World Disk) : Prop where
  chosen : desk.aliasTarget l' path' = .ok target
  found : ∃ spread h w₁, desk.catalog.expansion.spread [l] path = .ok spread ∧
    (Search.retrieveFirst (desk.cache.supplier 0) spread ∅).run w = .finished (.ok (some h)) w₁ ∧
    h.resource = source ∧ (desk.files.createAlias source target w₁.storage).1.1 = .ok () ∧
    w'.storage = (desk.files.createAlias source target w₁.storage).2

theorem leads_createAlias (source target : Resource) (w : World Disk) :
    (desk.cache.createAlias source target).Leads w fun result w' =>
      result = (desk.files.createAlias source target w.storage).1.1 ∧
        w'.storage = (desk.files.createAlias source target w.storage).2 := by
  unfold Cache.createAlias
  refine (leads_alter _ w).bind fun answer w₁ ⟨same, storage, _⟩ => ?_
  refine (Cache.leads_sayAll _ w₁).after fun _ w₂ still => Program.leads_pure ?_
  exact ⟨congrArg Prod.fst same, still.storage.trans storage⟩

theorem makes_of_run {l' : Location} {path' : String} {w w' : World Disk}
    (ends : (desk.makeAlias l path l' path').run w = .finished (.ok (target, source)) w') :
    desk.Makes l path l' path' source target w w' := by
  unfold makeAlias at ends
  obtain ⟨result, w₁, retrieves, ends⟩ := Program.finished_of_bind ends
  obtain e | _ | h := result
  · cases ends
  · cases ends
  dsimp only at ends
  cases chosen : desk.aliasTarget l' path' with
  | error complaint =>
    rw [chosen] at ends
    cases ends
  | ok r =>
    rw [chosen] at ends
    obtain ⟨made, w₂, makes, ends⟩ := Program.finished_of_bind ends
    obtain e | _ := made
    · cases ends
    obtain ⟨same, rfl⟩ := Program.Progress.finished.inj ends
    obtain ⟨rfl, rfl⟩ := Prod.mk.inj (Except.ok.inj same)
    obtain ⟨made, storage⟩ := leads_createAlias h.resource r w₁ _ w₂ makes
    refine ⟨chosen, ?_⟩
    unfold Catalog.retrieve Catalog.retrieveFirst Catalog.spreading at retrieves
    split at retrieves
    · cases retrieves
    · next spread spreads => exact ⟨spread, h, w₁, spreads, retrieves, rfl, made.symm, storage⟩

end Desk

/-- A run that succeeds performs its command and has nothing to complain of. -/
theorem session_of_run {command : Command}
    (asks : libraries.arguments i.cacheRoot? i.args = .perform options command)
    (succeeds : (run i d libraries).1.code = 0) :
    ∃ rank result w,
      (session i options command libraries).run { storage := d } = .finished result w ∧
      result.complaint? = none ∧ run i d libraries = finish rank result w := by
  unfold run at succeeds ⊢
  rw [asks] at succeeds ⊢
  dsimp only at succeeds ⊢
  cases leveled : rankOf? options.logLevel with
  | none => simp [leveled] at succeeds
  | some rank =>
    cases ends : (session i options command libraries).run { storage := d } with
    | waiting => simp [leveled, ends, finish, Result.complain] at succeeds
    | finished result w =>
      refine ⟨rank, result, w, rfl, ?_, rfl⟩
      cases complained : result.complaint? with
      | none => rfl
      | some complaint => simp [leveled, ends, finish, complained] at succeeds

theorem perform_of_session {command : Command} {result : Result} {w : World Disk}
    (loads : loadConfig options.config d libraries = .ok config)
    (ends : (session i options command libraries).run { storage := d } = .finished result w) :
    let root := CacheRoot.resolve options.cacheRoot? config.cacheRoot? i.surroundings
    let desk : Desk :=
      { config, files := { root, linking := config.linking }, uris := libraries.uris }
    ∃ w₀, w₀.storage = d ∧ (desk.perform i.input command).run w₀ = .finished result w := by
  unfold session at ends
  obtain ⟨_, w₁, inspected, ends⟩ := Program.finished_of_bind ends
  obtain ⟨rfl, rfl⟩ := leads_inspect _ _ _ _ inspected
  dsimp only at ends
  rw [loads] at ends
  obtain ⟨_, w₀, told, ends⟩ := Program.finished_of_bind ends
  exact ⟨w₀, (leads_say _ _ _ _ _ w₀ told).storage, ends⟩

/-- A run of the alias command that succeeds has made an alias of what it prints. -/
theorem exists_makes_of_run {fromName fromPath toName toPath : String}
    (asks : libraries.arguments i.cacheRoot? i.args =
      .perform options (.makeAlias fromName fromPath toName toPath))
    (loads : loadConfig options.config d libraries = .ok config)
    (succeeds : (run i d libraries).1.code = 0) :
    let root := CacheRoot.resolve options.cacheRoot? config.cacheRoot? i.surroundings
    let desk : Desk :=
      { config, files := { root, linking := config.linking }, uris := libraries.uris }
    ∃ l l' source target w w', config.location? fromName = some l ∧
      config.location? toName = some l' ∧ w.storage = d ∧
      w'.storage = (run i d libraries).2 ∧
      desk.Makes l fromPath l' toPath source target w w' ∧
      (run i d libraries).1.printed = Bytes.ofText (target.display ++ " -> " ++ source.display ++ "\n") := by
  intro root desk
  obtain ⟨rank, result, w', ends, content, whole⟩ := session_of_run asks succeeds
  obtain ⟨w, same, ends⟩ := perform_of_session loads ends
  change (desk.perform _ _).run w = _ at ends
  unfold Desk.perform Desk.withLocation at ends
  dsimp only at ends
  cases found : config.location? fromName with
  | none =>
    rw [found] at ends
    obtain ⟨rfl, _⟩ := Program.Progress.finished.inj ends
    cases content
  | some l =>
  cases found' : config.location? toName with
  | none =>
    rw [found, found'] at ends
    obtain ⟨rfl, _⟩ := Program.Progress.finished.inj ends
    cases content
  | some l' =>
  rw [found, found'] at ends
  obtain ⟨made, w₁, makes, ends⟩ := Program.finished_of_bind ends
  obtain complaint | ⟨target, source⟩ := made
  · obtain ⟨rfl, _⟩ := Program.Progress.finished.inj ends
    cases content
  · obtain ⟨rfl, rfl⟩ := Program.Progress.finished.inj ends
    refine ⟨l, l', source, target, w, w₁, rfl, rfl, same, ?_, Desk.makes_of_run makes, ?_⟩
    · rw [whole]
      rfl
    · rw [whole]
      simp [finish, Result.lines, String.join]

end CommandLine

/-! ## What a run leaves -/

namespace Disk
variable {d : Disk} {p : Place}

theorem isDirectory_iff_of_present (there : d.isPresent p = true) :
    d.isDirectory p = true ↔ d.isFile p = false := by
  obtain ⟨node, stat⟩ := isPresent_iff.1 there
  cases node <;> simp [isDirectory, isFile, stat]

theorem isPresent_of_isDirectory (directory : d.isDirectory p = true) : d.isPresent p = true := by
  unfold isDirectory at directory
  split at directory
  · next stat => exact isPresent_iff.2 ⟨_, stat⟩
  · cases directory

end Disk

namespace CommandLine.Desk
variable {desk : Desk} {source target : Resource} {home : List PathText}

/-- What an alias leaves behind that is said to be made. -/
structure Leaves (desk : Desk) (source target : Resource) (d d' : Disk) : Prop where
  /-- Both are files with the same bytes, unless the source was there and is a directory. -/
  alike : desk.files.backend.ReadAlike target source d' ↔
    desk.files.backend.isDirectory source d = false
  /-- For a directory nothing is made. -/
  nothing : desk.files.backend.isDirectory source d = true →
    ∀ q, desk.files.backend.Keeps q d d'
  /-- A source that was there is as it was. -/
  kept : desk.files.backend.present source d = true → desk.files.backend.Keeps source d d'
  /-- One that was not is as it was downloaded, before which no file had changed. -/
  fetched : desk.files.backend.present source d = false → ∃ d₁ d₂,
    (∀ q, desk.files.backend.Keeps q d d₁) ∧
    desk.cache.Delivers (fun q => q.location.uri ≠ "") source d₁ d₂ ∧
    desk.files.backend.Keeps source d₂ d'
  /-- No other file has changed. -/
  others (q : Resource) : q.location.uri ≠ "" → q.same target = false →
    q.same source = false ∨ desk.files.backend.present source d = true →
    desk.files.backend.Keeps q d d'

/-- What was found is no file exactly if it was there and is a directory. -/
theorem isFile_of_finding {named : Resource → Prop} {rs : List Resource} {h : FileHandle}
    {w w₁ : World Disk} (finding : Search.Finding desk.cache named 0 ∅ rs w h w₁) :
    desk.files.backend.isFile h.resource w₁.storage = false ↔
      desk.files.backend.isDirectory h.resource w.storage = true := by
  refine finding.directory.trans ⟨fun there => ?_, fun directory => ?_⟩
  · exact (Disk.isDirectory_iff_of_present there.1).2 there.2
  · have there := Disk.isPresent_of_isDirectory directory
    exact ⟨there, (Disk.isDirectory_iff_of_present there).1 directory⟩

theorem leaves_of_makes {l l' : Location} {path path' : String} {w w' : World Disk}
    (standing : desk.files.Standing home w.storage)
    (named : ∀ spread, desk.catalog.expansion.spread [l] path = .ok spread →
      ∀ r ∈ spread.resources, r.location.uri ≠ "")
    (named' : target.location.uri ≠ "") (makes : desk.Makes l path l' path' source target w w') :
    ∃ spread, desk.catalog.expansion.spread [l] path = .ok spread ∧ source ∈ spread.resources ∧
      desk.Leaves source target w.storage w'.storage := by
  obtain ⟨spread, h, w₁, spreads, ends, rfl, made, storage⟩ := makes.found
  have have_names := named spread spreads
  have finding := Search.finding rfl desk.files.fills ⟨home, standing⟩ have_names ends
  have is_file := isFile_of_finding finding
  obtain ⟨home₁, standing₁⟩ :=
    Search.ordered_of_hit rfl desk.files.fills ⟨home, standing⟩ have_names ends
  obtain ⟨before, after, w₀, split, _, _, keeps, hit⟩ := finding.first
  have mem : h.resource ∈ spread.resources := by simp [split]
  have outcome := Files.makesAlias_of_createAlias standing₁ (have_names h.resource mem) named' made
  rw [← storage] at outcome
  refine ⟨spread, spreads, mem, ?_, fun directory => ?_, fun there => ?_, fun absent => ?_,
    fun q named other elsewhere => ?_⟩
  · rw [outcome.alike]
    simpa using not_congr is_file
  · have was : desk.files.backend.present h.resource w.storage = true :=
      Disk.isPresent_of_isDirectory directory
    obtain ⟨_, rfl⟩ | ⟨absent, _⟩ := hit
    · rw [outcome.nothing (is_file.2 directory)]
      exact keeps
    · cases was.symm.trans absent
  · obtain ⟨_, rfl⟩ | ⟨absent, _⟩ := hit
    · exact (keeps h.resource).trans outcome.kept
    · cases there.symm.trans absent
  · obtain ⟨there, _⟩ | ⟨_, delivers⟩ := hit
    · cases there.symm.trans absent
    · exact ⟨w₀.storage, w₁.storage, keeps, delivers, outcome.kept⟩
  · have untouched : desk.files.backend.Keeps q w.storage w₁.storage := by
      obtain ⟨_, rfl⟩ | ⟨absent, delivers⟩ := hit
      · exact keeps q
      · have apart := elsewhere.resolve_right fun there => by cases there.symm.trans absent
        have apart' : h.resource.same q = false := by simpa [Resource.same, eq_comm] using apart
        exact (keeps q).trans (delivers.others q named apart')
    exact untouched.trans (outcome.others q named other)

end CommandLine.Desk

open CommandLine in
/-- **What a successful alias command has made.** It names a source that it has found and the
target that it has chosen. Both are files with the same bytes, unless the source is a directory
in the cache, for which nothing is made. The source and all other files are as they were, apart
from a source that was downloaded. So it is with links and with copies, as long as the root of
the cache stands, as an absolute root does that does not lead up. Of the libraries nothing is
needed but that the empty text is read as no URI. -/
theorem alias_made_unless_directory {libraries : Libraries} {why : Uri.Fault}
    (refused : libraries.uris.parse "" = .error why) {i : Invocation} {d : Disk}
    {options : Options} {fromName fromPath toName toPath : String} {config : Config}
    (asks : libraries.arguments i.cacheRoot? i.args =
      .perform options (.makeAlias fromName fromPath toName toPath))
    (loads : loadConfig options.config d libraries = .ok config) (closed : d.Closed)
    (numbered : d.Numbered)
    (rooted : Files.Rooted
      { root := CacheRoot.resolve options.cacheRoot? config.cacheRoot? i.surroundings,
        linking := config.linking } d [])
    (succeeds : (run i d libraries).1.code = 0) :
    let root := CacheRoot.resolve options.cacheRoot? config.cacheRoot? i.surroundings
    let desk : Desk :=
      { config, files := { root, linking := config.linking }, uris := libraries.uris }
    ∃ l l' spread source target, config.location? fromName = some l ∧
      config.location? toName = some l' ∧
      desk.catalog.expansion.spread [l] fromPath = .ok spread ∧ source ∈ spread.resources ∧
      desk.aliasTarget l' toPath = .ok target ∧
      (run i d libraries).1.printed =
        Bytes.ofText (target.display ++ " -> " ++ source.display ++ "\n") ∧
      desk.Leaves source target d (run i d libraries).2 := by
  intro root desk
  obtain ⟨text, parsed⟩ := exists_parse_of_loadConfig loads
  obtain ⟨home, standing, _⟩ := Files.standing_after closed numbered rooted
  obtain ⟨l, l', source, target, w, w', found, found', same, same', makes, printed⟩ :=
    exists_makes_of_run asks loads succeeds
  subst same
  have accepted : config.Accepted := Config.accepted_of_parse parsed
  have uris := Config.uri_ne_empty_of_validate refused (Config.valid_of_parse parsed)
  have named (spread : Spread) (spreads : desk.catalog.expansion.spread [l] fromPath = .ok spread) :
      ∀ r ∈ spread.resources, r.location.uri ≠ "" := by
    refine List.forall_mem_map.2 fun m mem => uris m ?_
    exact Config.locations_of_spread accepted found spreads m mem
  have named' : target.location.uri ≠ "" :=
    uris target.location (Desk.location_of_aliasTarget accepted found' makes.chosen)
  obtain ⟨spread, spreads, mem, leaves⟩ := Desk.leaves_of_makes standing named named' makes
  rw [same'] at leaves
  exact ⟨l, l', spread, source, target, found, found', spreads, mem, makes.chosen, printed, leaves⟩

open CommandLine in
/-- A file gets an alias. -/
theorem alias_of_file_is_made :
    let l : Location := { name := "local", uri := "file:///srv/local" }
    let f : Files := { root := "/cache" }
    let text := "locations:\n  - name: local\n    uri: file:///srv/local\n"
    let calls : List Call := [.ask (.openWriter (.ofText { name := "", uri := "" } "config.yaml")),
      .write 0 (Bytes.ofText text), .close 0,
      .ask (.openWriter (.ofText l "d/x")), .write 0 [120], .close 0]
    let d := (Usage.after f.backend {} calls).store
    let i : Invocation := { args := ["--config", "/cache/config.yaml", "--cache-root", "/cache",
      "--log-level", "off", "alias", "local", "d/x", "local", "e"] }
    (run i d).1.code = 0 ∧
      f.backend.ReadAlike (.ofText l "e") (.ofText l "d/x") (run i d).2 := by
  intro l f text calls d i
  let options : Options :=
    { config := "/cache/config.yaml", cacheRoot? := some "/cache", logLevel := "off" }
  have asks : Request.ofArguments i.cacheRoot? i.args =
      .perform options (.makeAlias "local" "d/x" "local" "e") := by decide +kernel
  have succeeds : (run i d).1.code = 0 := by decide +kernel
  have reads : (loadConfig options.config d).toOption.any
      (fun c => c.location? "local" = some l && !c.linking) = true := by decide +kernel
  have refused : ({} : Libraries).uris.parse "" = .error .relativeWithoutBase := rfl
  have closed : d.Closed := Files.closed_after Disk.closed_empty
    (Files.hasHome_of_isAbsolute (by decide) {} calls)
  have numbered : d.Numbered := Files.numbered_after Disk.numbered_empty calls
  have rooted : f.Rooted d [] := Files.rooted_of_isAbsolute (by decide) (by decide) d []
  cases loads : loadConfig options.config d with
  | error complaint =>
    rw [loads] at reads
    cases reads
  | ok config =>
    rw [loads] at reads
    obtain ⟨named, copying⟩ : config.location? "local" = some l ∧ config.linking = false := by
      simpa [Except.toOption] using reads
    have same : ({ root := CacheRoot.resolve options.cacheRoot? config.cacheRoot? i.surroundings,
                   linking := config.linking } : Files) = f := by
      rw [copying]
      rfl
    obtain ⟨l₁, l₂, spread, source, target, found, found', spreads, mem, chosen, _, leaves⟩ :=
      alias_made_unless_directory refused asks loads closed numbered (same ▸ rooted) succeeds
    obtain rfl : l = l₁ := Option.some.inj (named.symm.trans found)
    obtain rfl : l = l₂ := Option.some.inj (named.symm.trans found')
    -- The location is no group, so it stands for itself.
    have plain : ∀ m ∈ [l], m.isGroup = false := by decide
    have alone (path : String) : (Expansion.groups config.groupTable).spread [l] path =
        .ok ⟨[l], .ofText path, by simp⟩ :=
      Expansion.spread_of_expand (e := .groups config.groupTable)
        (Groups.expand_of_no_groups plain) (by decide) path
    obtain rfl := Except.ok.inj ((alone "d/x").symm.trans spreads)
    obtain rfl : source = .ofText l "d/x" := List.mem_singleton.1 mem
    have given : (.ok (.ofText l "e") : Except Complaint Resource) = .ok target := by
      rw [← chosen]
      simp [Desk.aliasTarget, Desk.catalog, alone, plain]
    obtain rfl := Except.ok.inj given
    have no_directory : f.backend.isDirectory (.ofText l "d/x") d = false := by decide +kernel
    rw [same] at leaves
    exact ⟨succeeds, leaves.alike.2 no_directory⟩

open CommandLine in
/-- A directory gets none, though the command says so. -/
theorem alias_of_directory_is_missing :
    let l : Location := { name := "local", uri := "file:///srv/local" }
    let f : Files := { root := "/cache" }
    let text := "locations:\n  - name: local\n    uri: file:///srv/local\n"
    let calls : List Call := [.ask (.openWriter (.ofText { name := "", uri := "" } "config.yaml")),
      .write 0 (Bytes.ofText text), .close 0,
      .ask (.openWriter (.ofText l "d/x")), .write 0 [120], .close 0]
    let d := (Usage.after f.backend {} calls).store
    let i : Invocation := { args := ["--config", "/cache/config.yaml", "--cache-root", "/cache",
      "--log-level", "off", "alias", "local", "d", "local", "e"] }
    (run i d).1.code = 0 ∧ (run i d).1.printed = Bytes.ofText "local:/e -> local:/d\n" ∧
      f.backend.present (.ofText l "e") (run i d).2 = false ∧
      ¬ f.backend.ReadAlike (.ofText l "e") (.ofText l "d") (run i d).2 := by
  intro l f text calls d i
  have goes : (run i d).1.code = 0 ∧ (run i d).1.printed = Bytes.ofText "local:/e -> local:/d\n" ∧
      f.backend.present (.ofText l "e") (run i d).2 = false ∧
      f.backend.isFile (.ofText l "e") (run i d).2 = false := by decide +kernel
  obtain ⟨code, printed, nothing, no_file⟩ := goes
  exact ⟨code, printed, nothing, fun alike => Bool.false_ne_true (no_file.symm.trans alike.first)⟩

end ArtifactCache
