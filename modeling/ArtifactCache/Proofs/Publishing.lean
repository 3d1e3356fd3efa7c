import ArtifactCache.Disk.Buffered
import ArtifactCache.Endpoint.Directories
import ArtifactCache.Proofs.FileOrder

/-!
# Publishing

What is published to a directory of this machine is fetched from there again, under every
spelling of its path (`Endpoint.published_is_fetched`). The file is written where it is looked
for later, and nothing but directories above it appears besides (`Disk.WritesOnly`). In which
chunks the content arrives leaves no trace (`Disk.deliverAll_setBody`).
-/
namespace ArtifactCache

theorem Table.insert_insert {κ ν : Type} [DecidableEq κ] (t : Table κ ν) (k : κ) (v w : ν) :
    (t.insert k v).insert k w = t.insert k w := by
  simp [insert, erase]

namespace Disk
variable {d d' d₁ : Disk} {p : Place} {n : Nat} {target : List PathText} {bytes : Bytes}

/-! ## Chunks -/

theorem setBody_setBody (d : Disk) (n : Nat) (first second : Bytes) :
    (d.setBody n first).setBody n second = d.setBody n second := by
  simp only [setBody, Table.insert_insert]

/-- Writes chunks one after the other, each at once. -/
def Writer.deliverAll (w : Writer) (chunks : List Bytes) (d : Disk) : Disk :=
  (chunks.foldl (fun state chunk => state.1.deliver chunk state.2) (w, d)).2

theorem Writer.deliver_setBody (n : Nat) (done chunk : Bytes) (d : Disk) :
    Writer.deliver { body := n, offset := done.length } chunk (d.setBody n done) =
      ({ body := n, offset := (done ++ chunk).length }, d.setBody n (done ++ chunk)) := by
  unfold deliver
  by_cases none_left : chunk = []
  · simp [none_left]
  · have here : (d.setBody n done).body n = done := by simp [body_setBody]
    simp only [if_neg none_left, here, Bytes.writeAt_length, setBody_setBody, List.length_append]

/-- What comes in chunks goes behind what is there. -/
theorem deliverAll_setBody (n : Nat) (done : Bytes) (chunks : List Bytes) (d : Disk) :
    Writer.deliverAll { body := n, offset := done.length } chunks (d.setBody n done) =
      d.setBody n (done ++ chunks.flatten) := by
  induction chunks generalizing done with
  | nil => simp [Writer.deliverAll]
  | cons chunk rest ih =>
    have next := ih (done ++ chunk)
    rw [Writer.deliverAll] at next ⊢
    rw [List.foldl_cons, Writer.deliver_setBody, next, List.flatten_cons, List.append_assoc]

/-! ## A file below directories that are made for it -/

/-- The directories above a place are made, and an empty file at it. -/
def CreatesBelow (p : Place) (n : Nat) (d d' : Disk) : Prop :=
  ∃ d₁, (p.parent?.elim (.ok (), d) fun above => d.makeDirectories above) = (.ok (), d₁) ∧
    d₁.create p = (.ok n, d')

/-- The file at the path has no other name. -/
def IsAlone (d : Disk) (path : List PathText) : Prop :=
  ∀ n other, d.node? path = some (.file n) → d.node? other = some (.file n) → other = path

/-- But for one path, what is new are directories. -/
def GrowsBut (target : List PathText) (d d' : Disk) : Prop := ∀ path, path ≠ target →
  d'.node? path = d.node? path ∨ d.node? path = none ∧ d'.node? path = some .directory

theorem GrowsBut.after (later : GrowsBut target d₁ d') (grows : Grows d d₁) :
    GrowsBut target d d' := by
  intro path other
  obtain same | ⟨nothing, made⟩ := later path other
  · rw [same]
    exact grows.node path
  · obtain same | ⟨nothing', made'⟩ := grows.node path
    · exact .inr ⟨same ▸ nothing, made⟩
    · cases nothing.symm.trans made'

/-- What a disk is where one file was written: directories may have come, and as long as the file
has no other name, no other file has changed. -/
structure WritesOnly (target : List PathText) (bytes : Bytes) (d d' : Disk) : Prop where
  written : ∃ n, d'.node? target = some (.file n) ∧ d'.body n = bytes
  nodes : GrowsBut target d d'
  body (path : List PathText) (n : Nat) : path ≠ target → d.IsAlone target →
    d.node? path = some (.file n) → d'.body n = d.body n

/-- Where an empty file is made, and what else is there. -/
structure CreatesAt (p : Place) (n : Nat) (target : List PathText) (d d' : Disk) : Prop where
  located : d'.locate p = .ok target
  plain : p.wantsDirectory = false
  there : d'.node? target = some (.file n)
  empty : d'.setBody n [] = d'
  nodes : GrowsBut target d d'
  body (k : Nat) : k ≠ n → d'.body k = d.body k
  /-- The file was there, or its number is new. -/
  number : d.node? target = some (.file n) ∨ n = d.fresh

theorem exists_createsAt_of_create (created : d.create p = (.ok n, d')) :
    ∃ target, CreatesAt p n target d d' := by
  have made := of_create_eq_ok (congrArg Prod.fst created)
  rw [congrArg Prod.snd created] at made
  obtain ⟨number, rfl⟩ | ⟨target, found, plain, nothing, rfl, rfl⟩ := made
  · obtain ⟨target, found, there, plain⟩ := number?_eq_some_iff_exists.1 number
    exact ⟨target, {
      located := (passable_setBody d n []).locate found
      plain := plain
      there := there
      empty := setBody_setBody d n [] []
      nodes := fun _ _ => .inl rfl
      body := fun k other => by rw [body_setBody, if_neg other.symm]
      number := .inl there }⟩
  · exact ⟨target, {
      located := (passable_setBody _ d.fresh []).locate ((passable_addFile nothing).locate found)
      plain := plain
      there := (node?_addFile nothing target).trans (if_pos rfl)
      empty := setBody_setBody _ d.fresh [] []
      nodes := fun path other => .inl ((node?_addFile nothing path).trans (if_neg other.symm))
      body := fun k other => by
        rw [body_setBody, if_neg other.symm, body_addFile, if_neg other.symm]
      number := .inr rfl }⟩

namespace CreatesAt

/-- Directories that are made before make no difference. -/
theorem after (creates : CreatesAt p n target d₁ d') (grows : Grows d d₁) :
    CreatesAt p n target d d' where
  located := creates.located
  plain := creates.plain
  there := creates.there
  empty := creates.empty
  nodes := creates.nodes.after grows
  body k other := (creates.body k other).trans (grows.body k)
  number := creates.number.imp grows.file_back fun fresh => fresh.trans grows.fresh

theorem locate_setBody (creates : CreatesAt p n target d d') (bytes : Bytes) :
    (d'.setBody n bytes).locate p = .ok target :=
  (passable_setBody d' n bytes).locate creates.located

theorem stat_setBody (creates : CreatesAt p n target d d') (bytes : Bytes) :
    (d'.setBody n bytes).stat p = .ok (.file n) :=
  stat_eq_file_iff.2 ⟨target, creates.locate_setBody bytes, creates.there, creates.plain⟩

/-- Chunks that go to the empty file make up its content. -/
theorem deliverAll_eq (creates : CreatesAt p n target d d') (chunks : List Bytes) :
    Writer.deliverAll { body := n } chunks d' = d'.setBody n chunks.flatten := by
  have whole := deliverAll_setBody n [] chunks d'
  rwa [creates.empty, List.nil_append] at whole

/-- What is written to the file is there, and reaches no other file. -/
theorem writesOnly (creates : CreatesAt p n target d d') (numbered : d.Numbered) (bytes : Bytes) :
    WritesOnly target bytes d (d'.setBody n bytes) where
  written := ⟨n, creates.there, (body_setBody d' n n bytes).trans (if_pos rfl)⟩
  nodes := creates.nodes
  body path k other alone there := by
    have apart : n ≠ k := by
      rintro rfl
      obtain old | fresh := creates.number
      · exact other (alone n path old there)
      · exact Nat.lt_irrefl _ (fresh ▸ numbered path n there)
    rw [body_setBody, if_neg apart, creates.body k apart.symm]

end CreatesAt

theorem CreatesBelow.exists_createsAt (creates : d.CreatesBelow p n d') :
    ∃ target, CreatesAt p n target d d' := by
  obtain ⟨d₁, made, created⟩ := creates
  have grows : Grows d d₁ := by
    cases above : p.parent? with
    | none =>
      rw [above] at made
      cases made
      exact .refl d
    | some q =>
      rw [above] at made
      have grows := grows_makeDirectories q d
      rw [show d.makeDirectories q = (.ok (), d₁) from made] at grows
      exact grows
  obtain ⟨target, creates⟩ := exists_createsAt_of_create created
  exact ⟨target, creates.after grows⟩

end Disk

/-! ## Publishing and fetching -/

namespace Endpoint
variable {uris : UriReader} {r q : Resource} {p : Place} {d d' : Disk} {content : Content}
  {lines : List Line} {length : Nat} {contentType : String}

theorem placeOf?_of_file {uri : Uri} {base : Bytes} (parsed : uris.parse r.location.uri = .ok uri)
    (is_file : uri.scheme = "file") (names : uris.localPath? uri = some base) :
    placeOf? r uris = .ok (some { base := .ofBytes base, below := r.path.segments }) := by
  simp [placeOf?, parsed, is_file, names]

theorem placeOf?_of_other_scheme {uri : Uri} (parsed : uris.parse r.location.uri = .ok uri)
    (other : uri.scheme ≠ "file") : placeOf? r uris = .ok none := by
  simp [placeOf?, parsed, other]

/-- What publishing does if it succeeds. -/
theorem of_publishFile_eq_true {source : Source Disk}
    (published : publishFile r p source length contentType d = ((.ok true, lines), d')) :
    ∃ n d₁, d.CreatesBelow p n d₁ ∧ (source d₁).fault? = none ∧
      d' = d₁.setBody n (source d₁).bytes := by
  unfold publishFile at published
  dsimp only at published
  split at published
  · cases published
  next d₀ made =>
  split at published
  · cases published
  next n d₁ created =>
  split at published
  · cases published
  next intact =>
  exact ⟨n, d₁, ⟨d₀, made, created⟩, intact, (congrArg Prod.snd published).symm⟩

theorem fetch_of_stat {n : Nat} (given : placeOf? r uris = .ok (some p))
    (file : d.stat p = .ok (.file n)) :
    ∃ source lines, (directories uris).fetch r d = (.ok (some source), lines) ∧
      source d = { bytes := d.body n } := by
  simp [directories, fetchFile, given, file]

/-- What is left by content that was taken for the place of a resource. -/
structure Published (uris : UriReader) (r : Resource) (p : Place) (content : Content)
    (d d' : Disk) : Prop where
  /-- It is fetched under every spelling of the path. -/
  fetched (q : Resource) : q.same r = true →
    ∃ source lines, (directories uris).fetch q d' = (.ok (some source), lines) ∧
      source d' = content
  /-- It is at the place, and no other file has changed. -/
  only : ∃ target, d'.locate p = .ok target ∧ Disk.WritesOnly target content.bytes d d'
  /-- It does not matter in which chunks it was written. -/
  chunks : ∃ n d₁, d.CreatesBelow p n d₁ ∧ ∀ chunks, chunks.flatten = content.bytes →
    Disk.Writer.deliverAll { body := n } chunks d₁ = d'

theorem published_of_publishFile (numbered : d.Numbered)
    (places : ∀ q : Resource, q.same r = true → placeOf? q uris = .ok (some p))
    (taken : publishFile r p (fun _ => content) length contentType d = ((.ok true, lines), d')) :
    Published uris r p content d d' := by
  obtain ⟨n, d₁, created, intact, rfl⟩ := of_publishFile_eq_true taken
  obtain ⟨target, creates⟩ := created.exists_createsAt
  refine ⟨fun q same => ?_, ⟨target, creates.locate_setBody _, creates.writesOnly numbered _⟩,
    n, d₁, created, fun chunks whole => ?_⟩
  · obtain ⟨source, lines, found, yields⟩ :=
      fetch_of_stat (places q same) (creates.stat_setBody content.bytes)
    refine ⟨source, lines, found, yields.trans ?_⟩
    rw [Disk.body_setBody, if_pos rfl, ← intact]
  · rw [creates.deliverAll_eq, whole]

end Endpoint

/-- A location that is a directory of this machine has what was published to it, under every
spelling of the path, and no other file has changed. Neither its root nor a location of another
scheme takes anything. However URIs are read, it is the same when publishing and fetching. -/
theorem Endpoint.published_is_fetched {uris : UriReader} {r : Resource} {uri : Uri}
    (parsed : uris.parse r.location.uri = .ok uri) (content : Content) (length : Nat)
    (contentType : String) {d : Disk} (numbered : d.Numbered) :
    let publish := (directories uris).publish r (fun _ => content) length contentType d
    (∀ base, uri.scheme = "file" → uris.localPath? uri = some base →
      (r.isRoot = false → ∀ lines d', publish = ((.ok true, lines), d') →
        Published uris r { base := .ofBytes base, below := r.path.segments } content d d') ∧
      (r.isRoot = true → publish = ((.ok false, []), d))) ∧
    (uri.scheme ≠ "file" → ∃ lines, publish = ((.ok false, lines), d)) := by
  intro publish
  refine ⟨fun base is_file names => ?_, fun other => ?_⟩
  · have given := placeOf?_of_file parsed is_file names
    refine ⟨fun below lines d' taken => ?_, fun root => ?_⟩
    · have done : publishFile r { base := .ofBytes base, below := r.path.segments }
          (fun _ => content) length contentType d = ((.ok true, lines), d') := by
        simpa [publish, directories, given, below] using taken
      refine published_of_publishFile numbered (fun q same => ?_) done
      have eq : q.location.uri = r.location.uri ∧ q.path = r.path := by
        simpa [Resource.same, Resource.address] using same
      rw [← eq.2]
      exact placeOf?_of_file (eq.1 ▸ parsed) is_file names
    · simp [publish, directories, given, root]
  · exact ⟨[otherScheme r], by
      simp [publish, directories, placeOf?_of_other_scheme parsed other]⟩

/-- A file is published to a directory that is not there yet, and fetched by a path that is
spelled in another way. -/
theorem Endpoint.published_is_fetched_under_other_spelling :
    let mirror : Location := { name := "mirror", uri := "file:///srv/mirror" }
    let outcome := directories.publish (.ofText mirror "org/foo.jar")
      (fun _ => { bytes := [1, 2, 3] }) 3 "application/java-archive" {}
    outcome.1.1 = .ok true ∧
      ∃ source lines, directories.fetch (.ofText mirror "/org/./foo.jar/") outcome.2 =
        (.ok (some source), lines) ∧ source outcome.2 = { bytes := [1, 2, 3] } := by
  intro mirror outcome
  have taken : outcome.1.1 = .ok true := by decide +kernel
  have published : outcome = ((.ok true, outcome.1.2), outcome.2) := by rw [← taken]
  have read : (Uri.parse mirror.uri).toOption.any
      (fun uri => uri.scheme = "file" && uri.localPath?.isSome) = true := by decide +kernel
  cases parsed : Uri.parse mirror.uri with
  | error why =>
    rw [parsed] at read
    cases read
  | ok uri =>
    rw [parsed] at read
    obtain ⟨is_file, named⟩ : uri.scheme = "file" ∧ uri.localPath?.isSome := by
      simpa [Except.toOption] using read
    obtain ⟨base, names⟩ := Option.isSome_iff_exists.1 named
    have parsed' : ({} : UriReader).parse mirror.uri = .ok uri := parsed
    obtain ⟨takes, _⟩ := (published_is_fetched (r := .ofText mirror "org/foo.jar") parsed'
      { bytes := [1, 2, 3] } 3 "application/java-archive" Disk.numbered_empty).1 base is_file names
    have left := takes (by decide +kernel) outcome.1.2 outcome.2 published
    exact ⟨taken, left.fetched (.ofText mirror "/org/./foo.jar/") (by decide +kernel)⟩

end ArtifactCache
