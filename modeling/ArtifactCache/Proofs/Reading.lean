import ArtifactCache.Proofs.Filing
import Mathlib.Logic.Relation

/-!
# What a call of a reader does

A call searches the shelf and reads what it misses. It has few ways to end, and each says
what it leaves on the shelf.

* `DocumentReader.ReadFirst`, `ReadAll`: how a call ends and what it leaves
  (`leads_readFirst`, `leads_readAll`);
* `DocumentReader.Step`: what happens in a reading room; `DocumentReader.Sound`: what all of
  it keeps (`Step.sound`, `sound_of_run`);
* `DocumentReader.readAll_answers_in_order`: what a call for all documents answers, and that
  a call that fails leaves nothing behind.
-/
namespace ArtifactCache

theorem Spread.resources_of_ofText? {ls : List Location} {text : String} {spread : Spread}
    (given : Spread.ofText? ls text = some spread) :
    spread.resources = ls.map fun l => .ofText l text := by
  unfold Spread.ofText? at given
  split at given
  · cases given
  · exact Option.some.inj given ▸ rfl

theorem Spread.ofText?_eq_none_iff {ls : List Location} {text : String} :
    Spread.ofText? ls text = none ↔ ls = [] := by simp [Spread.ofText?]

namespace Shelf
variable {K D : Type}

theorem foldl_hold (s : Shelf K D) (found : List (Location × Document D)) :
    found.foldl (fun s p => s.hold p.2) s =
      { s with held := (found.map (·.2.number)).reverse ++ s.held } := by
  induction found generalizing s with
  | nil => rfl
  | cons p rest ih =>
    rw [List.foldl_cons, ih]
    simp [hold]

end Shelf

theorem Search.visit_congr {S H : Type} {supplier supplier' : Supplier S H} {m : Metadata}
    {rs : List Resource} (same : ∀ r ∈ rs, supplier.retrieve r m = supplier'.retrieve r m) :
    retrieveAll.visit supplier m rs = retrieveAll.visit supplier' m rs := by
  induction rs with
  | nil => rfl
  | cons r rest ih =>
    rw [List.forall_mem_cons] at same
    rw [retrieveAll.visit, retrieveAll.visit, same.1, ih same.2]

namespace DocumentReader
open ReadingRoom Program
variable {S R W K D : Type} [DecidableEq K] {reader : DocumentReader S R W K D} {t : Thread}
  {key : K} {room room₁ room₂ room' : ReadingRoom S K D}

/-! ## Finding what belongs to a location -/

theorem uri_of_findFor {found : List (Location × Document D)} {l : Location}
    {p : Location × Document D} (at_location : findFor found l = some p) :
    p ∈ found ∧ p.1.uri = l.uri :=
  ⟨List.mem_of_find?_eq_some at_location,
    of_decide_eq_true (List.find?_some (p := fun q : Location × Document D => q.1.same l)
      at_location)⟩

theorem living?_of_mem_getAll {s : Shelf K D} {ls : List Location} {p : Location × Document D}
    (mem : p ∈ (s.getAll key ls).1) : s.living? (key, p.1.uri) = some p.2 := by
  rw [Shelf.getAll_fst] at mem
  obtain ⟨l, _, found⟩ := List.mem_filterMap.1 mem
  obtain ⟨d, seen, rfl⟩ := Option.map_eq_some_iff.1 found
  exact seen

/-- Among what was alive a location finds its own living document. -/
theorem findFor_getAll (s : Shelf K D) (key : K) {ls : List Location} {l : Location}
    (mem : l ∈ ls) :
    (findFor (s.getAll key ls).1 l).map (·.2) = s.living? (key, l.uri) := by
  cases found : findFor (s.getAll key ls).1 l with
  | some p =>
    obtain ⟨listed, same⟩ := uri_of_findFor found
    exact same ▸ (living?_of_mem_getAll listed).symm
  | none =>
    cases seen : s.living? (key, l.uri) with
    | none => rfl
    | some d =>
      have listed : (l, d) ∈ (s.getAll key ls).1 := by
        rw [Shelf.getAll_fst]
        exact List.mem_filterMap.2 ⟨l, mem, by rw [seen]; rfl⟩
      exact absurd (decide_eq_true rfl) (List.find?_eq_none.1 found _ listed)

/-- The locations without a living document. -/
def missing (s : Shelf K D) (key : K) (ls : List Location) : List Location :=
  ls.filter fun l => (s.living? (key, l.uri)).isNone

theorem filter_findFor_getAll (s : Shelf K D) (key : K) (ls : List Location) :
    (ls.filter fun l => (findFor (s.getAll key ls).1 l).isNone) = missing s key ls := by
  refine List.filter_congr fun l mem => ?_
  rw [← findFor_getAll s key mem, Option.isNone_map]

omit [DecidableEq K] in
/-- Among the parsed documents a location finds the one that was made first for it. -/
theorem findFor_findings (streams : List (Handle S R W × Document D)) (l : Location) :
    (findFor (findings streams) l).map (·.2) = (parsedFor l.uri streams).head? := by
  rw [findFor, findings, List.find?_map, parsedFor, List.head?_map, List.head?_filter,
    Option.map_map]
  rfl

/-! ## What a call does -/

/-- How a call for the first document ends, and what it leaves. -/
inductive ReadFirst (reader : DocumentReader S R W K D) (t : Thread) (key : K)
    (ls : List Location) (room : ReadingRoom S K D) :
    Except Failure (Option (Document D)) → ReadingRoom S K D → Prop
  | living {d : Document D} : (room.shelf.getFirst key ls).1 = some d →
    ReadFirst reader t key ls room (.ok (some d))
      { room with shelf := (room.shelf.getFirst key ls).2 }
  | without {result : Except Failure (Option (Document D))} {room' : ReadingRoom S K D} :
    (room.shelf.getFirst key ls).1 = none → (∀ d, result ≠ .ok (some d)) →
    room'.shelf = (room.shelf.getFirst key ls).2 →
    ReadFirst reader t key ls room result room'
  | made {h : Handle S R W} {l : Location} {d : Document D} {room₁ room' : ReadingRoom S K D} :
    (room.shelf.getFirst key ls).1 = none → l ∈ ls → h.resource.location.uri = l.uri →
    room₁.shelf = (room.shelf.getFirst key ls).2 →
    Parsed reader t key h room₁ (.ok (some d)) room' →
    ReadFirst reader t key ls room (.ok (some d)) room'

theorem leads_readFirst (faithful : reader.supplier.Faithful) (path : String)
    (ls : List Location) :
    (reader.readFirst t key path ls).Leads room (ReadFirst reader t key ls room) := by
  refine (leads_onShelf _ room).bind fun found room₁ ⟨same, moved⟩ => ?_
  cases found with
  | some d => exact leads_pure (moved ▸ .living same.symm)
  | none =>
    have nothing : (room.shelf.getFirst key ls).1 = none := same.symm
    have same₁ : room₁.shelf = (room.shelf.getFirst key ls).2 := by rw [moved]
    dsimp only
    split
    · exact leads_pure (.without nothing nofun same₁)
    next spread given =>
    have finds : (Search.retrieveFirst reader.supplier spread ∅).Leads room₁.world _ :=
      Search.leads_retrieveFirst faithful none spread.resources room₁.world
    refine (leads_act finds).bind fun result room₂ ⟨hits, same₂⟩ => ?_
    rw [same₁] at same₂
    obtain e | _ | h := result
    · exact leads_pure (.without nothing nofun same₂)
    · exact leads_pure (.without nothing nofun same₂)
    obtain ⟨r, mem, same⟩ := hits h rfl
    rw [Spread.resources_of_ofText? given] at mem
    obtain ⟨l, listed, rfl⟩ := List.mem_map.1 mem
    have at_location : h.resource.location.uri = l.uri :=
      congrArg Address.uri (of_decide_eq_true same)
    refine (leads_parse h room₂).mono fun result room' parsed => ?_
    cases parsed with
    | failed e same => exact .without nothing nofun (same.trans same₂)
    | empty _ same => exact .without nothing nofun (same.trans same₂)
    | made opens parses moved =>
      exact .made nothing listed at_location same₂ (.made opens parses moved)

/-- What a call for all documents retrieves and parses on its way. -/
structure Course (S R W K D : Type) where
  handles : List (Handle S R W)
  /-- The cache after the retrievals. -/
  retrieved : World S
  streams : List (Handle S R W × Document D)
  /-- The room after the parses. -/
  parsed : ReadingRoom S K D

/-- The path is retrieved at the missing locations and at no other, and what is found is
parsed. -/
structure Fetched (reader : DocumentReader S R W K D) (t : Thread) (key : K) (path : String)
    (ls : List Location) (room : ReadingRoom S K D) (course : Course S R W K D) : Prop where
  hits : Search.Hits reader.supplier ∅
    ((missing room.shelf key ls).map fun l => .ofText l path) room.world course.handles
    course.retrieved
  parses : Parses reader t key course.handles
    ⟨course.retrieved, (room.shelf.getAll key ls).2⟩ course.streams course.parsed

/-- The answer of a call for all documents, and what the call leaves. -/
structure Answered (reader : DocumentReader S R W K D) (t : Thread) (key : K) (path : String)
    (ls : List Location) (room : ReadingRoom S K D) (course : Course S R W K D)
    (all : List (Location × Document D)) (room' : ReadingRoom S K D) : Prop where
  fetched : Fetched reader t key path ls room course
  answer : all = ls.filterMap
    (findFor ((room.shelf.getAll key ls).1 ++ findings course.streams))
  world : room'.world = course.parsed.world
  made : room'.shelf.made = course.parsed.shelf.made
  places : room'.shelf.places = course.parsed.shelf.places
  /-- The documents of the answer are held in addition. -/
  held : room'.shelf.held.Perm (all.map (·.2.number) ++ room.shelf.held)

/-- How a call for all documents ends, and what it leaves. -/
inductive ReadAll (reader : DocumentReader S R W K D) (t : Thread) (key : K) (path : String)
    (ls : List Location) (room : ReadingRoom S K D) :
    Except Failure (List (Location × Document D)) → ReadingRoom S K D → Prop
  | answered {course : Course S R W K D} {all : List (Location × Document D)}
      {room' : ReadingRoom S K D} :
    Answered reader t key path ls room course all room' →
    ReadAll reader t key path ls room (.ok all) room'
  | failed (e : Failure) {room' : ReadingRoom S K D} :
    room.shelf.Extends reader.Belongs room'.shelf →
    room'.shelf.held.Perm room.shelf.held → ReadAll reader t key path ls room (.error e) room'

section
variable {path : String} {ls : List Location} {course : Course S R W K D}

/-- What was retrieved is at places where nothing lives. -/
theorem nothing_at_hit (faithful : reader.supplier.Faithful) {s : Shelf K D} {w w' : World S}
    {handles : List (Handle S R W)}
    (hits : Search.Hits reader.supplier ∅ ((missing s key ls).map fun l => .ofText l path) w
      handles w') :
    ∀ h ∈ handles, s.living? (key, h.resource.location.uri) = none := by
  intro h mem
  have listed := (hits.sublist faithful).subset (List.mem_map_of_mem mem)
  rw [List.map_map] at listed
  obtain ⟨l, mem, same⟩ := List.mem_map.1 listed
  have uri : l.uri = h.resource.location.uri := congrArg Address.uri same
  exact uri ▸ Option.isNone_iff_eq_none.1 (List.mem_filter.1 mem).2

theorem leads_readAll (reports : reader.parser.Reports) (faithful : reader.supplier.Faithful)
    (path : String) (ls : List Location) :
    (reader.readAll t key path ls).Leads room (ReadAll reader t key path ls room) := by
  refine (leads_onShelf _ room).bind fun alive room₁ ⟨same, moved⟩ => ?_
  subst same
  have start : room.shelf.Extends reader.Belongs room₁.shelf := by
    rw [moved]
    exact (Shelf.clears_getAll room.shelf key ls).extends
  have held₁ : room₁.shelf.held.Perm
      ((room.shelf.getAll key ls).1.map (·.2.number) ++ room.shelf.held) := by
    rw [moved, Shelf.held_getAll]
    exact (List.reverse_perm _).append_right _
  extract_lets absentees settle
  have absent : absentees = missing room.shelf key ls := filter_findFor_getAll room.shelf key ls
  have gives_up {e : Failure} {room₂ : ReadingRoom S K D}
      (extended : room.shelf.Extends reader.Belongs room₂.shelf)
      (held : room₂.shelf.held.Perm room₁.shelf.held) :
      (settle (.error e)).Leads room₂ (ReadAll reader t key path ls room) := by
    refine (leads_onShelf _ room₂).bind fun _ room₃ ⟨_, moved⟩ => ?_
    subst moved
    refine leads_pure (.failed e (extended.of_places rfl rfl) (Shelf.perm_release ?_))
    rw [List.map_map]
    exact held.trans held₁
  have answers {course : Course S R W K D}
      (fetched : Fetched reader t key path ls room course) :
      (settle (.ok (findings course.streams))).Leads course.parsed
        (ReadAll reader t key path ls room) := by
    refine (leads_onShelf _ course.parsed).bind fun _ room₃ ⟨_, moved⟩ => ?_
    subst moved
    rw [Shelf.foldl_hold]
    refine leads_pure (.answered ⟨fetched, rfl, rfl, rfl, rfl, Shelf.perm_release ?_⟩)
    -- The documents that were found and parsed are given back, those of the answer are kept.
    refine List.perm_iff_count.2 fun n => ?_
    have parsed := fetched.parses.held.count_eq n
    have alive := held₁.count_eq n
    rw [moved] at alive
    simp only [findings, List.count_append, List.count_reverse, List.map_append, List.map_map,
      Function.comp_def] at parsed alive ⊢
    omega
  rw [absent]
  split
  · next none_given =>
    have empty : missing room.shelf key ls = [] := Spread.ofText?_eq_none_iff.1 none_given
    have fetched : Fetched reader t key path ls room ⟨[], room.world, [], room₁⟩ := by
      refine ⟨?_, ?_⟩
      · rw [empty]
        exact .nil _
      · rw [moved]
        exact .nil _
    exact answers fetched
  next spread given =>
  have world₁ : room₁.world = room.world := by rw [moved]
  have shelf₁ : room₁.shelf = (room.shelf.getAll key ls).2 := by rw [moved]
  have hits : (Search.retrieveAll reader.supplier spread ∅).Leads room₁.world _ :=
    Search.leads_retrieveAll spread.resources room₁.world
  refine (leads_act hits).bind fun result room₂ ⟨hits, same₂⟩ => ?_
  obtain e | handles := result
  · exact gives_up (same₂ ▸ start) (.of_eq (congrArg Shelf.held same₂))
  have hits := hits handles rfl
  rw [world₁, Spread.resources_of_ofText? given] at hits
  have parses := leads_parseAll (t := t) reports (same₂ ▸ start) (nothing_at_hit faithful hits)
  refine parses.bind fun result room₃ ⟨parsed, fails⟩ => ?_
  obtain e | found := result
  · obtain ⟨extended, held⟩ := fails e rfl
    exact gives_up extended (held.trans (.of_eq (congrArg Shelf.held same₂)))
  obtain ⟨streams, parses, rfl⟩ := parsed found rfl
  have room₂_eq : room₂ = ⟨room₂.world, (room.shelf.getAll key ls).2⟩ := by
    rw [← shelf₁, ← same₂]
  rw [room₂_eq] at parses
  have fetched : Fetched reader t key path ls room ⟨handles, room₂.world, streams, room₃⟩ :=
    ⟨hits, parses⟩
  exact answers fetched

omit [DecidableEq K] in
theorem run_onShelf_bind {α β : Type} (f : Shelf K D → α × Shelf K D)
    (k : α → Program (ReadingRoom S K D) β) (room : ReadingRoom S K D) :
    (onShelf f >>= k).run room =
      (k (f room.shelf).1).run { room with shelf := (f room.shelf).2 } := rfl

/-- What the supplier would say of a location with a living document does not matter. -/
theorem readAll_congr (supplier : Supplier S (Handle S R W)) (room : ReadingRoom S K D)
    (same : ∀ l ∈ missing room.shelf key ls,
      supplier.retrieve (.ofText l path) ∅ = reader.supplier.retrieve (.ofText l path) ∅) :
    (({ reader with supplier } : DocumentReader S R W K D).readAll t key path ls).run room =
      (reader.readAll t key path ls).run room := by
  have parses (handles : List (Handle S R W)) :
      ({ reader with supplier } : DocumentReader S R W K D).parseAll t key handles =
        reader.parseAll t key handles := by
    induction handles with
    | nil => rfl
    | cons h rest ih =>
      rw [parseAll, parseAll, ih]
      rfl
  have absent : (ls.filter fun l => (findFor (room.shelf.getAll key ls).1 l).isNone) =
      missing room.shelf key ls := filter_findFor_getAll room.shelf key ls
  rw [readAll, readAll, run_onShelf_bind, run_onShelf_bind]
  dsimp only
  rw [absent]
  cases given : Spread.ofText? (missing room.shelf key ls) path with
  | none => rfl
  | some spread =>
    have retrieves : Search.retrieveAll supplier spread ∅ =
        Search.retrieveAll reader.supplier spread ∅ := by
      refine Search.visit_congr fun r mem => ?_
      rw [Spread.resources_of_ofText? given] at mem
      obtain ⟨l, listed, rfl⟩ := List.mem_map.1 mem
      exact same l listed
    dsimp only
    rw [retrieves]
    simp only [parses]

end

/-! ## What calls leave -/

section
variable {path : String} {ls : List Location}

/-- Documents are at the places that their parser names, and their numbers tell them apart. -/
structure Sound (reader : DocumentReader S R W K D) (s : Shelf K D) : Prop where
  orderly : s.Orderly
  home {slot : K × String} {d : Document D} :
    s.places.get? slot = some d → reader.Belongs slot d

/-- A shelf after a call: what is held in addition lived before or is new. -/
structure Leaves (reader : DocumentReader S R W K D) (s s' : Shelf K D) : Prop where
  extended : s.Extends reader.Belongs s'
  held : ∃ more, s'.held.Perm (more ++ s.held) ∧
    ∀ n ∈ more, n ∈ s.held ∨ s.made ≤ n ∧ n < s'.made

theorem Leaves.carries {s s' : Shelf K D} (leaves : reader.Leaves s s') (sound : reader.Sound s) :
    s.Carries s' ∧ reader.Sound s' := by
  obtain ⟨more, held, known⟩ := leaves.held
  obtain ⟨carries, orderly⟩ := leaves.extended.carries sound.orderly held known
  refine ⟨carries, orderly, fun at_place => ?_⟩
  obtain there | ⟨_, home⟩ := leaves.extended.old at_place
  · exact sound.home there
  · exact home

theorem Leaves.of_clears {s s' : Shelf K D} (clears : s.Clears s') {ds : List (Document D)}
    (held : s'.held = ds.map (·.number) ++ s.held) (alive : ∀ d ∈ ds, s.isAlive d = true) :
    reader.Leaves s s' := by
  refine ⟨clears.extends, _, .of_eq held, fun n listed => .inl ?_⟩
  obtain ⟨d, mem, rfl⟩ := List.mem_map.1 listed
  exact Shelf.isAlive_iff.1 (alive d mem)

/-- Only living documents are found. -/
theorem exists_living_of_getFirst {s : Shelf K D} {d : Document D}
    (found : (s.getFirst key ls).1 = some d) : ∃ l ∈ ls, s.living? (key, l.uri) = some d := by
  rw [Shelf.getFirst_fst] at found
  exact List.exists_of_findSome?_eq_some found

theorem leaves_getFirst (s : Shelf K D) : reader.Leaves s (s.getFirst key ls).2 := by
  refine .of_clears (Shelf.clears_getFirst s key ls) (Shelf.held_getFirst s key ls) ?_
  intro d mem
  obtain ⟨l, _, seen⟩ := exists_living_of_getFirst (Option.mem_toList.1 mem)
  exact (Shelf.living?_eq_some_iff.1 seen).2

theorem ReadFirst.leaves (reports : reader.parser.Reports)
    {result : Except Failure (Option (Document D))}
    (readFirst : ReadFirst reader t key ls room result room') :
    reader.Leaves room.shelf room'.shelf := by
  cases readFirst with
  | living found => exact leaves_getFirst room.shelf
  | without _ _ same => exact same ▸ leaves_getFirst room.shelf
  | @made h l d room₁ _ nothing listed at_location same parsed =>
    have none_living : room.shelf.living? (key, h.resource.location.uri) = none := by
      rw [Shelf.getFirst_fst] at nothing
      exact at_location ▸ List.findSome?_eq_none_iff.1 nothing l listed
    have clears := Shelf.clears_getFirst room.shelf key ls
    have held := Shelf.held_getFirst room.shelf key ls
    rw [← same] at clears held
    rw [nothing] at held
    refine ⟨parsed.extended reports clears.extends none_living, [d.number], ?_, ?_⟩
    · exact .of_eq (parsed.held.trans (congrArg _ held))
    · intro n mem
      obtain rfl := List.mem_singleton.1 mem
      have new := parsed.new
      rw [clears.made] at new
      exact .inr new

theorem Answered.leaves {course : Course S R W K D} {all : List (Location × Document D)}
    (reports : reader.parser.Reports) (faithful : reader.supplier.Faithful)
    (answered : Answered reader t key path ls room course all room') :
    reader.Leaves room.shelf room'.shelf := by
  have clears := Shelf.clears_getAll room.shelf key ls
  have nothing := nothing_at_hit faithful answered.fetched.hits
  have extended := answered.fetched.parses.extended reports clears.extends nothing
  refine ⟨extended.of_places answered.made answered.places, _, answered.held, ?_⟩
  intro n listed
  obtain ⟨p, mem, rfl⟩ := List.mem_map.1 listed
  rw [answered.answer] at mem
  obtain ⟨l, _, found⟩ := List.mem_filterMap.1 mem
  obtain alive | parsed := List.mem_append.1 (uri_of_findFor found).1
  · have seen := living?_of_mem_getAll alive
    exact .inl (Shelf.isAlive_iff.1 (Shelf.living?_eq_some_iff.1 seen).2)
  · obtain ⟨s, stream, rfl⟩ := List.mem_map.1 parsed
    obtain ⟨_, each, _⟩ := answered.fetched.parses.numbered
    have new := each s stream
    dsimp only at new
    rw [clears.made, ← answered.made] at new
    exact .inr new

theorem ReadAll.leaves {result : Except Failure (List (Location × Document D))}
    (reports : reader.parser.Reports) (faithful : reader.supplier.Faithful)
    (readAll : ReadAll reader t key path ls room result room') :
    reader.Leaves room.shelf room'.shelf := by
  cases readAll with
  | answered answered => exact answered.leaves reports faithful
  | failed e extended held => exact ⟨extended, [], held, nofun⟩

end

/-! ## Runs -/

/-- Documents are put where their parser says they belong. -/
def Homeward (reader : DocumentReader S R W K D) (u : Shelf.Use K D) : Prop :=
  ∀ slot d, u.puts? slot = some d → reader.Belongs slot d

/-- What happens in a reading room, of which only some uses of the shelf are allowed. -/
inductive Step (reader : DocumentReader S R W K D) (allowed : Shelf.Use K D → Prop) :
    ReadingRoom S K D → ReadingRoom S K D → Prop
  /-- Whatever else happens to the cache. -/
  | elsewhere (room : ReadingRoom S K D) (w : World S) :
    Step reader allowed room { room with world := w }
  | use {room : ReadingRoom S K D} {u : Shelf.Use K D} : allowed u → u.Fits room.shelf →
    Step reader allowed room { room with shelf := room.shelf.use u }
  | readFirst {t : Thread} {key : K} {path : String} {ls : List Location}
      {room room' : ReadingRoom S K D} {result : Except Failure (Option (Document D))} :
    (reader.readFirst t key path ls).run room = .finished result room' →
    Step reader allowed room room'
  | readAll {t : Thread} {key : K} {path : String} {ls : List Location}
      {room room' : ReadingRoom S K D}
      {result : Except Failure (List (Location × Document D))} :
    (reader.readAll t key path ls).run room = .finished result room' →
    Step reader allowed room room'

/-- Any number of steps. -/
abbrev Run (reader : DocumentReader S R W K D) (allowed : Shelf.Use K D → Prop) :
    ReadingRoom S K D → ReadingRoom S K D → Prop :=
  Relation.ReflTransGen (Step reader allowed)

section
variable {allowed : Shelf.Use K D → Prop}

/-- A step leaves the shelf as calls do, or is one of the uses. -/
theorem Step.cases_shelf (reports : reader.parser.Reports) (faithful : reader.supplier.Faithful)
    (step : Step reader allowed room room') : reader.Leaves room.shelf room'.shelf ∨
      ∃ u, allowed u ∧ u.Fits room.shelf ∧ room'.shelf = room.shelf.use u := by
  cases step with
  | elsewhere w =>
    have none_more : room.shelf.held =
        ([] : List (Document D)).map (·.number) ++ room.shelf.held := rfl
    exact .inl (.of_clears (.refl _) none_more nofun)
  | use allows fits => exact .inr ⟨_, allows, fits, rfl⟩
  | readFirst ends => exact .inl ((leads_readFirst faithful _ _ _ _ ends).leaves reports)
  | readAll ends =>
    exact .inl ((leads_readAll reports faithful _ _ _ _ ends).leaves reports faithful)

theorem Sound.use {s : Shelf K D} {u : Shelf.Use K D} (sound : reader.Sound s)
    (homeward : reader.Homeward u) (fits : u.Fits s) : reader.Sound (s.use u) := by
  refine ⟨Shelf.orderly_use fits sound.orderly, fun {slot d} at_place => ?_⟩
  cases u with
  | bring | hold | drop => exact sound.home at_place
  | put key l d' =>
    rw [Shelf.use, Shelf.put, Table.get?_insert] at at_place
    split at at_place
    · next same => exact homeward slot d ((if_pos same).trans at_place)
    · exact sound.home at_place
  | first | all | purge => exact sound.home ((Shelf.clears_use rfl).kept at_place)

theorem Step.sound (reports : reader.parser.Reports) (faithful : reader.supplier.Faithful)
    (step : Step reader reader.Homeward room room') (sound : reader.Sound room.shelf) :
    reader.Sound room'.shelf := by
  obtain leaves | ⟨u, homeward, fits, used⟩ := step.cases_shelf reports faithful
  · exact (leaves.carries sound).2
  · exact used ▸ sound.use homeward fits

theorem sound_of_run (reports : reader.parser.Reports) (faithful : reader.supplier.Faithful)
    {w : World S} (run : Run reader reader.Homeward { world := w } room) :
    reader.Sound room.shelf := by
  induction run with
  | refl => exact ⟨Shelf.orderly_empty, nofun⟩
  | tail _ step ih => exact step.sound reports faithful ih

end

/-! ## Answers -/

section
variable {path : String} {ls : List Location} {course : Course S R W K D}
  {all : List (Location × Document D)}

/-- The answer, location by location: the living document, or else the one that was made
first. -/
theorem Answered.pairs (answered : Answered reader t key path ls room course all room') :
    all.map (fun p => (p.1.uri, p.2)) = ls.filterMap fun l =>
      ((room.shelf.living? (key, l.uri)).or (parsedFor l.uri course.streams).head?).map
        (l.uri, ·) := by
  rw [answered.answer, List.map_filterMap]
  refine List.filterMap_congr fun l listed => ?_
  have found : (findFor ((room.shelf.getAll key ls).1 ++ findings course.streams) l).map (·.2) =
      (room.shelf.living? (key, l.uri)).or (parsedFor l.uri course.streams).head? := by
    rw [findFor, List.find?_append, Option.map_or]
    exact congrArg₂ Option.or (findFor_getAll room.shelf key listed)
      (findFor_findings course.streams l)
  rw [← found]
  cases at_location : findFor ((room.shelf.getAll key ls).1 ++ findings course.streams) l with
  | none => rfl
  | some p => exact congrArg (fun uri => some (uri, p.2)) (uri_of_findFor at_location).2

theorem Answered.found {p : Location × Document D}
    (answered : Answered reader t key path ls room course all room') (mem : p ∈ all) :
    (room.shelf.living? (key, p.1.uri)).or (parsedFor p.1.uri course.streams).head? =
      some p.2 := by
  have listed := List.mem_map_of_mem (f := fun p => (p.1.uri, p.2)) mem
  rw [answered.pairs] at listed
  obtain ⟨l, _, found⟩ := List.mem_filterMap.1 listed
  obtain ⟨d, found, same⟩ := Option.map_eq_some_iff.1 found
  obtain ⟨uri, document⟩ := Prod.mk.inj same
  rw [← uri, ← document, found]

theorem Answered.uris (answered : Answered reader t key path ls room course all room') :
    all.map (·.1.uri) = (ls.filter fun l => (room.shelf.living? (key, l.uri)).isSome ||
      course.streams.any fun s => s.1.resource.location.uri = l.uri).map (·.uri) := by
  have pairs := congrArg (List.map (·.1)) answered.pairs
  rw [List.map_map, List.map_filterMap] at pairs
  refine pairs.trans ?_
  rw [← List.filterMap_eq_map, List.filterMap_filter]
  refine List.filterMap_congr fun l _ => ?_
  have made : (parsedFor l.uri course.streams).head?.isSome =
      course.streams.any fun s => s.1.resource.location.uri = l.uri := by
    rw [parsedFor, List.head?_map, List.head?_filter, Option.isSome_map, List.isSome_find?]
  rw [← made, ← Option.isSome_or]
  cases (room.shelf.living? (key, l.uri)).or (parsedFor l.uri course.streams).head? <;> rfl

theorem Answered.belongs {p : Location × Document D} (reports : reader.parser.Reports)
    (sound : reader.Sound room.shelf)
    (answered : Answered reader t key path ls room course all room') (mem : p ∈ all) :
    reader.Belongs (key, p.1.uri) p.2 := by
  obtain seen | ⟨_, made⟩ := Option.or_eq_some_iff.1 (answered.found mem)
  · exact sound.home (Shelf.living?_eq_some_iff.1 seen).1
  · obtain ⟨s, stream, document⟩ := List.mem_map.1 (List.mem_of_head? made)
    obtain ⟨stream, uri⟩ := List.mem_filter.1 stream
    have reported := answered.fetched.parses.reported reports s stream
    rwa [of_decide_eq_true uri, document] at reported

end

/-- A call that fails files nothing that lives, and holds nothing. -/
theorem ReadFirst.failed {ls : List Location} {e : Failure}
    (readFirst : ReadFirst reader t key ls room (.error e) room') :
    room.shelf.Extends reader.Belongs room'.shelf ∧ room'.shelf.held.Perm room.shelf.held := by
  cases readFirst with
  | without nothing _ same =>
    have held := Shelf.held_getFirst room.shelf key ls
    rw [nothing, ← same] at held
    exact ⟨same ▸ (Shelf.clears_getFirst room.shelf key ls).extends, .of_eq held⟩

/-- **All documents, in the order of the locations.** A call for all documents answers, for
each location that has a living document or got a stream, in the order of the list and as
often as it is listed, with a document for the location; a living one is returned as it is,
and nothing is retrieved there. A call that fails leaves a shelf that nobody can tell from
the one before. -/
theorem readAll_answers_in_order (reports : reader.parser.Reports)
    (faithful : reader.supplier.Faithful) {w : World S}
    (reached : Run reader reader.Homeward { world := w } room) (t : Thread) (key : K)
    (path : String) (ls : List Location) :
    (∀ all room', (reader.readAll t key path ls).run room = .finished (.ok all) room' →
      ∃ course, Answered reader t key path ls room course all room' ∧
        all.map (·.1.uri) = (ls.filter fun l => (room.shelf.living? (key, l.uri)).isSome ||
          course.streams.any fun s => s.1.resource.location.uri = l.uri).map (·.uri) ∧
        ∀ p ∈ all, reader.Belongs (key, p.1.uri) p.2 ∧
          ∀ d, room.shelf.living? (key, p.1.uri) = some d → p.2 = d) ∧
    (∀ supplier : Supplier S (Handle S R W), (∀ l ∈ ls, room.shelf.living? (key, l.uri) = none →
        supplier.retrieve (.ofText l path) ∅ = reader.supplier.retrieve (.ofText l path) ∅) →
      (({ reader with supplier } : DocumentReader S R W K D).readAll t key path ls).run room =
        (reader.readAll t key path ls).run room) ∧
    (∀ e room', (reader.readFirst t key path ls).run room = .finished (.error e) room' ∨
        (reader.readAll t key path ls).run room = .finished (.error e) room' →
      room.shelf.Alike room'.shelf) := by
  have sound := sound_of_run reports faithful reached
  refine ⟨fun all room' ends => ?_, fun supplier same => ?_, fun e room' ends => ?_⟩
  · have readAll := leads_readAll reports faithful path ls _ _ ends
    cases readAll with
    | @answered course _ _ answered =>
      refine ⟨course, answered, answered.uris, fun p mem => ?_⟩
      refine ⟨answered.belongs reports sound mem, fun d seen => ?_⟩
      have found := answered.found mem
      rw [seen] at found
      exact (Option.some.inj found).symm
  · exact readAll_congr supplier room fun l listed =>
      have ⟨listed, nothing⟩ := List.mem_filter.1 listed
      same l listed (Option.isNone_iff_eq_none.1 nothing)
  · obtain ends | ends := ends
    · obtain ⟨extended, held⟩ := (leads_readFirst faithful path ls _ _ ends).failed
      exact extended.alike sound.orderly held
    · have readAll := leads_readAll reports faithful path ls _ _ ends
      cases readAll with
      | failed _ extended held => exact extended.alike sound.orderly held

/-- In `a` there is a living document and in `b` a file, which is listed twice. Another path
has nothing that can be parsed. -/
theorem living_and_parsed_answer_in_order :
    let a : Location := { name := "a", uri := "file:///srv/a" }
    let b : Location := { name := "b", uri := "file:///srv/b" }
    let c : Cache Memory Bytes Memory.Writer := { backend := Memory.backend false }
    let parser : DocumentParser String (String × Location × Bytes) :=
      { parse := fun key l bytes => if bytes = [] then .error (.document l.name "empty")
          else .ok (key, l, bytes),
        key := fun d => d.1, location := fun d => d.2.1 }
    let reader : DocumentReader Memory Bytes Memory.Writer String _ := ⟨c, c.supplier 0, parser⟩
    let d : Document (String × Location × Bytes) := ⟨0, "k", a, [120]⟩
    let room : ReadingRoom Memory String (String × Location × Bytes) :=
      { world := { storage := (Usage.after c.backend .empty
          [.ask (.openWriter (.ofText b "d")), .write 0 [121], .close 0,
            .ask (.openWriter (.ofText b "e")), .close 1]).store },
        shelf := (({} : Shelf _ _).use (.bring d)).use (.put "k" a d) }
    (∃ all room', (reader.readAll 0 "k" "d" [b, a, b]).run room = .finished (.ok all) room' ∧
      all.map (·.1) = [b, a, b] ∧ ∀ p ∈ all, p.1.uri = a.uri → p.2 = d) ∧
    ∃ e room', (reader.readAll 0 "k" "e" [a, b]).run room = .finished (.error e) room' ∧
      room.shelf.Alike room'.shelf := by
  intro a b c parser reader d room
  have reports : parser.Reports := by
    intro key l bytes value parses
    dsimp only [parser] at parses
    split at parses
    · cases parses
    · obtain rfl := Except.ok.inj parses
      exact ⟨rfl, rfl⟩
  have reached : Run reader reader.Homeward { world := room.world } room := by
    have bring : Step reader reader.Homeward { world := room.world }
        { room with shelf := ({} : Shelf _ _).use (.bring d) } :=
      .use (u := .bring d) nofun (by decide)
    have put : Step reader reader.Homeward { room with shelf := ({} : Shelf _ _).use (.bring d) }
        room := by
      refine .use (u := .put "k" a d) (fun slot d' puts => ?_) (by decide)
      rw [Shelf.Use.puts?] at puts
      split at puts
      · next same =>
        subst same
        obtain rfl := Option.some.inj puts
        exact ⟨rfl, rfl⟩
      · cases puts
    exact .tail (.tail .refl bring) put
  have answers := readAll_answers_in_order reports (Cache.faithful_supplier c 0) reached 0 "k"
  constructor
  · have goes : ((reader.readAll 0 "k" "d" [b, a, b]).run room).passes (fun result _ =>
        result.toOption.any fun all => all.map (·.1) = [b, a, b]) = true := by decide +kernel
    obtain ⟨result, room', ends, listed⟩ := Program.Progress.exists_of_passes goes
    obtain e | all := result
    · cases listed
    obtain ⟨course, _, _, each⟩ := (answers "d" [b, a, b]).1 all room' ends
    refine ⟨all, room', ends, of_decide_eq_true listed, fun p mem same => ?_⟩
    refine (each p mem).2 d ?_
    rw [same]
    rfl
  · have goes : ((reader.readAll 0 "k" "e" [a, b]).run room).passes (fun result _ =>
        result.toOption.isNone) = true := by decide +kernel
    obtain ⟨result, room', ends, fails⟩ := Program.Progress.exists_of_passes goes
    obtain e | all := result
    · exact ⟨e, room', ends, (answers "e" [a, b]).2.2 e room' (.inr ends)⟩
    · cases fails

end DocumentReader
end ArtifactCache
