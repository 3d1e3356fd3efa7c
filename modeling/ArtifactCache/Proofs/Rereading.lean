import ArtifactCache.Proofs.Reading
import Mathlib.Data.List.Nodup

/-!
# Reading again what is still held

Who holds a document that a reader returned, and asks for its location again, wants the same
document, and nothing retrieved or parsed for it.

* `DocumentReader.Finds`: a location answers with a document, out of the shelf alone
  (`finds_iff`);
* `carries_of_run`: calls displace no living document;
* `living?_readFirst_iff`, `living?_readAll_iff`: when a document that was returned is at its
  place;
* `DocumentReader.found_again_iff_parsed_once`: a returned document is found again as long as
  it is held, exactly unless its location was parsed twice in one call.
-/
namespace ArtifactCache

/-- Nothing is put. -/
def Shelf.Use.Quiet {K D : Type} [DecidableEq K] (u : Shelf.Use K D) : Prop :=
  ∀ slot, u.puts? slot = none

theorem Shelf.get_of_living {K D : Type} [DecidableEq K] {s : Shelf K D} {key : K} {l : Location}
    {d : Document D} (seen : s.living? (key, l.uri) = some d) :
    s.get key l = (some d, s.hold d) := by
  obtain ⟨at_place, lives⟩ := living?_eq_some_iff.1 seen
  rw [get, at_place]
  exact if_pos lives

namespace DocumentReader
open ReadingRoom Program
variable {S R W K D : Type} [DecidableEq K] {reader : DocumentReader S R W K D} {t : Thread}
  {key : K} {l : Location} {d : Document D} {room room₁ room₂ room' : ReadingRoom S K D}

/-! ## Finding a document again -/

/-- Both calls answer with the document at the location, whatever there is to be retrieved,
and however it would be parsed; the document is held once more, and nothing else happens. -/
def Finds (reader : DocumentReader S R W K D) (room : ReadingRoom S K D) (key : K)
    (l : Location) (d : Document D) : Prop :=
  ∀ (supplier : Supplier S (Handle S R W)) (parser : DocumentParser K D) (t : Thread)
    (path : String),
    let other : DocumentReader S R W K D := ⟨reader.cache, supplier, parser⟩
    let room' := { room with shelf := room.shelf.hold d }
    (other.readFirst t key path [l]).run room = .finished (.ok (some d)) room' ∧
      (other.readAll t key path [l]).run room = .finished (.ok [(l, d)]) room'

theorem run_readFirst_of_living (seen : room.shelf.living? (key, l.uri) = some d)
    (path : String) : (reader.readFirst t key path [l]).run room =
      .finished (.ok (some d)) { room with shelf := room.shelf.hold d } := by
  have found : room.shelf.getFirst key [l] = (some d, room.shelf.hold d) := by
    rw [Shelf.getFirst, Shelf.get_of_living seen]
  rw [readFirst, run_onShelf_bind, found]
  rfl

theorem run_readAll_of_living (seen : room.shelf.living? (key, l.uri) = some d)
    (path : String) : (reader.readAll t key path [l]).run room =
      .finished (.ok [(l, d)]) { room with shelf := room.shelf.hold d } := by
  have found : room.shelf.getAll key [l] = ([(l, d)], room.shelf.hold d) := by
    rw [Shelf.getAll, Shelf.get_of_living seen]
    rfl
  have absent := filter_findFor_getAll room.shelf key [l]
  have none_missing : missing room.shelf key [l] = [] := by simp [missing, seen]
  rw [found, none_missing] at absent
  have answer : [l].filterMap (findFor [(l, d)]) = [(l, d)] := by simp [findFor, Location.same]
  have kept : ((room.shelf.hold d).hold d).release [d] = room.shelf.hold d := by
    simp [Shelf.release, Shelf.hold]
  rw [readAll, run_onShelf_bind, found]
  dsimp only
  rw [absent]
  have ends (all : List (Location × Document D)) (same : all = [(l, d)]) :
      ({ room with shelf := (all.foldl (fun s p => s.hold p.2) (room.shelf.hold d)).release [d] } :
        ReadingRoom S K D) = { room with shelf := room.shelf.hold d } := by
    rw [same, List.foldl_cons, List.foldl_nil, kept]
  exact congrArg₂ Progress.finished (congrArg Except.ok answer) (ends _ answer)

/-- What a reader finds again is what lives at the place. -/
theorem finds_iff : reader.Finds room key l d ↔ room.shelf.living? (key, l.uri) = some d := by
  constructor
  · intro finds
    -- With nothing alive, a supplier that has nothing leaves nothing to return.
    let idle : Supplier S (Handle S R W) :=
      { reader.supplier with retrieve := fun _ _ => pure (.ok none) }
    obtain ⟨first, _⟩ := finds idle reader.parser 0 ""
    cases seen : room.shelf.living? (key, l.uri) with
    | some d' =>
      rw [run_readFirst_of_living seen] at first
      obtain ⟨same, _⟩ := Progress.finished.inj first
      exact Except.ok.inj same
    | none =>
      have nothing : (room.shelf.getFirst key [l]).1 = none := by
        rw [Shelf.getFirst_fst, List.findSome?_singleton, seen]
      rw [readFirst, run_onShelf_bind, nothing] at first
      cases (Progress.finished.inj first).1
  · intro seen supplier parser t path
    exact ⟨run_readFirst_of_living seen path, run_readAll_of_living seen path⟩

/-! ## Runs without puts -/

/-- What carries on in a run: no living document loses its place. -/
theorem Step.carries (reports : reader.parser.Reports) (faithful : reader.supplier.Faithful)
    (step : Step reader Shelf.Use.Quiet room room') (sound : reader.Sound room.shelf) :
    room.shelf.Carries room'.shelf ∧ reader.Sound room'.shelf := by
  obtain leaves | ⟨u, quiet, fits, used⟩ := step.cases_shelf reports faithful
  · exact leaves.carries sound
  · rw [used]
    refine ⟨Shelf.carries_use fits sound.orderly quiet, sound.use (fun slot d puts => ?_) fits⟩
    cases (quiet slot).symm.trans puts

theorem carries_of_run (reports : reader.parser.Reports) (faithful : reader.supplier.Faithful)
    (sound : reader.Sound room.shelf) (run : Run reader Shelf.Use.Quiet room room') :
    room.shelf.Carries room'.shelf := by
  suffices carried : room.shelf.Carries room'.shelf ∧ reader.Sound room'.shelf from carried.1
  induction run with
  | refl => exact ⟨.refl _, sound⟩
  | tail _ step ih =>
    obtain ⟨carries, sound'⟩ := step.carries reports faithful ih.2
    exact ⟨ih.1.trans carries, sound'⟩

/-- Held on to, a document is found again if and only if it was at its place. -/
theorem finds_after_run_iff (reports : reader.parser.Reports)
    (faithful : reader.supplier.Faithful) (sound : reader.Sound room₁.shelf)
    (given : room₁.shelf.isAlive d = true) (run : Run reader Shelf.Use.Quiet room₁ room₂)
    (lives : room₂.shelf.isAlive d = true) :
    reader.Finds room₂ key l d ↔ room₁.shelf.living? (key, l.uri) = some d := by
  have carries := carries_of_run reports faithful sound run
  exact finds_iff.trans (carries.living (sound.orderly.alive given) lives)

/-! ## What was returned -/

section
variable {path : String} {ls : List Location} {course : Course S R W K D}
  {all : List (Location × Document D)} {p : Location × Document D}

/-- The first document is at its place when it is returned. -/
theorem ReadFirst.at_place (reports : reader.parser.Reports) (sound : reader.Sound room.shelf)
    (readFirst : ReadFirst reader t key ls room (.ok (some d)) room') :
    (∃ l ∈ ls, (reader.parser.location d.value).uri = l.uri) ∧
      room'.shelf.living? (key, (reader.parser.location d.value).uri) = some d := by
  cases readFirst with
  | living found =>
    obtain ⟨l, listed, seen⟩ := exists_living_of_getFirst found
    obtain ⟨_, uri⟩ := sound.home (Shelf.living?_eq_some_iff.1 seen).1
    refine ⟨⟨l, listed, uri⟩, ?_⟩
    rw [(Shelf.clears_getFirst _ _ _).living?_eq, uri]
    exact seen
  | without _ no_document _ => exact absurd rfl (no_document d)
  | made _ listed at_location _ parsed =>
    cases parsed with
    | made _ parses moved =>
      obtain ⟨own_key, own_location⟩ := reports _ _ _ _ parses
      refine ⟨⟨_, listed, own_location.trans at_location⟩, ?_⟩
      rw [moved, own_key, Shelf.living?_eq_some_iff]
      exact ⟨Table.get?_insert_self _ _ _, Shelf.isAlive_iff.2 List.mem_cons_self⟩

theorem Answered.isAlive (answered : Answered reader t key path ls room course all room')
    (mem : p ∈ all) : room'.shelf.isAlive p.2 = true := by
  refine Shelf.isAlive_iff.2 (answered.held.mem_iff.2 (List.mem_append_left _ ?_))
  exact List.mem_map_of_mem mem

/-- What is parsed for a location, it is listed for. -/
theorem Fetched.length_parsedFor_le (faithful : reader.supplier.Faithful)
    (fetched : Fetched reader t key path ls room course) (uri : String) :
    (parsedFor uri course.streams).length ≤ (ls.map (·.uri)).count uri := by
  have opened := fetched.parses.sublist.map fun h => h.resource.address
  have retrieved := opened.trans (fetched.hits.sublist faithful)
  have listed := (retrieved.map Address.uri).count_le uri
  simp only [List.map_map] at listed
  calc (parsedFor uri course.streams).length
      = (course.streams.map fun s => s.1.resource.location.uri).count uri := by
        rw [parsedFor, List.length_map, List.count, List.countP_map, List.countP_eq_length_filter]
        rfl
    _ ≤ ((missing room.shelf key ls).map (·.uri)).count uri := listed
    _ ≤ (ls.map (·.uri)).count uri := (List.filter_sublist.map _).count_le uri

/-- Nothing is parsed for a location with a living document. -/
theorem Fetched.parsedFor_of_living {uri : String} (faithful : reader.supplier.Faithful)
    (fetched : Fetched reader t key path ls room course)
    (seen : room.shelf.living? (key, uri) = some d) : parsedFor uri course.streams = [] := by
  refine List.map_eq_nil_iff.2 (List.filter_eq_nil_iff.2 fun s stream same => ?_)
  have opened := fetched.parses.sublist.subset (List.mem_map_of_mem stream)
  have nothing := nothing_at_hit faithful fetched.hits s.1 opened
  rw [of_decide_eq_true same, seen] at nothing
  cases nothing

theorem Parses.pairwise_parsedFor {handles : List (Handle S R W)}
    {streams : List (Handle S R W × Document D)}
    (parses : Parses reader t key handles room streams room') (uri : String) :
    (parsedFor uri streams).Pairwise fun d d' => d.number < d'.number := by
  obtain ⟨_, _, sorted⟩ := parses.numbered
  exact List.pairwise_map.2 (sorted.sublist List.filter_sublist)

/-- A document that was returned is at its place exactly if it is the only one that was made
for its location. -/
theorem Answered.at_place_iff (reports : reader.parser.Reports)
    (faithful : reader.supplier.Faithful)
    (answered : Answered reader t key path ls room course all room') (mem : p ∈ all) :
    room'.shelf.living? (key, p.1.uri) = some p.2 ↔
      (parsedFor p.1.uri course.streams).length ≤ 1 := by
  have clears := Shelf.clears_getAll room.shelf key ls
  have place := answered.fetched.parses.place reports p.1.uri
  rw [Shelf.living?_eq_some_iff, and_iff_left (answered.isAlive mem), answered.places, place]
  dsimp only
  have found := answered.found mem
  cases seen : room.shelf.living? (key, p.1.uri) with
  | some d =>
    -- What was living was not retrieved, and has kept its place.
    obtain ⟨at_place, lives⟩ := Shelf.living?_eq_some_iff.1 seen
    rw [seen] at found
    rw [answered.fetched.parsedFor_of_living faithful seen, clears.living at_place lives, ← found]
    simp
  | none =>
    -- The answer is the document that was made first, at the place is the one made last.
    rw [seen, Option.none_or] at found
    obtain ⟨others, made⟩ := List.head?_eq_some_iff.1 found
    have sorted := answered.fetched.parses.pairwise_parsedFor p.1.uri
    rw [made] at sorted ⊢
    cases others with
    | nil => simp
    | cons d rest =>
      obtain ⟨later, _⟩ := List.pairwise_cons.1 sorted
      constructor
      · intro same
        rw [List.getLast?_cons_cons, List.getLast?_eq_getLast_of_ne_nil (List.cons_ne_nil d rest),
          Option.some_or] at same
        have after := later _ (List.getLast_mem (List.cons_ne_nil d rest))
        rw [Option.some.inj same] at after
        exact absurd after (Nat.lt_irrefl _)
      · intro few
        simp at few

end

/-- **Found again while it is held.** A document that a call for the first one returned is
found again at its location as long as somebody holds it. One that a call for all documents
returned is found again exactly if that call made no other document for its location; it
makes at most as many as the location is listed for. -/
theorem found_again_iff_parsed_once (reports : reader.parser.Reports)
    (faithful : reader.supplier.Faithful) {w : World S}
    (reached : Run reader reader.Homeward { world := w } room) (t : Thread) (key : K)
    (path : String) (ls : List Location) :
    (∀ d room₁, (reader.readFirst t key path ls).run room = .finished (.ok (some d)) room₁ →
      (∃ l ∈ ls, (reader.parser.location d.value).uri = l.uri) ∧
      ∀ room₂, Run reader Shelf.Use.Quiet room₁ room₂ → room₂.shelf.isAlive d = true →
        ∀ l, (reader.parser.location d.value).uri = l.uri → reader.Finds room₂ key l d) ∧
    ∀ all room₁, (reader.readAll t key path ls).run room = .finished (.ok all) room₁ →
      ∃ course, Answered reader t key path ls room course all room₁ ∧
        ∀ p ∈ all,
          (parsedFor p.1.uri course.streams).length ≤ (ls.map (·.uri)).count p.1.uri ∧
          ∀ room₂, Run reader Shelf.Use.Quiet room₁ room₂ → room₂.shelf.isAlive p.2 = true →
            (reader.Finds room₂ key p.1 p.2 ↔ (parsedFor p.1.uri course.streams).length ≤ 1) := by
  have sound := sound_of_run reports faithful reached
  constructor
  · intro d room₁ ends
    have readFirst := leads_readFirst faithful path ls _ _ ends
    have sound₁ := ((readFirst.leaves reports).carries sound).2
    obtain ⟨listed, seen⟩ := readFirst.at_place reports sound
    refine ⟨listed, fun room₂ run lives l uri => ?_⟩
    have given := (Shelf.living?_eq_some_iff.1 seen).2
    exact (finds_after_run_iff reports faithful sound₁ given run lives).2 (uri ▸ seen)
  · intro all room₁ ends
    have readAll := leads_readAll reports faithful path ls _ _ ends
    have sound₁ := ((readAll.leaves reports faithful).carries sound).2
    cases readAll with
    | @answered course _ _ answered =>
      refine ⟨course, answered, fun p mem => ?_⟩
      refine ⟨answered.fetched.length_parsedFor_le faithful p.1.uri, fun room₂ run lives => ?_⟩
      have given := answered.isAlive mem
      exact (finds_after_run_iff reports faithful sound₁ given run lives).trans
        (answered.at_place_iff reports faithful mem)

/-- The first location has nothing, the second a file. What was read of it is found again. -/
theorem document_of_second_location_found_again :
    let a : Location := { name := "a", uri := "file:///srv/a" }
    let b : Location := { name := "b", uri := "file:///srv/b" }
    let c : Cache Memory Bytes Memory.Writer := { backend := Memory.backend false }
    let reader : DocumentReader Memory Bytes Memory.Writer String (String × Location × Bytes) :=
      ⟨c, c.supplier 0, fun key l bytes => .ok (key, l, bytes), fun d => d.1, fun d => d.2.1⟩
    let room : ReadingRoom Memory String (String × Location × Bytes) :=
      { world := { storage := (Usage.after c.backend .empty
          [.ask (.openWriter (.ofText b "d")), .write 0 [121], .close 0]).store } }
    (∃ d room₁, (reader.readFirst 0 "k" "d" [a, b]).run room = .finished (.ok (some d)) room₁ ∧
      reader.Finds room₁ "k" b d) ∧
    ∃ all room₁, (reader.readAll 0 "k" "d" [a, b]).run room = .finished (.ok all) room₁ ∧
      all.map (·.1) = [b] ∧ ∀ p ∈ all, reader.Finds room₁ "k" p.1 p.2 := by
  intro a b c reader room
  have reports : reader.parser.Reports := by
    intro key l bytes value parses
    obtain rfl := Except.ok.inj parses
    exact ⟨rfl, rfl⟩
  have reached : Run reader reader.Homeward { world := room.world } room := .refl
  obtain ⟨first, all⟩ := found_again_iff_parsed_once reports (Cache.faithful_supplier c 0) reached
    0 "k" "d" [a, b]
  constructor
  · have goes : ((reader.readFirst 0 "k" "d" [a, b]).run room).passes (fun result room₁ =>
        result.toOption.join.any fun d => d.value.2.1 = b ∧ room₁.shelf.isAlive d = true) =
          true := by decide +kernel
    obtain ⟨result, room₁, ends, found⟩ := Program.Progress.exists_of_passes goes
    obtain e | _ | d := result
    · cases found
    · cases found
    obtain ⟨location, lives⟩ := of_decide_eq_true found
    exact ⟨d, room₁, ends, (first d room₁ ends).2 room₁ .refl lives b (congrArg _ location)⟩
  · have goes : ((reader.readAll 0 "k" "d" [a, b]).run room).passes (fun result room₁ =>
        result.toOption.any fun all => all.map (·.1) = [b] ∧
          ∀ p ∈ all, room₁.shelf.isAlive p.2 = true) = true := by decide +kernel
    obtain ⟨result, room₁, ends, found⟩ := Program.Progress.exists_of_passes goes
    obtain e | documents := result
    · cases found
    obtain ⟨locations, alive⟩ := of_decide_eq_true found
    obtain ⟨course, _, each⟩ := all documents room₁ ends
    refine ⟨documents, room₁, ends, locations, fun p mem => ?_⟩
    obtain ⟨le, finds⟩ := each p mem
    have listed : ([a, b].map (·.uri)).Nodup := by decide
    exact (finds room₁ .refl (alive p mem)).2
      (Nat.le_trans le (List.nodup_iff_count_le_one.1 listed _))

/-- The location is listed twice and parsed twice, and the second document takes the place of
the one that is returned. Though that is still held, the next call parses a third. -/
theorem displaced_document_parsed_again :
    let b : Location := { name := "b", uri := "file:///srv/b" }
    let c : Cache Memory Bytes Memory.Writer := { backend := Memory.backend false }
    let reader : DocumentReader Memory Bytes Memory.Writer String (String × Location × Bytes) :=
      ⟨c, c.supplier 0, fun key l bytes => .ok (key, l, bytes), fun d => d.1, fun d => d.2.1⟩
    let room : ReadingRoom Memory String (String × Location × Bytes) :=
      { world := { storage := (Usage.after c.backend .empty
          [.ask (.openWriter (.ofText b "d")), .write 0 [121], .close 0]).store } }
    ∃ all room₁, (reader.readAll 0 "k" "d" [b, b]).run room = .finished (.ok all) room₁ ∧
      all.map (fun p => (p.1, p.2.number)) = [(b, 0), (b, 0)] ∧
      (∀ p ∈ all, room₁.shelf.isAlive p.2 = true) ∧
      ∃ d room₂, (reader.readFirst 0 "k" "d" [b]).run room₁ = .finished (.ok (some d)) room₂ ∧
        d.number = 2 := by
  intro b c reader room
  have goes : ((reader.readAll 0 "k" "d" [b, b]).run room).passes (fun result room₁ =>
      result.toOption.any fun all =>
        (all.map (fun p => (p.1, p.2.number)) = [(b, 0), (b, 0)] ∧
          ∀ p ∈ all, room₁.shelf.isAlive p.2 = true) ∧
        ((reader.readFirst 0 "k" "d" [b]).run room₁).passes (fun result _ =>
          result.toOption.join.any fun d => d.number = 2) = true) = true := by decide +kernel
  obtain ⟨result, room₁, ends, found⟩ := Program.Progress.exists_of_passes goes
  obtain e | all := result
  · cases found
  obtain ⟨⟨documents, alive⟩, again⟩ := of_decide_eq_true found
  obtain ⟨result, room₂, ends₂, found⟩ := Program.Progress.exists_of_passes again
  obtain e | _ | d := result
  · cases found
  · cases found
  exact ⟨all, room₁, ends, documents, alive, d, room₂, ends₂, of_decide_eq_true found⟩

end DocumentReader
end ArtifactCache
