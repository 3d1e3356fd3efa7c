import ArtifactCache.Proofs.Clearing
import ArtifactCache.Proofs.Hits

/-!
# What reading files

A reader retrieves what it misses, parses it and files it. The lemmas here say what these
steps do to the shelf.

* `Shelf.Extends`: living documents stay where they are, and only new ones are filed;
  `Shelf.Carries`: what that means for documents that live on;
* `Shelf.Alike`: nobody can tell the shelves apart;
* `Search.Hits`, `DocumentReader.Parses`: retrievals and parses that succeed, one after the
  other;
* `DocumentReader.Parses.place`: of the documents made for one location, the last stays.
-/
namespace ArtifactCache

/-! ## Shelves before and after -/

namespace Shelf
variable {K D : Type} [DecidableEq K] {s s' s₁ s₂ : Shelf K D} {d : Document D}
  {slot : K × String} {belongs : K × String → Document D → Prop}

/-- Living documents stay at their places, and what is found anywhere else is new and
belongs there. -/
structure Extends (belongs : K × String → Document D → Prop) (s s' : Shelf K D) : Prop where
  made : s.made ≤ s'.made
  living {slot : K × String} {d : Document D} : s.places.get? slot = some d →
    s.isAlive d = true → s'.places.get? slot = some d
  old {slot : K × String} {d : Document D} : s'.places.get? slot = some d →
    s.places.get? slot = some d ∨ (s.made ≤ d.number ∧ d.number < s'.made) ∧ belongs slot d

theorem Clears.extends (clears : Clears s s') : Extends belongs s s' :=
  ⟨Nat.le_of_eq clears.made.symm, clears.living, fun at_place => .inl (clears.kept at_place)⟩

/-- Holding and giving back moves nothing. -/
theorem Extends.of_places (extended : Extends belongs s s₁) (made : s₂.made = s₁.made)
    (places : s₂.places = s₁.places) : Extends belongs s s₂ := by
  refine ⟨made ▸ extended.made, fun at_place lives => ?_, fun at_place => ?_⟩
  · exact places ▸ extended.living at_place lives
  · rw [places] at at_place
    rw [made]
    exact extended.old at_place

/-- A new document may go where nothing lives. -/
theorem Extends.file (extended : Extends belongs s s₁) {key : K} {l : Location} {value : D}
    (nothing : s.living? (key, l.uri) = none) (at_home : belongs (key, l.uri) ⟨s₁.made, value⟩) :
    Extends belongs s ((s₁.make value).2.put key l ⟨s₁.made, value⟩) := by
  refine ⟨Nat.le_succ_of_le extended.made, fun {slot d} at_place lives => ?_,
    fun {slot d} at_place => ?_⟩
  · change (s₁.places.insert (key, l.uri) _).get? slot = some d
    rw [Table.get?_insert, if_neg]
    · exact extended.living at_place lives
    · rintro rfl
      cases nothing.symm.trans (living?_eq_some_iff.2 ⟨at_place, lives⟩)
  · change (s₁.places.insert (key, l.uri) _).get? slot = some d at at_place
    rw [Table.get?_insert] at at_place
    split at at_place
    · next same =>
      subst same
      obtain rfl := Option.some.inj at_place
      exact .inr ⟨⟨extended.made, Nat.lt_succ_self _⟩, at_home⟩
    · obtain there | ⟨⟨new, below⟩, home⟩ := extended.old at_place
      · exact .inl there
      · exact .inr ⟨⟨new, Nat.lt_succ_of_lt below⟩, home⟩

/-- No dead document comes back to life, and of those that live on none was displaced or
filed anew. -/
structure Carries (s s' : Shelf K D) : Prop where
  made : s.made ≤ s'.made
  dead {d : Document D} : d.number < s.made → s'.isAlive d = true → s.isAlive d = true
  living {slot : K × String} {d : Document D} : d.number < s.made → s'.isAlive d = true →
    (s'.living? slot = some d ↔ s.living? slot = some d)

theorem Carries.refl (s : Shelf K D) : Carries s s :=
  ⟨Nat.le_refl _, fun _ => id, fun _ _ => .rfl⟩

theorem Carries.trans (first : Carries s s₁) (second : Carries s₁ s₂) : Carries s s₂ where
  made := Nat.le_trans first.made second.made
  dead old lives := first.dead old (second.dead (Nat.lt_of_lt_of_le old first.made) lives)
  living old lives := by
    have then_old := Nat.lt_of_lt_of_le old first.made
    exact (second.living then_old lives).trans (first.living old (second.dead then_old lives))

/-- All uses but putting carry the living documents on. -/
theorem carries_use {u : Use K D} (fits : u.Fits s) (orderly : s.Orderly)
    (puts : ∀ slot, u.puts? slot = none) : Carries s (s.use u) where
  made := made_le_use fits
  dead := isAlive_of_use fits
  living {slot d} _ lives := by
    rw [living?_use fits orderly, puts, Option.none_or, Option.filter_eq_some_iff]
    exact and_iff_left lives

/-- In addition to what was held before, only what lived already or is new. -/
theorem Extends.carries {extra : List Nat} (extended : Extends belongs s s') (orderly : s.Orderly)
    (held : s'.held.Perm (extra ++ s.held))
    (known : ∀ n ∈ extra, n ∈ s.held ∨ s.made ≤ n ∧ n < s'.made) :
    Carries s s' ∧ s'.Orderly := by
  have alive {n : Nat} (old : n < s.made) (mem : n ∈ s'.held) : n ∈ s.held := by
    obtain mem | mem := List.mem_append.1 (held.mem_iff.1 mem)
    · obtain mem | ⟨new, _⟩ := known n mem
      · exact mem
      · omega
    · exact mem
  refine ⟨⟨extended.made, fun old lives => ?_, fun {slot d} old lives => ?_⟩,
    ⟨fun n mem => ?_, fun at_place => ?_⟩⟩
  · exact isAlive_iff.2 (alive old (isAlive_iff.1 lives))
  · have lived := isAlive_iff.2 (alive old (isAlive_iff.1 lives))
    rw [living?_eq_some_iff, living?_eq_some_iff]
    refine ⟨fun ⟨at_place, _⟩ => ⟨?_, lived⟩, fun ⟨at_place, _⟩ =>
      ⟨extended.living at_place lived, lives⟩⟩
    obtain there | ⟨⟨new, _⟩, _⟩ := extended.old at_place
    · exact there
    · omega
  · obtain mem | mem := List.mem_append.1 (held.mem_iff.1 mem)
    · obtain mem | ⟨_, below⟩ := known n mem
      · exact Nat.lt_of_lt_of_le (orderly.held n mem) extended.made
      · exact below
    · exact Nat.lt_of_lt_of_le (orderly.held n mem) extended.made
  · obtain there | ⟨⟨_, below⟩, _⟩ := extended.old at_place
    · exact Nat.lt_of_lt_of_le (orderly.places there) extended.made
    · exact below

/-- Whatever can be done with the second shelf can be done with the first, and lookups then
answer the same. -/
def Alike (s s' : Shelf K D) : Prop :=
  ∀ uses, Possible uses s' → Possible uses s ∧ ∀ key ls,
    ((s'.after uses).getFirst key ls).1 = ((s.after uses).getFirst key ls).1 ∧
      ((s'.after uses).getAll key ls).1 = ((s.after uses).getAll key ls).1

/-- New documents that nobody holds any more leave nothing behind. -/
theorem Extends.alike (extended : Extends belongs s s') (orderly : s.Orderly)
    (held : s'.held.Perm s.held) : Alike s s' := by
  have nothing_more : s'.held.Perm ([] ++ s.held) := held
  obtain ⟨carries, orderly'⟩ := extended.carries orderly nothing_more nofun
  have alive (d : Document D) : s'.isAlive d = s.isAlive d := by
    rw [Bool.eq_iff_iff, isAlive_iff, isAlive_iff, held.mem_iff]
  have living (slot : K × String) : s'.living? slot = s.living? slot := by
    refine Option.ext fun d => ⟨fun seen => ?_, fun seen => ?_⟩
    · have lives := (living?_eq_some_iff.1 seen).2
      exact (carries.living (orderly.alive (alive d ▸ lives)) lives).1 seen
    · have lives := (living?_eq_some_iff.1 seen).2
      exact (carries.living (orderly.alive lives) ((alive d).trans lives)).2 seen
  intro uses possible'
  have possible : Possible uses s := possible'.anti extended.made held.symm
  have alive_after (d : Document D) : (s'.after uses).isAlive d = (s.after uses).isAlive d := by
    have count := count_after possible d.number
    have count' := count_after possible' d.number
    have same := held.count_eq d.number
    rw [Bool.eq_iff_iff, isAlive_iff, isAlive_iff, ← List.count_pos_iff, ← List.count_pos_iff]
    omega
  have seen (slot : K × String) : (s'.after uses).living? slot = (s.after uses).living? slot := by
    rw [living?_after possible' orderly', living?_after possible orderly, living]
    exact congrArg (Option.filter · _) (funext alive_after)
  exact ⟨possible, fun key ls => by simp only [getFirst_fst, getAll_fst, seen, and_self]⟩

end Shelf

/-! ## Steps of a call -/

/-- A supplier hands out handles on what it was asked for. -/
def Supplier.Faithful {S R W : Type} (supplier : Supplier S (Handle S R W)) : Prop :=
  ∀ r m w, (supplier.retrieve r m).Leads w fun result _ =>
    ∀ h, result = .ok (some h) → h.resource.same r = true

/-- A parser reports the key and the location it was given. -/
def DocumentParser.Reports {K D : Type} (parser : DocumentParser K D) : Prop :=
  ∀ key l bytes value, parser.parse key l bytes = .ok value →
    parser.key value = key ∧ (parser.location value).uri = l.uri

section
variable {S R W : Type}

open Program (Leads leads_pure leads_change)

theorem Resource.same_self (r : Resource) : r.same r = true := by simp [Resource.same]

theorem Cache.faithful_supplier (c : Cache S R W) (t : Thread) : (c.supplier t).Faithful := by
  intro r m w
  have any {α : Type} (p : Action S α) (w : World S) : p.Leads w fun _ _ => True :=
    fun _ _ _ => trivial
  change (c.retrieve t r m).Leads w _
  unfold Cache.retrieve
  refine (any _ w).bind fun there w₁ _ => ?_
  split
  · refine leads_pure fun h hit => ?_
    obtain rfl := Option.some.inj (Except.ok.inj hit)
    exact r.same_self
  split
  · exact leads_pure fun h hit => by cases hit
  split
  · exact leads_pure fun h hit => by cases hit
  refine (any _ w₁).bind fun fetched w₂ _ => ?_
  split
  · exact leads_pure fun h hit => by cases hit
  · refine leads_pure fun h hit => ?_
    split at hit
    · obtain rfl := Option.some.inj (Except.ok.inj hit)
      exact r.same_self
    · cases hit

namespace Search
variable {H : Type} {supplier : Supplier S H} {m : Metadata}

/-- The resources are retrieved one after the other, and no retrieval fails; `hs` are the
handles of those that hit. -/
inductive Hits (supplier : Supplier S H) (m : Metadata) :
    List Resource → World S → List H → World S → Prop
  | nil (w : World S) : Hits supplier m [] w [] w
  | missed {r : Resource} {rest : List Resource} {hs : List H} {w w₁ w' : World S} :
    (supplier.retrieve r m).run w = .finished (.ok none) w₁ → Hits supplier m rest w₁ hs w' →
    Hits supplier m (r :: rest) w hs w'
  | hit {r : Resource} {rest : List Resource} {h : H} {hs : List H} {w w₁ w' : World S} :
    (supplier.retrieve r m).run w = .finished (.ok (some h)) w₁ →
    Hits supplier m rest w₁ hs w' → Hits supplier m (r :: rest) w (h :: hs) w'

theorem leads_retrieveAll (rs : List Resource) (w : World S) :
    (retrieveAll.visit supplier m rs).Leads w fun result w' =>
      ∀ hs, result = .ok hs → Hits supplier m rs w hs w' := by
  induction rs generalizing w with
  | nil =>
    refine leads_pure fun hs all => ?_
    obtain rfl := Except.ok.inj all
    exact .nil w
  | cons r rest ih =>
    intro result w' ends hs all
    subst all
    obtain ⟨found, w₁, retrieves, ends⟩ := Program.finished_of_bind ends
    obtain e | found := found
    · cases (Program.Progress.finished.inj ends).1
    obtain ⟨others, w₂, visits, ends⟩ := Program.finished_of_bind ends
    obtain ⟨sum, rfl⟩ := Program.Progress.finished.inj ends
    obtain e | others := others
    · cases sum
    have hits := ih w₁ _ w₂ visits others rfl
    obtain rfl := Except.ok.inj sum
    cases found with
    | none => exact .missed retrieves hits
    | some h => exact .hit retrieves hits

/-- The hit of a search is one of the resources that it was asked for. -/
theorem leads_retrieveFirst {supplier : Supplier S (Handle S R W)} (faithful : supplier.Faithful)
    (first? : Option Failure) (rs : List Resource) (w : World S) :
    (retrieveFirst.visit supplier m first? rs).Leads w fun result _ =>
      ∀ h, result = .ok (some h) → ∃ r ∈ rs, h.resource.same r = true := by
  induction rs generalizing first? w with
  | nil =>
    refine leads_pure fun h hit => ?_
    cases first? <;> cases hit
  | cons r rest ih =>
    have further {first? : Option Failure} {w : World S} :
        (retrieveFirst.visit supplier m first? rest).Leads w fun result _ =>
          ∀ h, result = .ok (some h) → ∃ q ∈ r :: rest, h.resource.same q = true :=
      (ih _ _).mono fun _ _ fits h hit => by
        obtain ⟨q, mem, same⟩ := fits h hit
        exact ⟨q, List.mem_cons_of_mem _ mem, same⟩
    refine (faithful r m w).bind fun found w₁ same => ?_
    obtain e | _ | h := found
    · exact (leads_say _ _ _ w₁).bind fun _ _ _ => further
    · exact further
    · refine leads_pure fun h' hit => ?_
      obtain rfl := Option.some.inj (Except.ok.inj hit)
      exact ⟨r, List.mem_cons_self, same h rfl⟩

/-- The handles that hit are on some of the resources, in their order. -/
theorem Hits.sublist {supplier : Supplier S (Handle S R W)} (faithful : supplier.Faithful)
    {rs : List Resource} {w w' : World S} {hs : List (Handle S R W)}
    (hits : Hits supplier m rs w hs w') :
    (hs.map (·.resource.address)).Sublist (rs.map Resource.address) := by
  induction hits with
  | nil => exact .refl _
  | missed _ _ ih => exact ih.cons _
  | @hit r _ h _ w _ _ retrieves _ ih =>
    have same := faithful r m w _ _ retrieves h rfl
    rw [List.map_cons, List.map_cons, of_decide_eq_true same]
    exact ih.cons_cons _

end Search

namespace ReadingRoom
variable {K D α : Type} {room : ReadingRoom S K D}

/-- An action on the cache does not touch the shelf. -/
theorem leads_act {p : Action S α} {such : α → World S → Prop} (leads : p.Leads room.world such) :
    (act p).Leads room fun v room' => such v room'.world ∧ room'.shelf = room.shelf := by
  induction p generalizing room with
  | done v =>
    intro v' room' ends
    obtain ⟨rfl, rfl⟩ := Program.Progress.finished.inj ends
    exact ⟨leads v room.world rfl, rfl⟩
  | step act next ih =>
    intro v room' ends
    rw [ReadingRoom.act, Program.within, Program.run] at ends
    split at ends
    · cases ends
    next b room₁ admits =>
    obtain ⟨⟨b', w₁⟩, moved, eq⟩ := Option.map_eq_some_iff.1 admits
    obtain ⟨rfl, rfl⟩ := Prod.mk.inj eq
    refine @ih b' { room with world := w₁ } (fun v w ends => ?_) v room' ends
    exact leads v w ((Program.run_step moved).trans ends)

theorem leads_onShelf (f : Shelf K D → α × Shelf K D) (room : ReadingRoom S K D) :
    (onShelf f).Leads room fun v room' =>
      v = (f room.shelf).1 ∧ room' = { room with shelf := (f room.shelf).2 } :=
  leads_change ⟨rfl, rfl⟩

/-- An action ends as it does in the cache alone. -/
theorem leads_act_self (p : Action S α) (room : ReadingRoom S K D) :
    (act p).Leads room fun v room' =>
      p.run room.world = .finished v room'.world ∧ room'.shelf = room.shelf :=
  leads_act fun _ _ ends => ends

end ReadingRoom

end

namespace DocumentReader
open ReadingRoom Program
variable {S R W K D : Type} [DecidableEq K] {reader : DocumentReader S R W K D} {t : Thread}
  {key : K} {room room₁ room₂ room' : ReadingRoom S K D}

/-! ## Parsing -/

/-- The parser says of the document that it is for the key, and from the location with the
URI. -/
def Belongs (reader : DocumentReader S R W K D) (slot : K × String) (d : Document D) : Prop :=
  reader.parser.key d.value = slot.1 ∧ (reader.parser.location d.value).uri = slot.2

/-- How parsing what is behind a handle ends: without a document, and then nothing is filed,
or with a new one in its place. -/
inductive Parsed (reader : DocumentReader S R W K D) (t : Thread) (key : K) (h : Handle S R W)
    (room : ReadingRoom S K D) :
    Except Failure (Option (Document D)) → ReadingRoom S K D → Prop
  | failed (e : Failure) {room' : ReadingRoom S K D} : room'.shelf = room.shelf →
    Parsed reader t key h room (.error e) room'
  | empty {w : World S} {room' : ReadingRoom S K D} :
    (h.openInput t true ∅).run room.world = .finished (.ok none) w →
    room'.shelf = room.shelf → Parsed reader t key h room (.ok none) room'
  | made {input : Handle.Input R} {w : World S} {bytes : Bytes} {value : D}
      {room' : ReadingRoom S K D} :
    (h.openInput t true ∅).run room.world = .finished (.ok (some input)) w →
    reader.parser.parse key h.resource.location bytes = .ok value →
    room'.shelf = (room.shelf.make value).2.put (reader.parser.key value)
      (reader.parser.location value) ⟨room.shelf.made, value⟩ →
    Parsed reader t key h room (.ok (some ⟨room.shelf.made, value⟩)) room'

theorem leads_parse (h : Handle S R W) (room : ReadingRoom S K D) :
    (reader.parse t key h).Leads room (Parsed reader t key h room) := by
  refine (leads_act_self _ room).bind fun opened room₁ ⟨opens, same₁⟩ => ?_
  obtain e | _ | input := opened
  · exact leads_pure (.failed e same₁)
  · exact leads_pure (.empty opens same₁)
  refine (leads_act_self _ room₁).bind fun ⟨bytes, input'⟩ room₂ ⟨_, same₂⟩ => ?_
  refine (leads_act_self _ room₂).bind fun _ room₃ ⟨_, same₃⟩ => ?_
  have same : room₃.shelf = room.shelf := same₃.trans (same₂.trans same₁)
  obtain fault | bytes := bytes
  · exact leads_pure (.failed _ same)
  dsimp only
  split
  · next e _ => exact leads_pure (.failed e same)
  next value parses =>
  refine (leads_onShelf _ room₃).bind fun d room₄ ⟨made, moved⟩ => ?_
  subst made moved
  refine (leads_act_self _ _).bind fun _ room₅ ⟨_, same₅⟩ => ?_
  refine (leads_onShelf _ room₅).bind fun _ room₆ ⟨_, moved⟩ => ?_
  subst moved
  refine leads_pure ?_
  dsimp only at same₅
  rw [same] at same₅ ⊢
  refine .made opens parses ?_
  rw [same₅]
  rfl

theorem Parsed.extended {s₀ : Shelf K D} {h : Handle S R W}
    {result : Except Failure (Option (Document D))} (reports : reader.parser.Reports)
    (start : s₀.Extends reader.Belongs room.shelf)
    (nothing : s₀.living? (key, h.resource.location.uri) = none)
    (parsed : Parsed reader t key h room result room') : s₀.Extends reader.Belongs room'.shelf := by
  cases parsed with
  | failed e same => exact same ▸ start
  | empty _ same => exact same ▸ start
  | made _ parses moved =>
    obtain ⟨own_key, own_location⟩ := reports _ _ _ _ parses
    rw [moved]
    exact start.file (own_key.symm ▸ own_location.symm ▸ nothing) ⟨rfl, rfl⟩

theorem Parsed.held {h : Handle S R W} {found : Option (Document D)}
    (parsed : Parsed reader t key h room (.ok found) room') :
    room'.shelf.held = found.toList.map (·.number) ++ room.shelf.held := by
  cases parsed with
  | empty _ same => exact congrArg Shelf.held same
  | made _ _ moved => exact congrArg Shelf.held moved

theorem Parsed.new {h : Handle S R W} {d : Document D}
    (parsed : Parsed reader t key h room (.ok (some d)) room') :
    room.shelf.made ≤ d.number ∧ d.number < room'.shelf.made := by
  cases parsed with
  | made _ _ moved => exact ⟨Nat.le_refl _, moved ▸ Nat.lt_succ_self _⟩

/-- The handles are parsed one after the other, and no parse fails; `streams` are those that
opened to a stream, each with the document made of it. -/
inductive Parses (reader : DocumentReader S R W K D) (t : Thread) (key : K) :
    List (Handle S R W) → ReadingRoom S K D → List (Handle S R W × Document D) →
      ReadingRoom S K D → Prop
  | nil (room : ReadingRoom S K D) : Parses reader t key [] room [] room
  | empty {h : Handle S R W} {rest : List (Handle S R W)} {room room₁ room' : ReadingRoom S K D}
      {streams : List (Handle S R W × Document D)} :
    Parsed reader t key h room (.ok none) room₁ → Parses reader t key rest room₁ streams room' →
    Parses reader t key (h :: rest) room streams room'
  | made {h : Handle S R W} {rest : List (Handle S R W)} {room room₁ room' : ReadingRoom S K D}
      {d : Document D} {streams : List (Handle S R W × Document D)} :
    Parsed reader t key h room (.ok (some d)) room₁ →
    Parses reader t key rest room₁ streams room' →
    Parses reader t key (h :: rest) room ((h, d) :: streams) room'

/-- What the handles have become: locations with documents. -/
def findings (streams : List (Handle S R W × Document D)) : List (Location × Document D) :=
  streams.map fun s => (s.1.resource.location, s.2)

theorem leads_parseAll {s₀ : Shelf K D} (reports : reader.parser.Reports)
    {handles : List (Handle S R W)} (start : s₀.Extends reader.Belongs room.shelf)
    (nothing : ∀ h ∈ handles, s₀.living? (key, h.resource.location.uri) = none) :
    (reader.parseAll t key handles).Leads room fun result room' =>
      (∀ found, result = .ok found → ∃ streams, Parses reader t key handles room streams room' ∧
        found = findings streams) ∧
      ∀ e, result = .error e → s₀.Extends reader.Belongs room'.shelf ∧
        room'.shelf.held.Perm room.shelf.held := by
  induction handles generalizing room with
  | nil =>
    refine leads_pure ⟨fun found ok => ?_, fun e failed => by cases failed⟩
    obtain rfl := Except.ok.inj ok
    exact ⟨[], .nil room, rfl⟩
  | cons h rest ih =>
    rw [List.forall_mem_cons] at nothing
    refine (leads_parse h room).bind fun result room₁ parsed => ?_
    have extended := parsed.extended reports start nothing.1
    obtain e | found := result
    · refine leads_pure ⟨fun found ok => (by cases ok), fun _ _ => ⟨extended, ?_⟩⟩
      cases parsed with
      | failed _ same => rw [same]
    have held := parsed.held
    refine (ih extended nothing.2).bind fun result room₂ ⟨parses, fails⟩ => ?_
    obtain e | others := result
    · -- The document of this handle is given back.
      obtain ⟨extended₂, held₂⟩ := fails e rfl
      refine (leads_onShelf _ room₂).bind fun _ room₃ ⟨_, moved⟩ => ?_
      subst moved
      refine leads_pure
        ⟨fun all ok => (by cases ok), fun _ _ => ⟨extended₂.of_places rfl rfl, ?_⟩⟩
      exact Shelf.perm_release (held₂.trans (.of_eq held))
    · obtain ⟨streams, further, rfl⟩ := parses others rfl
      refine leads_pure ⟨fun all ok => ?_, fun e failed => by cases failed⟩
      obtain rfl := Except.ok.inj ok
      cases found with
      | none => exact ⟨streams, .empty parsed further, rfl⟩
      | some d => exact ⟨(h, d) :: streams, .made parsed further, rfl⟩

namespace Parses
variable {handles : List (Handle S R W)} {streams : List (Handle S R W × Document D)}

theorem sublist (parses : Parses reader t key handles room streams room') :
    (streams.map (·.1)).Sublist handles := by
  induction parses with
  | nil => exact .refl _
  | empty _ _ ih => exact ih.cons _
  | made _ _ ih => exact ih.cons_cons _

theorem extended {s₀ : Shelf K D} (reports : reader.parser.Reports)
    (parses : Parses reader t key handles room streams room')
    (start : s₀.Extends reader.Belongs room.shelf)
    (nothing : ∀ h ∈ handles, s₀.living? (key, h.resource.location.uri) = none) :
    s₀.Extends reader.Belongs room'.shelf := by
  induction parses with
  | nil => exact start
  | empty parsed _ ih | made parsed _ ih =>
    rw [List.forall_mem_cons] at nothing
    exact ih (parsed.extended reports start nothing.1) nothing.2

theorem held (parses : Parses reader t key handles room streams room') :
    room'.shelf.held.Perm (streams.map (·.2.number) ++ room.shelf.held) := by
  induction parses with
  | nil => exact .refl _
  | empty parsed _ ih => exact ih.trans (.of_eq (by rw [parsed.held]; rfl))
  | made parsed _ ih =>
    refine ih.trans ?_
    rw [parsed.held]
    exact List.perm_middle

/-- Documents are numbered in the order in which they are made. -/
theorem numbered (parses : Parses reader t key handles room streams room') :
    room.shelf.made ≤ room'.shelf.made ∧
      (∀ s ∈ streams, room.shelf.made ≤ s.2.number ∧ s.2.number < room'.shelf.made) ∧
      streams.Pairwise fun s s' => s.2.number < s'.2.number := by
  induction parses with
  | nil => exact ⟨Nat.le_refl _, List.forall_mem_nil _, .nil⟩
  | empty parsed _ ih =>
    cases parsed with
    | empty _ same => rwa [same] at ih
  | made parsed _ ih =>
    obtain ⟨le, each, sorted⟩ := ih
    obtain ⟨new, below⟩ := parsed.new
    rw [List.forall_mem_cons, List.pairwise_cons]
    refine ⟨by omega, ⟨⟨new, Nat.lt_of_lt_of_le below le⟩, fun s mem => ?_⟩, fun s mem => ?_,
      sorted⟩
    · have later := each s mem
      omega
    · exact Nat.lt_of_lt_of_le below (each s mem).1

theorem reported (reports : reader.parser.Reports)
    (parses : Parses reader t key handles room streams room') :
    ∀ s ∈ streams, reader.Belongs (key, s.1.resource.location.uri) s.2 := by
  induction parses with
  | nil => exact List.forall_mem_nil _
  | empty _ _ ih => exact ih
  | made parsed _ ih =>
    cases parsed with
    | made _ parses _ => exact List.forall_mem_cons.2 ⟨reports _ _ _ _ parses, ih⟩

end Parses

/-- The documents that were made for the location with the URI, in order. -/
def parsedFor (uri : String) (streams : List (Handle S R W × Document D)) : List (Document D) :=
  (streams.filter fun s => s.1.resource.location.uri = uri).map (·.2)

/-- The document that was made last stays at the place. -/
theorem Parses.place {handles : List (Handle S R W)}
    {streams : List (Handle S R W × Document D)} (reports : reader.parser.Reports)
    (parses : Parses reader t key handles room streams room') (uri : String) :
    room'.shelf.places.get? (key, uri) =
      (parsedFor uri streams).getLast?.or (room.shelf.places.get? (key, uri)) := by
  induction parses with
  | nil => rfl
  | empty parsed _ ih =>
    cases parsed with
    | empty _ same => rw [ih, same]
  | @made h _ _ _ _ _ streams parsed _ ih =>
    cases parsed with
    | made _ parses moved =>
      obtain ⟨own_key, own_location⟩ := reports _ _ _ _ parses
      rw [ih, moved, Shelf.put, Table.get?_insert, own_key, own_location]
      by_cases here : h.resource.location.uri = uri
      · simp [parsedFor, here, List.getLast?_cons]
      · simp [parsedFor, here]
        rfl

end DocumentReader
end ArtifactCache
