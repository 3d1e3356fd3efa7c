import ArtifactCache.Document.Reader
import ArtifactCache.Proofs.Retrieval

/-!
# What a search finds

A search over several locations stops where something is there or can be fetched. All
locations before that have nothing, and are passed by without a trace among the files.
But what is there can be a directory, and then there is no content in it.

* `Search.PassesBy`: locations that are passed by; a search is these
  and then its hit (`Search.visited_of_run`);
* `Search.Finding`: what is known of a hit, and what is read of it;
* `DocumentReader.finishes_readFirst`: reading the first document over a hit;
* `Search.found_is_content_unless_directory`: both stores, in every state.
-/
namespace ArtifactCache

/-! ## Programs that come to their end -/

namespace Program
variable {σ α β : Type} {p : Program σ α} {s : σ} {such : α → σ → Prop}

/-- The program ends on its own, and value and state are such. -/
def Finishes (p : Program σ α) (s : σ) (such : α → σ → Prop) : Prop :=
  ∃ v e, p.run s = .finished v e ∧ such v e

theorem finishes_pure {v : α} (fits : such v s) : (pure v : Program σ α).Finishes s such :=
  ⟨v, s, rfl, fits⟩

theorem Finishes.bind {k : α → Program σ β} {such' : β → σ → Prop} (first : p.Finishes s such)
    (rest : ∀ v e, such v e → (k v).Finishes e such') : (p >>= k).Finishes s such' := by
  obtain ⟨v, e, ends, fits⟩ := first
  obtain ⟨v', e', ends', fits'⟩ := rest v e fits
  exact ⟨v', e', (run_bind_of_finished ends).trans ends', fits'⟩

end Program

theorem Calm.finishes {S α : Type} {p : Action S α} (calm : Calm p) (w : World S) :
    p.Finishes w fun _ _ => True := by
  induction calm generalizing w with
  | done v => exact ⟨v, w, rfl, trivial⟩
  | step quiet _ ih =>
    obtain ⟨b, w₁, admits, _⟩ := quiet w
    obtain ⟨v, w', ends, _⟩ := ih b w₁
    exact ⟨v, w', (Program.run_step admits).trans ends, trivial⟩

/-! ## Opening what was found -/

namespace Handle
variable {S R W : Type} (h : Handle S R W)

/-- Without hooks, who opens a reader gets what the store gives. -/
theorem leads_openInput (plain : h.cache.hooks? = none) (t : Thread) (fire : Bool) (m : Metadata)
    (w : World S) : (h.openInput t fire m).Leads w fun result w' => w.Still w' ∧
      result.map Option.isSome =
        (h.cache.backend.openReader h.resource w.storage).map Option.isSome := by
  unfold openInput
  refine (Locks.leads_awaitFree t h.resource w).bind fun _ w' same => ?_
  subst same
  have reads : (h.openReader fire m).Leads w' fun result w₁ => w₁ = w' ∧
      result.map Option.isSome =
        (h.cache.backend.openReader h.resource w'.storage).map Option.isSome := by
    unfold openReader
    rw [consult_of_plain plain]
    refine (leads_inspect _ w').bind fun opened w₁ ⟨same_opened, unmoved⟩ => ?_
    subst same_opened unmoved
    rcases h.cache.backend.openReader h.resource w₁.storage with e | _ | stream <;>
      exact Program.leads_pure ⟨rfl, rfl⟩
  refine reads.bind fun result w₁ ⟨unmoved, answer⟩ => ?_
  subst unmoved
  exact (leads_reportFailure h fire m result w₁).after fun _ w₂ still =>
    Program.leads_pure ⟨still, answer⟩

/-- Who is there is opened for reading, if a reader is given, or is no file. -/
theorem finishes_openInput {order : S → Prop} {named : Resource → Prop} {t : Thread} {w : World S}
    (plain : h.cache.hooks? = none) (fills : h.cache.backend.Fills order named)
    (there : h.cache.backend.present h.resource w.storage = true)
    (unlocked : Locks.Open t w.locks) (fire : Bool) (m : Metadata) :
    (h.openInput t fire m).Finishes w fun result _ =>
      result.map Option.isSome = .ok (h.cache.backend.isFile h.resource w.storage) := by
  have follows : Follows t .guards (fun _ => []) [] (h.openInput t fire m) :=
    (keeps_openInput fire m).follows
  obtain ⟨result, w', ends, _⟩ := follows.finishes unlocked
  obtain ⟨_, answer⟩ := h.leads_openInput plain t fire m w result w' ends
  obtain ⟨reader?, opens, isFile⟩ := fills.read there
  refine ⟨result, w', ends, answer.trans ?_⟩
  rw [opens, ← isFile]
  rfl

end Handle

/-! ## The way to the hit -/

namespace Search
variable {S R W : Type} {c : Cache S R W} {order : S → Prop} {named : Resource → Prop}
  {t : Thread} {m : Metadata} {r q : Resource} {rs : List Resource} {w w₁ w' : World S}
  {result : Except Failure (Option (Handle S R W))} {h : Handle S R W}

/-- Retrieving `r` ends without a hit. -/
def PassedBy (c : Cache S R W) (t : Thread) (m : Metadata) (r : Resource) (w w' : World S) :
    Prop :=
  ∃ result w₁, (c.retrieve t r m).run w = .finished result w₁ ∧
    (∀ h, result ≠ .ok (some h)) ∧ w₁.Still w'

/-- The resources are passed by, one after the other. -/
inductive PassesBy (c : Cache S R W) (t : Thread) (m : Metadata) :
    List Resource → World S → World S → Prop
  | nil (w : World S) : PassesBy c t m [] w w
  | cons {r : Resource} {rest : List Resource} {w w₁ w' : World S} : PassedBy c t m r w w₁ →
    PassesBy c t m rest w₁ w' → PassesBy c t m (r :: rest) w w'

/-- How a search ends: at a hit behind resources that are passed by, or behind all. -/
inductive Visited (c : Cache S R W) (t : Thread) (m : Metadata) (rs : List Resource)
    (w : World S) : Except Failure (Option (Handle S R W)) → World S → Prop
  | hit {before : List Resource} {r : Resource} {after : List Resource} {w₁ w' : World S}
      {h : Handle S R W} : rs = before ++ r :: after → PassesBy c t m before w w₁ →
    (c.retrieve t r m).run w₁ = .finished (.ok (some h)) w' →
    Visited c t m rs w (.ok (some h)) w'
  | missed {result : Except Failure (Option (Handle S R W))} {w' : World S} :
    (∀ h, result ≠ .ok (some h)) → PassesBy c t m rs w w' → Visited c t m rs w result w'

theorem Visited.cons (passed : PassedBy c t m r w w₁) (visited : Visited c t m rs w₁ result w') :
    Visited c t m (r :: rs) w result w' := by
  cases visited with
  | hit split passes retrieves =>
    exact .hit (congrArg (r :: ·) split) (.cons passed passes) retrieves
  | missed no_hit passes => exact .missed no_hit (.cons passed passes)

theorem visited_of_run {first? : Option Failure}
    (ends : (retrieveFirst.visit (c.supplier t) m first? rs).run w = .finished result w') :
    Visited c t m rs w result w' := by
  induction rs generalizing first? w with
  | nil =>
    obtain ⟨rfl, rfl⟩ := Program.Progress.finished.inj ends
    refine .missed (fun h => ?_) (.nil w)
    cases first? <;> nofun
  | cons r rest ih =>
    obtain ⟨found, w₁, retrieves, ends⟩ := Program.finished_of_bind ends
    obtain e | _ | h := found
    · obtain ⟨_, w₂, said, ends⟩ := Program.finished_of_bind ends
      exact .cons ⟨_, w₁, retrieves, nofun, leads_say _ _ _ w₁ _ w₂ said⟩ (ih ends)
    · exact .cons ⟨_, w₁, retrieves, nofun, .refl w₁⟩ (ih ends)
    · obtain ⟨rfl, rfl⟩ := Program.Progress.finished.inj ends
      exact .hit (List.nil_append _).symm (.nil w) retrieves

/-- Who is passed by was absent, and no file has changed. -/
theorem PassedBy.unharmed (plain : c.hooks? = none) (fills : c.backend.Fills order named)
    (ordered : order w.storage) (has_name : named r) (passed : PassedBy c t m r w w') :
    c.backend.present r w.storage = false ∧ order w'.storage ∧
      c.backend.Unharmed named r w.storage w'.storage := by
  obtain ⟨result, w₁, retrieves, missed, still⟩ := passed
  have absent : c.backend.present r w.storage = false := by
    refine Bool.not_eq_true _ |>.mp fun there => ?_
    rw [Cache.run_retrieve_of_present plain t m there] at retrieves
    exact missed _ (Program.Progress.finished.inj retrieves).1.symm
  obtain ⟨retrieved, _⟩ := Cache.leads_retrieve plain t m absent result w₁ retrieves
  rw [still.storage]
  exact ⟨absent, retrieved.unharmed fills ordered has_name absent missed⟩

/-- Resources with one path are not above each other. -/
theorem isAbove_of_path_eq (same : q.path = r.path) : q.address.isAbove r.address = false :=
  Bool.not_eq_true _ |>.mp fun above =>
    (Path.isAbove_iff.1 (Address.isAbove_iff.1 above).2).2 same

/-- **Locations that are passed by.** They had nothing at the path, and neither the files
nor what is there at the path in any location has changed. -/
theorem PassesBy.spares {path : Path} (plain : c.hooks? = none)
    (fills : c.backend.Fills order named) (passes : PassesBy c t m rs w w')
    (ordered : order w.storage) (have_names : ∀ r ∈ rs, named r)
    (one_path : ∀ r ∈ rs, r.path = path) :
    order w'.storage ∧ (∀ r ∈ rs, c.backend.present r w.storage = false) ∧
      (∀ q, c.backend.Keeps q w.storage w'.storage) ∧
      ∀ q, named q → q.path = path →
        c.backend.present q w'.storage = c.backend.present q w.storage := by
  induction passes with
  | nil w => exact ⟨ordered, nofun, fun q => .refl _ q _, fun _ _ _ => rfl⟩
  | @cons r rest w w₁ w' passed _ ih =>
    rw [List.forall_mem_cons] at have_names one_path ⊢
    obtain ⟨absent, ordered₁, unharmed⟩ := passed.unharmed plain fills ordered have_names.1
    obtain ⟨ordered', rest_absent, keeps, present⟩ := ih ordered₁ have_names.2 one_path.2
    have still (q : Resource) (has_name : named q) (here : q.path = path) :
        c.backend.present q w₁.storage = c.backend.present q w.storage :=
      unharmed.present q has_name (isAbove_of_path_eq (here.trans one_path.1.symm))
    refine ⟨ordered', ⟨absent, fun q mem => ?_⟩, fun q => (unharmed.keeps q).trans (keeps q),
      fun q has_name here => (present q has_name here).trans (still q has_name here)⟩
    rw [← still q (have_names.2 q mem) (one_path.2 q mem)]
    exact rest_absent q mem

/-! ## The hit -/

/-- What a search has found, and what is read of it. -/
structure Finding (c : Cache S R W) (named : Resource → Prop) (t : Thread) (m : Metadata)
    (rs : List Resource) (w : World S) (h : Handle S R W) (w' : World S) : Prop where
  handle : h = c.handle h.resource
  /-- Everything in front of it is absent, and cannot be fetched. It is there itself, and
  nothing happens any more, or it is fetched. -/
  first : ∃ before after w₁, rs = before ++ h.resource :: after ∧ PassesBy c t m before w w₁ ∧
    (∀ q ∈ before, c.backend.present q w.storage = false) ∧
    (∀ q, c.backend.Keeps q w.storage w₁.storage) ∧
    (c.backend.present h.resource w.storage = true ∧ w' = w₁ ∨
      c.backend.present h.resource w.storage = false ∧
        c.Delivers named h.resource w₁.storage w'.storage)
  /-- It is a file, unless it was there and is none. -/
  directory : c.backend.isFile h.resource w'.storage = false ↔
    c.backend.present h.resource w.storage = true ∧
      c.backend.isFile h.resource w.storage = false
  /-- There is a reader for it exactly if it is a file. -/
  opens (fire : Bool) (m' : Metadata) : Locks.Open t w.locks →
    (h.openInput t fire m').Finishes w' fun result _ =>
      result.map Option.isSome = .ok (c.backend.isFile h.resource w'.storage)

/-- A search ends with no lock in the way, if none was. -/
theorem finishes_retrieveFirst (spread : Spread) (m : Metadata)
    (unlocked : Locks.Open t w.locks) :
    (retrieveFirst (c.supplier t) spread m).Finishes w fun _ w' => Locks.Open t w'.locks := by
  have follows : Follows t .guards (fun _ => []) [] (retrieveFirst (c.supplier t) spread m) :=
    (keeps_retrieveFirst spread m).follows
  exact follows.finishes unlocked

theorem open_of_run (unlocked : Locks.Open t w.locks) {spread : Spread}
    (ends : (retrieveFirst (c.supplier t) spread m).run w = .finished result w') :
    Locks.Open t w'.locks := by
  obtain ⟨_, _, ends', way⟩ := finishes_retrieveFirst spread m unlocked
  obtain ⟨-, rfl⟩ := Program.Progress.finished.inj (ends'.symm.trans ends)
  exact way

theorem path_of_mem_resources {spread : Spread} :
    ∀ r ∈ spread.resources, r.path = spread.path := by
  simp [Spread.resources]

/-- What was found is as it is told, in a store that fills as it should. -/
theorem finding (plain : c.hooks? = none) (fills : c.backend.Fills order named)
    (ordered : order w.storage) {spread : Spread} (have_names : ∀ r ∈ spread.resources, named r)
    (ends : (retrieveFirst (c.supplier t) spread m).run w = .finished (.ok (some h)) w') :
    Finding c named t m spread.resources w h w' := by
  obtain @⟨before, r, after, w₁, _, _, split, passes, retrieves⟩ | ⟨no_hit, _⟩ :=
    visited_of_run ends
  · have one_path : ∀ r ∈ spread.resources, r.path = spread.path := path_of_mem_resources
    rw [split] at have_names one_path ⊢
    obtain ⟨ordered₁, absent, keeps, present⟩ := passes.spares plain fills ordered
      (fun q mem => have_names q (by simp [mem])) fun q mem => one_path q (by simp [mem])
    have has_name : named r := have_names r (by simp)
    have same := present r has_name (one_path r (by simp))
    have opened (there : c.backend.present r w'.storage = true) (fire : Bool) (m' : Metadata)
        (unlocked : Locks.Open t w.locks) :=
      (c.handle r).finishes_openInput plain fills there (open_of_run unlocked ends) fire m'
    cases there : c.backend.present r w₁.storage with
    | true =>
      rw [Cache.run_retrieve_of_present plain t m there] at retrieves
      obtain ⟨found, rfl⟩ := Program.Progress.finished.inj retrieves
      obtain rfl : c.handle r = h := Option.some.inj (Except.ok.inj found)
      have initially := same.symm.trans there
      refine ⟨rfl, ⟨before, after, w₁, rfl, passes, absent, keeps, .inl ⟨initially, rfl⟩⟩, ?_,
        opened there⟩
      change c.backend.isFile r w₁.storage = false ↔
        c.backend.present r w.storage = true ∧ c.backend.isFile r w.storage = false
      rw [(keeps r).file, initially]
      simp
    | false =>
      obtain ⟨retrieved, _⟩ := Cache.leads_retrieve plain t m there _ w' retrieves
      obtain ⟨rfl, _, delivers⟩ := retrieved.delivers fills ordered₁ has_name there
      have initially := same.symm.trans there
      refine ⟨rfl, ⟨before, after, w₁, rfl, passes, absent, keeps, .inr ⟨initially, delivers⟩⟩,
        ?_, opened (Cache.present_of_isFile fills delivers.file)⟩
      change c.backend.isFile r w'.storage = false ↔
        c.backend.present r w.storage = true ∧ c.backend.isFile r w.storage = false
      rw [delivers.file, initially]
      simp
  · exact absurd rfl (no_hit h)

/-- A search that finds something leaves the store in order. -/
theorem ordered_of_hit (plain : c.hooks? = none) (fills : c.backend.Fills order named)
    (ordered : order w.storage) {spread : Spread} (have_names : ∀ r ∈ spread.resources, named r)
    (ends : (retrieveFirst (c.supplier t) spread m).run w = .finished (.ok (some h)) w') :
    order w'.storage := by
  obtain @⟨before, r, after, w₁, _, _, split, passes, retrieves⟩ | ⟨no_hit, _⟩ :=
    visited_of_run ends
  · have one_path : ∀ r ∈ spread.resources, r.path = spread.path := path_of_mem_resources
    rw [split] at have_names one_path
    obtain ⟨ordered₁, _⟩ := passes.spares plain fills ordered
      (fun q mem => have_names q (by simp [mem])) fun q mem => one_path q (by simp [mem])
    cases there : c.backend.present r w₁.storage with
    | true =>
      rw [Cache.run_retrieve_of_present plain t m there] at retrieves
      obtain ⟨-, rfl⟩ := Program.Progress.finished.inj retrieves
      exact ordered₁
    | false =>
      obtain ⟨retrieved, _⟩ := Cache.leads_retrieve plain t m there _ w' retrieves
      exact (retrieved.delivers fills ordered₁ (have_names r (by simp)) there).2.1
  · exact absurd rfl (no_hit h)

/-- A search ends with a hit, if something is there in one of the locations. -/
theorem exists_hit (plain : c.hooks? = none) (fills : c.backend.Fills order named)
    (ordered : order w.storage) {spread : Spread} (have_names : ∀ r ∈ spread.resources, named r)
    (unlocked : Locks.Open t w.locks) (mem : r ∈ spread.resources)
    (there : c.backend.present r w.storage = true) :
    ∃ h w', (retrieveFirst (c.supplier t) spread m).run w = .finished (.ok (some h)) w' := by
  obtain ⟨result, w', ends, _⟩ := finishes_retrieveFirst spread m unlocked
  have visited := visited_of_run ends
  obtain _ | ⟨_, passes⟩ := visited
  · exact ⟨_, w', ends⟩
  · obtain ⟨_, absent, _⟩ := passes.spares plain fills ordered have_names path_of_mem_resources
    cases there.symm.trans (absent r mem)

end Search

/-! ## Reading the first document -/

namespace ReadingRoom
variable {S K D α : Type} {room : ReadingRoom S K D}

/-- Beside the shelf the cache does what it does alone. -/
theorem run_act {p : Action S α} {v : α} {w : World S} (ends : p.run room.world = .finished v w) :
    (act p).run room = .finished v { room with world := w } := by
  induction p generalizing room with
  | done v' =>
    obtain ⟨rfl, rfl⟩ := Program.Progress.finished.inj ends
    rfl
  | step act next ih =>
    rw [Program.run] at ends
    split at ends
    · cases ends
    · next b w₁ admits =>
      have rest := @ih b { room with world := w₁ } ends
      exact (Program.run_step (by rw [admits]; rfl)).trans rest

theorem finishes_act {p : Action S α} {such : α → Prop}
    (finishes : p.Finishes room.world fun v _ => such v) :
    (act p).Finishes room fun v _ => such v := by
  obtain ⟨v, w, ends, fits⟩ := finishes
  exact ⟨v, _, run_act ends, fits⟩

theorem finishes_onShelf (f : Shelf K D → α × Shelf K D) :
    (onShelf f : Program (ReadingRoom S K D) α).Finishes room fun v room' =>
      v = (f room.shelf).1 ∧ room'.world = room.world := ⟨_, _, rfl, rfl, rfl⟩

end ReadingRoom

namespace DocumentReader
open ReadingRoom Program
variable {S R W K D : Type} [DecidableEq K] (reader : DocumentReader S R W K D)
  {room : ReadingRoom S K D}

/-- What can be opened is a document or an error, and never nothing. -/
theorem finishes_parse {t : Thread} (key : K) {h : Handle S R W} {file : Bool}
    (opens : (h.openInput t true ∅).Finishes room.world fun result _ =>
      result.map Option.isSome = .ok file) :
    (reader.parse t key h).Finishes room fun result _ => result = .ok none ↔ file = false := by
  refine (finishes_act opens).bind fun opened room₁ isSome => ?_
  obtain e | _ | input := opened
  · cases isSome
  · obtain rfl := Except.ok.inj isSome
    exact finishes_pure (by simp)
  obtain rfl := Except.ok.inj isSome
  have readable := (Handle.calm_read reader.cache input none).finishes room₁.world
  refine (finishes_act readable).bind fun ⟨bytes, input'⟩ room₂ _ => ?_
  have closable := (Handle.calm_closeInput reader.cache input').finishes room₂.world
  refine (finishes_act closable).bind fun _ room₃ _ => ?_
  split
  · exact finishes_pure (by simp)
  · refine (finishes_onShelf _).bind fun d room₄ _ => ?_
    refine (finishes_act ((calm_say _ _ _).finishes room₄.world)).bind fun _ room₅ _ => ?_
    exact (finishes_onShelf _).bind fun _ _ _ => finishes_pure (by simp)

/-- With nothing on the shelf, the first document is read of what a search finds. -/
theorem finishes_readFirst {t : Thread} {key : K} {path : String} {locations : List Location}
    {spread : Spread} (given : Spread.ofText? locations path = some spread)
    (nothing : (Shelf.getFirst key locations room.shelf).1 = none) {h : Handle S R W} {w : World S}
    (finds : (Search.retrieveFirst reader.supplier spread ∅).run room.world =
      .finished (.ok (some h)) w) {file : Bool}
    (opens : (h.openInput t true ∅).Finishes w fun result _ =>
      result.map Option.isSome = .ok file) :
    (reader.readFirst t key path locations).Finishes room fun result _ =>
      result = .ok none ↔ file = false := by
  refine (finishes_onShelf _).bind fun found room₁ ⟨same, world⟩ => ?_
  obtain rfl : found = none := same.trans nothing
  dsimp only
  rw [given]
  rw [← world] at finds
  have found : (act (Search.retrieveFirst reader.supplier spread ∅)).Finishes room₁
      fun result room₂ => result = .ok (some h) ∧ room₂.world = w :=
    ⟨_, _, run_act finds, rfl, rfl⟩
  refine found.bind fun result room₂ ⟨hit, there⟩ => ?_
  subst hit there
  exact reader.finishes_parse key opens

end DocumentReader

/-! ## Both stores -/

namespace Search
variable {S R W : Type} {c : Cache S R W} {order : S → Prop} {named : Resource → Prop}
  {t : Thread} {w : World S}

/-- What searches find that begin in one state, and what is read over them. -/
structure FindsFirst (c : Cache S R W) (named : Resource → Prop) (t : Thread) (w : World S) :
    Prop where
  /-- A search ends, unless a lock is in the way. -/
  ends (spread : Spread) (m : Metadata) : Locks.Open t w.locks →
    ∃ result w', (retrieveFirst (c.supplier t) spread m).run w = .finished result w'
  found {spread : Spread} {m : Metadata} {h : Handle S R W} {w' : World S} :
    (∀ r ∈ spread.resources, named r) →
    (retrieveFirst (c.supplier t) spread m).run w = .finished (.ok (some h)) w' →
    Finding c named t m spread.resources w h w'
  missed {spread : Spread} {m : Metadata} {w' : World S}
      {result : Except Failure (Option (Handle S R W))} :
    (∀ r ∈ spread.resources, named r) →
    (retrieveFirst (c.supplier t) spread m).run w = .finished result w' →
    (∀ h, result ≠ .ok (some h)) → PassesBy c t m spread.resources w w' ∧
      ∀ r ∈ spread.resources, c.backend.present r w.storage = false
  /-- With nothing on the shelf and a file in some location, the first document is read
  of what is found: it is nothing exactly if that is there and no file. -/
  reads {K D : Type} [DecidableEq K] (reader : DocumentReader S R W K D)
      (room : ReadingRoom S K D) (key : K) (path : String) (locations : List Location) :
    reader.supplier = c.supplier t → room.world = w → Locks.Open t w.locks →
    (∀ l ∈ locations, named ⟨l, .ofText path⟩) →
    (Shelf.getFirst key locations room.shelf).1 = none →
    (∃ l ∈ locations, c.backend.isFile ⟨l, .ofText path⟩ w.storage = true) →
    ∃ spread h w', Spread.ofText? locations path = some spread ∧
      (retrieveFirst (c.supplier t) spread ∅).run w = .finished (.ok (some h)) w' ∧
      (reader.readFirst t key path locations).Finishes room fun result _ =>
        result = .ok none ↔ c.backend.present h.resource w.storage = true ∧
          c.backend.isFile h.resource w.storage = false

theorem findsFirst (plain : c.hooks? = none) (fills : c.backend.Fills order named)
    (ordered : order w.storage) : FindsFirst c named t w where
  ends spread m unlocked := by
    obtain ⟨result, w', ends, _⟩ := finishes_retrieveFirst spread m unlocked
    exact ⟨result, w', ends⟩
  found := finding plain fills ordered
  missed {spread m w' result} have_names ends no_hit := by
    have visited := visited_of_run ends
    obtain _ | ⟨_, passes⟩ := visited
    · exact absurd rfl (no_hit _)
    · obtain ⟨_, absent, _⟩ := passes.spares plain fills ordered have_names path_of_mem_resources
      exact ⟨passes, absent⟩
  reads reader room key path locations supplier same unlocked have_names nothing some_file := by
    subst same
    obtain ⟨l, mem, file⟩ := some_file
    have given : Spread.ofText? locations path =
        some ⟨locations, .ofText path, List.ne_nil_of_mem mem⟩ := dif_neg (List.ne_nil_of_mem mem)
    have have_names' : ∀ r ∈ Spread.resources ⟨locations, .ofText path, List.ne_nil_of_mem mem⟩,
        named r := List.forall_mem_map.2 have_names
    have there := Cache.present_of_isFile fills file
    obtain ⟨h, w', finds⟩ := exists_hit plain fills ordered have_names' unlocked
      (List.mem_map_of_mem mem) there
    have found := finding plain fills ordered have_names' finds
    refine ⟨_, h, w', given, finds, ?_⟩
    rw [← found.directory]
    rw [← supplier] at finds
    exact reader.finishes_readFirst given nothing finds (found.opens true ∅ unlocked)

/-- **What a search finds is content, unless it is a directory.** So it is in memory, and
on disk as long as the root stands. -/
theorem found_is_content_unless_directory (calls : List Call) (t : Thread) :
    (∀ (linking : Bool) (c : Cache Memory Bytes Memory.Writer) (w : World Memory),
      c.backend = Memory.backend linking → c.hooks? = none →
      w.storage = (Usage.after c.backend .empty calls).store →
      FindsFirst c (fun _ => True) t w) ∧
    ∀ (f : Files) (c : Cache Disk Disk.Reader Disk.Writer) (d : Disk) (w : World Disk),
      c.backend = f.backend → c.hooks? = none → d.Closed → d.Numbered → f.Rooted d calls →
      w.storage = (Usage.after c.backend d calls).store →
      FindsFirst c (fun q => q.location.uri ≠ "") t w := by
  refine ⟨fun linking c w inside plain reached => ?_,
    fun f c d w inside plain closed numbered rooted reached => ?_⟩
  · obtain ⟨fills, sound⟩ := Memory.fills_after inside reached
    exact findsFirst plain fills sound
  · obtain ⟨fills, standing⟩ := Files.fills_after inside closed numbered rooted reached
    exact findsFirst plain fills standing

/-- The first location of two has nothing and the second has a file, which is read. On
an empty disk, what is found was fetched. -/
theorem found_behind_empty_location :
    let a : Location := { name := "a", uri := "file:///srv/a" }
    let b : Location := { name := "b", uri := "file:///srv/b" }
    let spread : Spread := ⟨[a, b], .ofText "d", by simp⟩
    let c : Cache Memory Bytes Memory.Writer := { backend := Memory.backend false }
    let reader : DocumentReader Memory Bytes Memory.Writer Unit Bytes :=
      ⟨c, c.supplier 0, ⟨fun _ _ bytes => .ok bytes, fun _ => (), fun _ => b⟩⟩
    let w : World Memory := { storage := (Usage.after c.backend .empty
      [.ask (.openWriter (.ofText b "d")), .write 0 [121], .close 0]).store }
    let f : Files := { root := "/cache" }
    let fetching : Cache Disk Disk.Reader Disk.Writer :=
      { backend := f.backend, endpoint? := some (.always { bytes := [121] }) }
    (∃ h w', (retrieveFirst (c.supplier 0) spread ∅).run w = .finished (.ok (some h)) w' ∧
      h.resource = .ofText b "d" ∧ (h.openInput 0 true ∅).Finishes w' fun result _ =>
        result.map Option.isSome = .ok true) ∧
    (reader.readFirst 0 () "d" [a, b]).Finishes { world := w } (fun result _ =>
      result ≠ .ok none) ∧
    ∃ h w', (retrieveFirst (fetching.supplier 0) spread ∅).run { storage := {} } =
        .finished (.ok (some h)) w' ∧ (h.openInput 0 true ∅).Finishes w' fun result _ =>
          result.map Option.isSome = .ok true := by
  intro a b spread c reader w f fetching
  have unlocked : Locks.Open 0 w.locks := fun _ => rfl
  obtain ⟨inMemory, _⟩ := found_is_content_unless_directory
    [.ask (.openWriter (.ofText b "d")), .write 0 [121], .close 0] 0
  have finds := inMemory false c w rfl rfl rfl
  refine ⟨?_, ?_, ?_⟩
  · have goes : ((retrieveFirst (c.supplier 0) spread ∅).run w).passes (fun result w' =>
        result.toOption.join.any fun h => decide (h.resource = .ofText b "d") &&
          c.backend.isFile h.resource w'.storage) = true := by decide +kernel
    obtain ⟨result, w', ends, hit⟩ := Program.Progress.exists_of_passes goes
    obtain e | _ | h := result
    · cases hit
    · cases hit
    obtain ⟨resource, file⟩ := Bool.and_eq_true_iff.1 hit
    have opens := (finds.found (fun _ _ => trivial) ends).opens true ∅ unlocked
    rw [file] at opens
    exact ⟨h, w', ends, of_decide_eq_true resource, opens⟩
  · obtain ⟨_, h, w', given, ends, result, room, reads, answer⟩ := finds.reads reader
      { world := w } () "d" [a, b] rfl rfl unlocked (fun _ _ => trivial) rfl
      ⟨b, by simp, by decide +kernel⟩
    obtain rfl : spread = _ := Option.some.inj given
    refine ⟨result, room, reads, fun nothing => ?_⟩
    -- What is there in a location is a file, so the hit cannot be a directory.
    obtain ⟨there, no_file⟩ := answer.1 nothing
    have files : ∀ q ∈ spread.resources, c.backend.present q w.storage = true →
        c.backend.isFile q w.storage = true := by decide +kernel
    obtain ⟨before, after, _, split, _⟩ := (finds.found (fun _ _ => trivial) ends).first
    cases no_file.symm.trans (files h.resource (by simp [split]) there)
  · obtain ⟨_, onDisk⟩ := found_is_content_unless_directory [] 0
    have finds := onDisk f fetching {} { storage := {} } rfl rfl Disk.closed_empty
      Disk.numbered_empty (Files.rooted_of_isAbsolute (by decide) (by decide) _ _) rfl
    have goes : ((retrieveFirst (fetching.supplier 0) spread ∅).run { storage := {} }).passes
        (fun result w' => result.toOption.join.any fun h =>
          f.backend.isFile h.resource w'.storage) = true := by decide +kernel
    obtain ⟨result, w', ends, hit⟩ := Program.Progress.exists_of_passes goes
    obtain e | _ | h := result
    · cases hit
    · cases hit
    have file : fetching.backend.isFile h.resource w'.storage = true := hit
    have opens := (finds.found (by decide) ends).opens true ∅ fun _ => rfl
    rw [file] at opens
    exact ⟨h, w', ends, opens⟩

/-- A directory in the first location hides the file in the second. -/
theorem directory_found_before_file :
    let a : Location := { name := "a", uri := "file:///srv/a" }
    let b : Location := { name := "b", uri := "file:///srv/b" }
    let spread : Spread := ⟨[a, b], .ofText "d", by simp⟩
    let c : Cache Memory Bytes Memory.Writer := { backend := Memory.backend false }
    let reader : DocumentReader Memory Bytes Memory.Writer Unit Bytes :=
      ⟨c, c.supplier 0, ⟨fun _ _ bytes => .ok bytes, fun _ => (), fun _ => b⟩⟩
    let w : World Memory := { storage := (Usage.after c.backend .empty
      [.ask (.openWriter (.ofText a "d/x")), .write 0 [120], .close 0,
        .ask (.openWriter (.ofText b "d")), .write 0 [121], .close 0]).store }
    c.backend.isFile (.ofText b "d") w.storage = true ∧
      (retrieveFirst (c.supplier 0) spread ∅).run w =
        .finished (.ok (some (c.handle (.ofText a "d")))) w ∧
      ((c.handle (.ofText a "d")).openInput 0 true ∅).Finishes w (fun result _ =>
        result.map Option.isSome = .ok false) ∧
      (reader.readFirst 0 () "d" [a, b]).Finishes { world := w } fun result _ =>
        result = .ok none := by
  intro a b spread c reader w
  have unlocked : Locks.Open 0 w.locks := fun _ => rfl
  have there : c.backend.present (.ofText a "d") w.storage = true := by decide +kernel
  have finds : (retrieveFirst (c.supplier 0) spread ∅).run w =
      .finished (.ok (some (c.handle (.ofText a "d")))) w :=
    Program.run_bind_of_finished (Cache.run_retrieve_of_present rfl 0 ∅ there)
  have directory : c.backend.isFile (.ofText a "d") w.storage = false := by decide +kernel
  have opens : ((c.handle (.ofText a "d")).openInput 0 true ∅).Finishes w fun result _ =>
      result.map Option.isSome = .ok (c.backend.isFile (.ofText a "d") w.storage) :=
    (c.handle (.ofText a "d")).finishes_openInput rfl (Memory.fills false) there unlocked true ∅
  rw [directory] at opens
  let room : ReadingRoom Memory Unit Bytes := { world := w }
  have given : Spread.ofText? [a, b] "d" = some spread := rfl
  have nothing : (Shelf.getFirst () [a, b] room.shelf).1 = none := rfl
  have reads : (reader.readFirst 0 () "d" [a, b]).Finishes room fun result _ =>
      result = .ok none ↔ false = false := reader.finishes_readFirst given nothing finds opens
  obtain ⟨result, room', reads, answer⟩ := reads
  exact ⟨by decide +kernel, finds, opens, result, room', reads, answer.2 rfl⟩

end Search
end ArtifactCache
