import ArtifactCache.Proofs.FileOrder
import ArtifactCache.Proofs.Hits
import ArtifactCache.Proofs.Leftovers
import ArtifactCache.Proofs.Targets

/-!
# Stored content is found again

What was stored under a name is found under that name, unless a location in front of it
has something there or can fetch it; and whatever the search does on its way, the bytes
that were stored stay what they are.

* `Handle.contents`: opening, reading to the end, closing; `Handle.Reads` is what comes
  of it for whoever need not wait;
* `Cache.Stored.holds`: what is in the store after storing with success;
* `Search.hit_at_or_before`: a search ends at what is there, or in front of it;
* `Catalog.stored_is_found_again`: both stores, in every state.
-/
namespace ArtifactCache

/-! ## Who need not wait -/

/-- Whatever a thread does, it does not block itself. -/
theorem Follows.stays_free {t : Thread} {O S α : Type} {δ : Discipline O} {left : α → O} {o : O}
    {p : Action S α} (follows : Follows t δ left o p) {a : Address} {w w' : World S} {v : α}
    (free : (w.locks.lockAt a).blocks t = false) (ends : p.run w = .finished v w') :
    (w'.locks.lockAt a).blocks t = false := by
  induction follows generalizing w with
  | done v' eq =>
    obtain ⟨rfl, rfl⟩ := Program.Progress.finished.inj ends
    exact free
  | quiet quiet _ ih =>
    obtain ⟨b, w₁, admits, same⟩ := quiet w
    rw [Program.run_step admits] at ends
    exact ih b (same ▸ free) ends
  | @deed o β act next d r reads performs _ _ ih =>
    rw [Program.run] at ends
    split at ends
    · cases ends
    · next b w₁ admits =>
      obtain ⟨m, move, _, same⟩ := performs.move admits
      have moved := Locks.Deed.moved move
      refine ih b ?_ ends
      rw [← same]
      by_cases here : r.address = a
      · subst here
        exact moved.turn.stays_free free
      · rw [moved.lockAt_of_ne here]
        exact free

namespace Handle
variable {S R W : Type} {h : Handle S R W} {t : Thread} {w w' : World S} {bytes : Bytes}

/-- Opens the content, reads all of it and closes it again. -/
def contents (h : Handle S R W) (t : Thread) (fire : Bool) (m : Metadata) :
    Action S (Except Failure (Option (Except Fault Bytes))) := do
  match ← h.openInput t fire m with
  | .error e => return .error e
  | .ok none => return .ok none
  | .ok (some input) =>
    let (bytes, input) ← input.read h.cache none
    input.close h.cache
    return .ok (some bytes)

/-- Whoever need not wait for the resource reads these bytes of it. -/
def Reads (h : Handle S R W) (bytes : Bytes) (w : World S) : Prop :=
  ∀ (t : Thread) (fire : Bool) (m : Metadata),
    (w.locks.lockAt h.resource.address).blocks t = false →
      (h.contents t fire m).Finishes w fun result _ => result = .ok (some (.ok bytes))

/-- Without hooks, whoever need not wait is given the reader of the store. -/
theorem run_openInput (plain : h.cache.hooks? = none) {reader : R}
    (opens : h.cache.backend.openReader h.resource w.storage = .ok (some reader))
    (free : (w.locks.lockAt h.resource.address).blocks t = false) (fire : Bool) (m : Metadata) :
    (h.openInput t fire m).run w = .finished (.ok (some
      { stream := reader, onClose? := if fire then some (.access h.resource m) else none })) w := by
  have waited : (Locks.awaitFree t h.resource).run w = .finished () w := by
    simp [Locks.awaitFree, Program.await, Program.attempt, Program.run, Locks.admits, free]
  have looked : (Action.inspect (h.cache.backend.openReader h.resource)).run w =
      .finished (.ok (some reader)) w := by
    rw [← opens]
    rfl
  apply (Program.run_bind_of_finished waited).trans
  unfold openReader
  rw [consult_of_plain plain, bind_assoc]
  exact Program.run_bind_of_finished looked

/-- Without hooks, the content is what the store has. -/
theorem reads_of_content (plain : h.cache.hooks? = none)
    (content : h.cache.backend.content? h.resource w.storage = some bytes) : h.Reads bytes w := by
  intro t fire m free
  unfold Backend.content? at content
  split at content
  · next reader opens =>
    obtain rfl := Option.some.inj content
    have opened := run_openInput plain opens free fire m
    generalize (if fire then some (Event.access h.resource m) else none) = onClose? at opened
    have read : (Input.read h.cache { stream := reader, onClose? } none).run w =
        .finished (.ok _, _) w := rfl
    obtain ⟨_, w', closed, _⟩ := (calm_closeInput h.cache _).finishes w
    exact ⟨_, w', (Program.run_bind_of_finished opened).trans
      ((Program.run_bind_of_finished read).trans (Program.run_bind_of_finished closed)), rfl⟩
  · cases content

end Handle

namespace Cache
variable {S R W : Type} {c : Cache S R W} {N : Numbering S W} {r : Resource} {s s' : S}
  {source : Source S} {m : Metadata} {t : Thread} {w w' : World S} {h : Handle S R W}

theorem endsIn_store (c : Cache S R W) (t : Thread) (r : Resource) (source : Source S)
    (m : Metadata) : (c.store t r source m).EndsIn fun result =>
      ∀ h, result = .ok h → h = c.handle r := by
  apply Program.EndsIn.seq
  rintro (e | output)
  · intro h failed
    cases failed
  apply Program.EndsIn.seq
  rintro (fault | n)
  · intro h failed
    cases failed
  apply Program.EndsIn.seq
  intro _ h stored
  exact (Except.ok.inj stored).symm

/-- What was stored with success was all read, and is what the store has. -/
theorem Stored.holds (plain : c.hooks? = none) (serves : N.Serves c.backend)
    (rewriting : N.Rewriting c.backend) (sound : N.sound s) {streaming : Bool}
    (stored : c.Stored r source m streaming s (.ok h) s') :
    N.sound s' ∧ ∃ stream s₁, streaming = false ∧ c.backend.openWriter r s = (.ok stream, s₁) ∧
      (source s₁).fault? = none ∧ c.backend.content? r s' = some (source s₁).bytes := by
  obtain _ | _ | ⟨idle, opens, reached, rfl, broken⟩ := stored
  next stream s₁ s₂ =>
  rw [Handle.begun_of_plain (h := c.handle r) plain] at reached
  obtain rfl : s₁ = s₂ := reached
  obtain ⟨sound', content⟩ := Numbering.content?_pour serves rewriting sound opens
    ((c.handle r).parts .upload m (source s₁).bytes)
  rw [Handle.written_parts (h := c.handle r) plain] at content
  have whole : (source s₁).fault? = none := by
    by_contra broke
    obtain ⟨e, failed⟩ := broken broke
    cases failed
  exact ⟨sound', stream, s₁, idle, opens, whole, (serves.content _ _).trans content⟩

end Cache

/-! ## Locations in front of others -/

namespace Spread
variable {spread : Spread} {x y : Location}

/-- The first location is visited before the second. -/
def Before (spread : Spread) (x y : Location) : Prop :=
  ∃ front between rest, spread.locations = front ++ x :: (between ++ y :: rest)

theorem map_location_resources (spread : Spread) :
    spread.resources.map (·.location) = spread.locations := by
  simp [resources, Function.comp_def]

/-- Where each URI comes once, what comes before is somewhere else. -/
theorem Before.apart (before : spread.Before x y)
    (once : spread.locations.Pairwise fun a b => a.same b = false) : x.same y = false := by
  obtain ⟨front, between, rest, split⟩ := before
  rw [split, List.pairwise_append, List.pairwise_cons] at once
  exact once.2.1.1 y (by simp)

end Spread

/-- What one location stands for has each URI once. -/
theorem Expansion.pairwise_spread {e : Expansion} {l : Location} {path : String} {spread : Spread}
    (spreads : e.spread [l] path = .ok spread) :
    spread.locations.Pairwise fun a b => a.same b = false := by
  cases expanded : e.expand [l] with
  | error fault => simp [Expansion.spread, expanded, bind, Except.bind] at spreads
  | ok out =>
    by_cases none_left : out = []
    · rw [none_left] at expanded
      cases spreads.symm.trans (Expansion.spread_of_expand_nil expanded path)
    · obtain rfl := Except.ok.inj
        (spreads.symm.trans (Expansion.spread_of_expand expanded none_left path))
      cases e with
      | identity =>
        obtain rfl := Except.ok.inj expanded
        exact List.pairwise_singleton _ l
      | groups g =>
        obtain ⟨flat, _, rfl⟩ := Groups.expand_flattens expanded
        exact Location.pairwise_distinct flat

/-! ## The search -/

namespace Search
variable {S R W : Type} {c : Cache S R W} {order : S → Prop} {named : Resource → Prop}
  {t : Thread} {m : Metadata} {spread : Spread} {w w' : World S} {h : Handle S R W} {bytes : Bytes}
  {result : Except Failure (Option (Handle S R W))}

/-- A search that meets something ends with a hit. -/
theorem exists_of_present (plain : c.hooks? = none) (fills : c.backend.Fills order named)
    (ordered : order w.storage) (have_names : ∀ r ∈ spread.resources, named r) {r : Resource}
    (mem : r ∈ spread.resources) (there : c.backend.present r w.storage = true)
    (ends : (retrieveFirst (c.supplier t) spread m).run w = .finished result w') :
    ∃ h, result = .ok (some h) := by
  have visited := visited_of_run ends
  obtain _ | ⟨_, passes⟩ := visited
  · exact ⟨_, rfl⟩
  · obtain ⟨_, absent, _⟩ := passes.spares plain fills ordered have_names path_of_mem_resources
    cases there.symm.trans (absent r mem)

/-- **A search ends at what is there, or in front of it**, and leaves its bytes alone. -/
theorem hit_at_or_before (plain : c.hooks? = none) (fills : c.backend.Fills order named)
    (ordered : order w.storage) (have_names : ∀ r ∈ spread.resources, named r)
    (once : spread.locations.Pairwise fun a b => a.same b = false)
    (handle : h = c.handle h.resource) (mem : h.resource ∈ spread.resources)
    (content : c.backend.content? h.resource w.storage = some bytes)
    (ends : (retrieveFirst (c.supplier t) spread m).run w = .finished result w') :
    ∃ u, result = .ok (some u) ∧ u = c.handle u.resource ∧
      (u = h ∨ spread.Before u.resource.location h.resource.location) ∧
      c.backend.content? h.resource w'.storage = some bytes := by
  have file : c.backend.isFile h.resource w.storage = true := by
    rw [fills.file, content]
    rfl
  have there := Cache.present_of_isFile fills file
  obtain ⟨u, rfl⟩ := exists_of_present plain fills ordered have_names mem there ends
  have found := finding plain fills ordered have_names ends
  obtain ⟨front, rest, w₁, split, _, absent, keeps, outcome⟩ := found.first
  have kept := (keeps h.resource).content.trans content
  refine ⟨u, rfl, found.handle, ?_⟩
  have place := mem
  rw [split, List.mem_append, List.mem_cons] at place
  obtain passed | here | behind := place
  · cases there.symm.trans (absent _ passed)
  · have same : u = h := by rw [found.handle, ← here, ← handle]
    refine ⟨.inl same, ?_⟩
    obtain ⟨_, rfl⟩ | ⟨missing, _⟩ := outcome
    · exact kept
    · rw [← here] at missing
      cases there.symm.trans missing
  · obtain ⟨between, last, rfl⟩ := List.append_of_mem behind
    have before : spread.Before u.resource.location h.resource.location := by
      refine ⟨front.map (·.location), between.map (·.location), last.map (·.location), ?_⟩
      rw [← spread.map_location_resources, split]
      simp
    refine ⟨.inr before, ?_⟩
    obtain ⟨_, rfl⟩ | ⟨_, delivers⟩ := outcome
    · exact kept
    · have other : u.resource.same h.resource = false := by
        have apart : u.resource.location.uri ≠ h.resource.location.uri := by
          simpa [Location.same] using before.apart once
        simp [Resource.same, Resource.address, apart]
      exact (delivers.others _ (have_names _ mem) other).content.trans kept

end Search

namespace Cache
variable {S R W : Type} {c : Cache S R W} {t : Thread} {r : Resource} {source : Source S}
  {m : Metadata} {w w' : World S} {result : Except Failure (Handle S R W)}

/-- A thread that has stored something is not in its own way. -/
theorem free_of_store (ends : (c.store t r source m).run w = .finished result w') :
    (w'.locks.lockAt r.address).blocks t = false := by
  have follows : Follows t .guards (fun _ => []) [] (c.store t r source m) :=
    (keeps_store r source m).follows
  refine follows.stays_free ?_ ends
  obtain ⟨_, _, opens, _⟩ := Program.finished_of_bind ends
  obtain ⟨_, _, waits, _⟩ := Program.finished_of_bind opens
  cases admitted : w.locks.admits t r.address with
  | true => simpa [Locks.admits] using admitted
  | false =>
    simp [Locks.awaitFree, Program.await, Program.attempt, Program.run, handle, admitted] at waits

end Cache

namespace Catalog
variable {S R W : Type} {c : Cache S R W} {order : S → Prop} {named : Resource → Prop}
  {N : Numbering S W} {t : Thread} {e : Expansion} {l : Location} {path : String}
  {source : Source S} {m : Metadata} {w w' : World S} {h : Handle S R W}

/-- **What is known of content that was stored at a location or a group**, of which
`w'` is the state afterwards. -/
structure Roundtrip (c : Cache S R W) (t : Thread) (e : Expansion) (l : Location) (path : String)
    (spread : Spread) (content : Content) (h : Handle S R W) (w' : World S) : Prop where
  handle : h = c.handle h.resource
  /-- It is at the first location that accepts stores. -/
  target : Search.storageTarget? spread = some h.resource
  whole : content.fault? = none
  reads : h.Reads content.bytes w'
  /-- Who has stored it need not wait to read it. -/
  free : (w'.locks.lockAt h.resource.address).blocks t = false
  /-- The next search under that name ends, unless a lock is in the way. -/
  ends (t' : Thread) (m : Metadata) : Locks.Open t' w'.locks →
    ∃ result w'', (retrieve ⟨c.supplier t', e⟩ l path m).run w' = .finished result w''
  found {t' : Thread} {m : Metadata} {result : Except Failure (Option (Handle S R W))}
      {w'' : World S} : (retrieve ⟨c.supplier t', e⟩ l path m).run w' = .finished result w'' →
    ∃ u, result = .ok (some u) ∧ u = c.handle u.resource ∧
      (u = h ∨ spread.Before u.resource.location h.resource.location) ∧
      h.Reads content.bytes w'' ∧
      ((w'.locks.lockAt h.resource.address).blocks t' = false →
        (w''.locks.lockAt h.resource.address).blocks t' = false)

/-- What was stored went to the target of the spread. -/
theorem exists_target (ends : (store ⟨c.supplier t, e⟩ l path source m).run w =
    .finished (.ok h) w') : ∃ spread r, e.spread [l] path = .ok spread ∧
      Search.storageTarget? spread = some r ∧
      (c.store t r source m).run w = .finished (.ok h) w' := by
  cases target : (e.spread [l] path).toOption.bind Search.storageTarget? with
  | none =>
    have stores : c.Stores t source m none _ := .catalog e l path target
    obtain ⟨_, _, fails, _⟩ := stores.refused w
    cases fails.symm.trans ends
  | some r =>
    have stores : c.Stores t source m (some r) _ := .catalog e l path target
    rw [stores.eq_store] at ends
    obtain ⟨spread, spreads, target⟩ := Option.bind_eq_some_iff.1 target
    refine ⟨spread, r, ?_, target, ends⟩
    cases given : e.spread [l] path with
    | error => simp [given, Except.toOption] at spreads
    | ok spread' => simpa [given, Except.toOption] using spreads

theorem mem_resources_of_storageTarget? {spread : Spread} {r : Resource}
    (target : Search.storageTarget? spread = some r) : r ∈ spread.resources := by
  obtain ⟨x, found, rfl⟩ := Option.map_eq_some_iff.1 target
  exact List.mem_map_of_mem (List.mem_of_find?_eq_some found)

/-- Stored content makes the round trip, in a store that fills as it should once
something is stored in it. -/
theorem roundtrip_of_store (plain : c.hooks? = none) (serves : N.Serves c.backend)
    (rewriting : N.Rewriting c.backend) (fills : c.backend.Fills order named)
    (sound : N.sound w.storage)
    (ordered : ∀ r s, N.sound s → c.backend.isFile r s = true → order s)
    (have_names : ∀ spread, e.spread [l] path = .ok spread → ∀ r ∈ spread.resources, named r)
    (ends : (store ⟨c.supplier t, e⟩ l path source m).run w = .finished (.ok h) w') :
    ∃ spread s₁, e.spread [l] path = .ok spread ∧ c.Grants h.resource m w s₁ ∧
      Roundtrip c t e l path spread (source s₁) h w' := by
  obtain ⟨spread, r, spreads, target, ends⟩ := exists_target ends
  obtain rfl : h = c.handle r := (Cache.endsIn_store c t r source m).of_run ends h rfl
  obtain ⟨stored, _⟩ := Cache.leads_store c t r source m w _ w' ends
  obtain ⟨sound', stream, s₁, idle, opens, whole, content⟩ :=
    stored.holds plain serves rewriting sound
  have order' : order w'.storage := by
    refine ordered r _ sound' ?_
    rw [fills.file, content]
    rfl
  have retrieves (t' : Thread) (m' : Metadata) : retrieve ⟨c.supplier t', e⟩ l path m' =
      Search.retrieveFirst (c.supplier t') spread m' := by
    simp [retrieve, retrieveFirst, spreading, spreads]
  have reached : ((c.handle r).begun .upload m stream s₁).2 = s₁ := by
    rw [Handle.begun_of_plain (h := c.handle r) plain]
  refine ⟨spread, s₁, spreads, ⟨idle, stream, s₁, opens, reached⟩, ?_⟩
  constructor
  · rfl
  · exact target
  · exact whole
  · exact Handle.reads_of_content (h := c.handle r) plain content
  · exact Cache.free_of_store ends
  · intro t' m' unlocked
    rw [retrieves]
    obtain ⟨result, w'', ends, _⟩ := Search.finishes_retrieveFirst (c := c) spread m' unlocked
    exact ⟨result, w'', ends⟩
  · intro t' m' result w'' searched
    rw [retrieves] at searched
    obtain ⟨u, hit, handle, place, content'⟩ := Search.hit_at_or_before (h := c.handle r) plain
      fills order' (have_names spread spreads) (Expansion.pairwise_spread spreads) rfl
      (mem_resources_of_storageTarget? target) content searched
    have follows : Follows t' .guards (fun _ => []) []
        (Search.retrieveFirst (c.supplier t') spread m') :=
      (Search.keeps_retrieveFirst spread m').follows
    exact ⟨u, hit, handle, place, Handle.reads_of_content (h := c.handle r) plain content',
      fun free => follows.stays_free free searched⟩

/-- **Stored content is found again**, in memory, and on disk as long as the way to the
root begins at a directory. -/
theorem stored_is_found_again (calls : List Call) (t : Thread) (e : Expansion) (l : Location)
    (path : String) (m : Metadata) :
    (∀ (linking : Bool) (c : Cache Memory Bytes Memory.Writer) (w w' : World Memory)
        (source : Source Memory) (h : Handle Memory Bytes Memory.Writer),
      c.backend = Memory.backend linking → c.hooks? = none →
      w.storage = (Usage.after c.backend .empty calls).store →
      (store ⟨c.supplier t, e⟩ l path source m).run w = .finished (.ok h) w' →
      ∃ spread s₁, e.spread [l] path = .ok spread ∧ c.Grants h.resource m w s₁ ∧
        Roundtrip c t e l path spread (source s₁) h w') ∧
    (∀ (f : Files) (c : Cache Disk Disk.Reader Disk.Writer) (d : Disk) (w w' : World Disk)
        (source : Source Disk) (h : Handle Disk Disk.Reader Disk.Writer),
      c.backend = f.backend → c.hooks? = none → d.Closed → d.Numbered → f.HasHome d calls →
      (∀ spread, e.spread [l] path = .ok spread → ∀ x ∈ spread.locations, x.uri ≠ "") →
      w.storage = (Usage.after c.backend d calls).store →
      (store ⟨c.supplier t, e⟩ l path source m).run w = .finished (.ok h) w' →
      ∃ spread s₁, e.spread [l] path = .ok spread ∧ c.Grants h.resource m w s₁ ∧
        Roundtrip c t e l path spread (source s₁) h w') ∧
    ∀ (f : Files) (d : Disk), (PathText.text f.root).isAbsolute = true → f.HasHome d calls := by
  refine ⟨?_, ?_, fun f d absolute => Files.hasHome_of_isAbsolute absolute d calls⟩
  · intro linking c w w' source h inside plain reached ends
    obtain ⟨fills, sound⟩ := Memory.fills_after inside reached
    refine roundtrip_of_store plain ?_ ?_ fills sound (fun _ _ sound _ => sound)
      (fun _ _ _ _ => trivial) ends
    · exact inside ▸ Memory.serves linking
    · exact inside ▸ Memory.rewriting linking
  · intro f c d w w' source h inside plain closed numbered home have_names reached ends
    rw [inside] at reached
    have orderly := Files.orderly_after closed numbered home
    rw [← reached] at orderly
    have fills : c.backend.Fills (fun d => ∃ home, f.Standing home d) fun r =>
        r.location.uri ≠ "" := inside ▸ f.fills
    refine roundtrip_of_store plain ?_ ?_ fills orderly ?_ ?_ ends
    · exact inside ▸ f.serves
    · exact inside ▸ f.rewriting
    · intro r s sound file
      rw [inside] at file
      exact Files.standing_of_isFile sound file
    · intro spread spreads
      exact List.forall_mem_map.2 (have_names spread spreads)

/-- A mirror in front of the location that accepts stores. On disk its download breaks
off, and what was stored is found; in memory the mirror is found, and what was stored is
still there. -/
theorem stored_behind_mirror_is_found :
    let mirror : Location := { name := "mirror", uri := "file:///mirror" }
    let own : Location := { name := "own", uri := "file:///own", acceptsStores := true }
    let e : Expansion := .groups (.ofPairs [("all", [mirror, own])])
    let f : Files := { root := "/cache" }
    let onDisk : Cache Disk Disk.Reader Disk.Writer :=
      { backend := f.backend,
        endpoint? := some (.always { bytes := [120], fault? := some (.reported "reset") }) }
    let inMemory : Cache Memory Bytes Memory.Writer :=
      { backend := Memory.backend false, endpoint? := some (.always { bytes := [120] }) }
    let content : Content := { bytes := [97, 98] }
    (∃ h w', (store ⟨onDisk.supplier 0, e⟩ (.group "all") "d" (fun _ => content) ∅).run
        { storage := {} } = .finished (.ok h) w' ∧ h.Reads [97, 98] w' ∧
      ∃ u w'', (retrieve ⟨onDisk.supplier 0, e⟩ (.group "all") "d" ∅).run w' =
        .finished (.ok (some u)) w'' ∧ u.resource = .ofText own "d" ∧ h.Reads [97, 98] w'') ∧
    ∃ h w', (store ⟨inMemory.supplier 0, e⟩ (.group "all") "d" (fun _ => content) ∅).run
        { storage := .empty } = .finished (.ok h) w' ∧ h.Reads [97, 98] w' ∧
      ∃ u w'', (retrieve ⟨inMemory.supplier 0, e⟩ (.group "all") "d" ∅).run w' =
        .finished (.ok (some u)) w'' ∧ u.resource = .ofText mirror "d" ∧ h.Reads [97, 98] w'' := by
  intro mirror own e f onDisk inMemory content
  have members : Groups.members? (.ofPairs [("all", [mirror, own])]) (Location.group "all").name =
      some [mirror, own] := rfl
  have expanded : e.expand [.group "all"] = .ok [mirror, own] := by
    simp (disch := decide) only [e, Expansion.expand, Groups.expand, List.foldlM_cons,
      List.foldlM_nil, Groups.gather_single, Groups.gather_members _ _ members]
    rfl
  let spread : Spread := ⟨[mirror, own], .ofText "d", by simp⟩
  have spreads : e.spread [.group "all"] "d" = .ok spread :=
    Expansion.spread_of_expand expanded (by simp) "d"
  have stores {S R W : Type} (c : Cache S R W) :
      store ⟨c.supplier 0, e⟩ (.group "all") "d" (fun _ => content) ∅ =
        c.store 0 (.ofText own "d") (fun _ => content) ∅ := by
    unfold store spreading
    dsimp only
    rw [spreads]
    rfl
  have retrieves {S R W : Type} (c : Cache S R W) :
      retrieve ⟨c.supplier 0, e⟩ (.group "all") "d" ∅ =
        Search.retrieveFirst (c.supplier 0) spread ∅ := by
    unfold retrieve retrieveFirst spreading
    dsimp only
    rw [spreads]
  obtain ⟨memory, disk, homes⟩ := stored_is_found_again [] 0 e (.group "all") "d" ∅
  have finds {S R W : Type} {c : Cache S R W} {w₀ : World S} {place : Resource}
      (goes : ((c.store 0 (.ofText own "d") (fun _ => content) ∅).run w₀).passes
        (fun result w' => result.isOk &&
          ((Search.retrieveFirst (c.supplier 0) spread ∅).run w').passes fun found _ =>
            decide (found.toOption.join.map (·.resource) = some place)) = true)
      (round : ∀ h w', (c.store 0 (.ofText own "d") (fun _ => content) ∅).run w₀ =
        .finished (.ok h) w' → ∃ spread s₁, e.spread [.group "all"] "d" = .ok spread ∧
          c.Grants h.resource ∅ w₀ s₁ ∧ Roundtrip c 0 e (.group "all") "d" spread content h w') :
      ∃ h w', (store ⟨c.supplier 0, e⟩ (.group "all") "d" (fun _ => content) ∅).run w₀ =
          .finished (.ok h) w' ∧ h.Reads [97, 98] w' ∧
        ∃ u w'', (retrieve ⟨c.supplier 0, e⟩ (.group "all") "d" ∅).run w' =
          .finished (.ok (some u)) w'' ∧ u.resource = place ∧ h.Reads [97, 98] w'' := by
    obtain ⟨result, w', ends, went⟩ := Program.Progress.exists_of_passes goes
    obtain ⟨succeeded, went⟩ := Bool.and_eq_true_iff.1 went
    obtain _ | h := result
    · cases succeeded
    obtain ⟨found, w'', searched, hit⟩ := Program.Progress.exists_of_passes went
    obtain ⟨_, _, _, _, trip⟩ := round h w' ends
    rw [← retrieves] at searched
    obtain ⟨u, rfl, _, _, reads, _⟩ := trip.found searched
    refine ⟨h, w', (congrArg (Program.run · w₀) (stores c)).trans ends, trip.reads, u, w'',
      searched, ?_, reads⟩
    simpa [Except.toOption] using hit
  constructor
  · apply finds (by decide +kernel)
    intro h w' ends
    rw [← stores] at ends
    refine disk f onDisk {} _ w' _ h rfl rfl Disk.closed_empty Disk.numbered_empty
      (homes f {} (by decide)) ?_ rfl ends
    intro spread' given
    obtain rfl := Except.ok.inj (spreads.symm.trans given)
    decide
  · apply finds (by decide +kernel)
    intro h w' ends
    rw [← stores] at ends
    exact memory false inMemory _ w' _ h rfl rfl rfl ends

end Catalog
end ArtifactCache
