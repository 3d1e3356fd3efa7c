import ArtifactCache.Proofs.Echoes

/-!
# Hooks that let everything pass

A cache whose hooks let everything pass does what the cache without hooks does. It asks
its hooks on the way, and that alone is seen in the trace.

* `Handle.echoes_consult`: asking a hook that lets everything pass makes no difference;
* `Cache.echoes_supplier`: nor does it in what a cache supplies;
* `Supplier.Echoes`: nor in any search.
-/
namespace ArtifactCache

section
variable {S R W α β H H' : Type}

/-! ## Operations without hooks, and with hooks that let everything pass -/

def Cache.bare (c : Cache S R W) : Cache S R W := { c with hooks? := none }

def Cache.passing (c : Cache S R W) : Cache S R W := { c with hooks? := some .passing }

@[simp] theorem Cache.endpoint?_bare (c : Cache S R W) : c.bare.endpoint? = c.endpoint? := rfl

@[simp] theorem Cache.endpoint?_passing (c : Cache S R W) : c.passing.endpoint? = c.endpoint? := rfl

namespace Handle

def bare (h : Handle S R W) : Handle S R W := { h with cache := h.cache.bare }

def passing (h : Handle S R W) : Handle S R W := { h with cache := h.cache.passing }

@[simp] theorem resource_bare (h : Handle S R W) : h.bare.resource = h.resource := rfl

@[simp] theorem resource_passing (h : Handle S R W) : h.passing.resource = h.resource := rfl

variable (h : Handle S R W) (t : Thread) (fire : Bool) (m : Metadata)

/-- The hook is asked, and that is all. -/
theorem echoes_consult (hook : Hook) (call : HookCall) (ask : Hooks → Except Fault α)
    {pass : α} (passes : ask .passing = .ok pass) :
    Action.Echoes id (h.bare.consult hook call ask pass)
      (h.passing.consult hook call ask pass) := by
  refine .extra (fun _ _ alike => alike.hooked call) ?_
  rw [passes]
  exact .done (Except.ok pass)

theorem echoes_touch : Action.Echoes id (h.bare.touch m) (h.passing.touch m) :=
  .extra (fun _ _ alike => alike.hooked _) (h.oblivious_fire _)

theorem echoes_openInput :
    Action.Echoes id (h.bare.openInput t fire m) (h.passing.openInput t fire m) := by
  have reader : Action.Echoes id (h.bare.openReader fire m) (h.passing.openReader fire m) := by
    apply (oblivious_inspect _).bind
    intro opened
    obtain _ | _ | stream := opened
    · exact oblivious_pure _
    · exact oblivious_pure _
    · apply (h.echoes_consult _ _ _ (by rfl)).bind
      intro asked
      cases asked <;> exact oblivious_pure _
  exact (Locks.oblivious_awaitFree _ _).bind fun _ => reader.bind fun result =>
    (h.oblivious_reportFailure fire m result).bind fun _ => oblivious_pure _

/-- Hooks that let everything pass make no calls on the stream of a new writer. -/
theorem echoes_begin (purpose : Purpose) (m : Metadata) (stream : W) : Action.Echoes id
    (h.bare.begin purpose m stream) (h.passing.begin purpose m stream) :=
  oblivious_pure stream

theorem echoes_openWriter (purpose : Purpose) : Action.Echoes id
    (h.bare.openWriter purpose fire m) (h.passing.openWriter purpose fire m) := by
  apply (oblivious_alter _).bind
  intro opened
  cases opened with
  | error => exact oblivious_pure _
  | ok stream =>
    apply (h.echoes_consult _ _ _ (by rfl)).bind
    intro asked
    apply (h.echoes_begin purpose m stream).bind
    intro stream
    cases asked with
    | error => exact (oblivious_alter _).bind fun _ => oblivious_pure _
    | ok filter => cases fire <;> exact (oblivious_say _ _ _).bind fun _ => oblivious_pure _

theorem echoes_openOutput (purpose : Purpose) : Action.Echoes id
    (h.bare.openOutput t purpose fire m) (h.passing.openOutput t purpose fire m) := by
  have reported (result : Except Failure (Output W)) : Action.Oblivious
      (do h.reportFailure fire m result; return result) :=
    (h.oblivious_reportFailure fire m result).bind fun _ => oblivious_pure _
  refine (Locks.oblivious_awaitFree _ _).bind fun _ =>
    (Locks.oblivious_acquire _ _).bind fun taken => ?_
  cases taken with
  | error e => exact reported (.error e)
  | ok =>
    apply (h.echoes_openWriter fire m purpose).bind
    intro result
    cases result with
    | error e => exact (Locks.oblivious_unlockStream _).bind fun _ => reported (.error e)
    | ok output => exact reported (.ok output)

theorem echoes_present : Action.Echoes id h.bare.present h.passing.present :=
  .extra (fun _ _ alike => alike.hooked _) (oblivious_inspect _)

theorem echoes_copyFrom (source : Handle S R W) : Action.Echoes id
    (h.bare.copyFrom t source.bare) (h.passing.copyFrom t source.passing) := by
  refine (Locks.oblivious_awaitFree _ _).bind fun _ =>
    (Locks.oblivious_acquire _ _).bind fun taken => ?_
  cases taken with
  | error => exact oblivious_pure _
  | ok =>
    apply (h.echoes_consult _ _ _ (by rfl)).bind
    intro asked
    have givenBack (result : Except Failure Unit) : Action.Oblivious
        (do let _ ← Locks.unlockStream h.resource; return result : Action S _) :=
      (Locks.oblivious_unlockStream _).bind fun _ => oblivious_pure _
    cases asked with
    | error e => exact givenBack (.error e)
    | ok => exact (oblivious_alter _).bind givenBack

theorem echoes_delete : Action.Echoes id (h.bare.delete t fire m) (h.passing.delete t fire m) := by
  have failed (e : Failure) : Action.Oblivious (do
      h.reportFailure fire m (.error e : Except Failure Bool)
      return (.error e : Except Failure Bool)) :=
    (h.oblivious_reportFailure fire m _).bind fun _ => oblivious_pure _
  refine (Locks.oblivious_awaitFree _ _).bind fun _ =>
    (h.echoes_consult _ _ _ (by rfl)).bind fun asked => ?_
  cases asked with
  | error e => exact failed e
  | ok =>
    apply (oblivious_alter _).bind
    intro deleted
    obtain e | _ | _ := deleted
    · exact failed e
    · exact oblivious_pure _
    · cases fire
      · exact oblivious_pure _
      · exact (h.oblivious_fire _).bind fun _ => oblivious_pure _

theorem echoes_list : Action.Echoes id h.bare.list h.passing.list := by
  apply (oblivious_inspect _).bind
  intro listed
  cases listed with
  | error => exact oblivious_pure _
  | ok names => exact h.echoes_consult _ _ _ (by rfl)

theorem echoes_mkdirs : Action.Echoes id h.bare.mkdirs h.passing.mkdirs := by
  apply (h.echoes_consult _ _ _ (by rfl)).bind
  intro asked
  cases asked with
  | error => exact oblivious_pure _
  | ok => exact oblivious_alter _

theorem echoes_createFile :
    Action.Echoes id (h.bare.createFile t) (h.passing.createFile t) := by
  refine (Locks.oblivious_awaitFree _ _).bind fun _ =>
    (h.echoes_consult _ _ _ (by rfl)).bind fun asked => ?_
  cases asked with
  | error => exact oblivious_pure _
  | ok => exact oblivious_alter _

theorem echoes_metaSibling (suffix : String) : Action.Echoes (Option.map passing)
    (h.bare.metaSibling suffix) (h.passing.metaSibling suffix) := by
  unfold metaSibling
  simp only [resource_bare, resource_passing]
  cases h.resource.withSuffix suffix with
  | none => exact .done none
  | some resource =>
    exact (oblivious_say _ _ _).bind fun _ => .done (some { h.bare with resource })

namespace Output
variable (c : Cache S R W) (output : Output W)

theorem echoes_writeRuns (runs : List Bytes) :
    Action.Echoes id (output.writeRuns c.bare runs) (output.writeRuns c.passing runs) := by
  induction runs generalizing output with
  | nil => exact oblivious_pure _
  | cons run rest ih =>
    apply (output.oblivious_write c run).bind
    rintro ⟨written, output⟩
    cases written with
    | error => exact oblivious_pure _
    | ok => exact ih output

theorem echoes_pour (source : Source S) :
    Action.Echoes id (output.pour c.bare source) (output.pour c.passing source) := by
  refine (oblivious_inspect _).bind fun content =>
    (output.echoes_writeRuns c _).bind fun ⟨written, output⟩ => ?_
  obtain ⟨bytes, fault?⟩ := content
  cases written with
  | error => exact (output.oblivious_drop c).bind fun _ => oblivious_pure _
  | ok =>
    cases fault? with
    | some => exact (output.oblivious_drop c).bind fun _ => oblivious_pure _
    | none => exact (output.oblivious_close c).bind fun _ => oblivious_pure _

end Output
end Handle

/-! ## Caches -/

/-- What the operations of one supplier do, those of the other do. -/
structure Supplier.Echoes (f : H → H') (s : Supplier S H) (s' : Supplier S H') : Prop where
  retrieve (r : Resource) (m : Metadata) :
    Action.Echoes (Except.map (Option.map f)) (s.retrieve r m) (s'.retrieve r m)
  store (r : Resource) (source : Source S) (m : Metadata) :
    Action.Echoes (Except.map f) (s.store r source m) (s'.store r source m)
  publish (r : Resource) (source : Source S) (length : Nat) (contentType : String) :
    Action.Echoes id (s.publish r source length contentType)
      (s'.publish r source length contentType)
  delete (r : Resource) (m : Metadata) : Action.Echoes id (s.delete r m) (s'.delete r m)
  list (r : Resource) : Action.Echoes id (s.list r) (s'.list r)

namespace Cache
variable (c : Cache S R W) (t : Thread) (r : Resource) (source : Source S) (m : Metadata)

theorem oblivious_sayAll (lines : List Line) : Action.Oblivious (sayAll lines : Action S Unit) := by
  induction lines with
  | nil => exact oblivious_pure _
  | cons line rest ih => exact (oblivious_note _).bind fun _ => ih

theorem oblivious_fetch (endpoint : Endpoint S) : Action.Oblivious (fetch endpoint r) :=
  (oblivious_note _).bind fun _ => (oblivious_inspect _).bind fun _ =>
    (oblivious_sayAll _).bind fun _ => oblivious_pure _

theorem oblivious_publish (length : Nat) (contentType : String) :
    Action.Oblivious (c.publish r source length contentType) := by
  unfold publish
  split
  · exact oblivious_pure _
  · exact (oblivious_inspect _).bind fun _ => (oblivious_note _).bind fun _ =>
      (oblivious_alter _).bind fun _ => (oblivious_sayAll _).bind fun _ => oblivious_pure _

theorem oblivious_createAlias (target : Resource) : Action.Oblivious (c.createAlias r target) :=
  (oblivious_alter _).bind fun _ => (oblivious_sayAll _).bind fun _ => oblivious_pure _

theorem echoes_download (endpoint : Endpoint S) (h : Handle S R W) : Action.Echoes id
    (c.bare.download t endpoint h.bare m) (c.passing.download t endpoint h.passing m) := by
  apply (oblivious_fetch _ _).bind
  intro fetched
  obtain _ | _ | source := fetched
  · exact oblivious_pure _
  · exact oblivious_pure _
  apply (h.echoes_openOutput t true m .download).bind
  intro opened
  cases opened with
  | error => exact oblivious_pure _
  | ok output =>
    apply (output.echoes_pour c source).bind
    intro poured
    cases poured with
    | ok => exact (oblivious_say _ _ _).bind fun _ => oblivious_pure _
    | error =>
      apply (h.echoes_delete t false ∅).bind
      intro deleted
      cases deleted with
      | ok => exact oblivious_pure _
      | error => exact (oblivious_say _ _ _).bind fun _ => oblivious_pure _

theorem echoes_retrieve : Action.Echoes (Except.map (Option.map Handle.passing))
    (c.bare.retrieve t r m) (c.passing.retrieve t r m) := by
  refine (c.handle r).echoes_present.bind fun present => ?_
  cases present
  · simp only [endpoint?_bare, endpoint?_passing, id_eq, Bool.false_eq_true, if_false]
    split
    · exact .done (Except.ok none)
    cases c.endpoint? with
    | none => exact .done (Except.ok none)
    | some endpoint =>
      apply (c.echoes_download t m endpoint (c.handle r)).bind
      intro downloaded
      obtain e | _ | _ := downloaded
      · exact .done (Except.error e)
      · exact .done (Except.ok none)
      · exact .done (Except.ok (some (c.handle r).bare))
  · exact .done (Except.ok (some (c.handle r).bare))

theorem echoes_store : Action.Echoes (Except.map Handle.passing)
    (c.bare.store t r source m) (c.passing.store t r source m) := by
  apply ((c.handle r).echoes_openOutput t true m .upload).bind
  intro opened
  cases opened with
  | error e => exact .done (Except.error e)
  | ok output =>
    apply (output.echoes_pour c source).bind
    intro poured
    cases poured with
    | error fault => exact .done (Except.error _)
    | ok => exact (oblivious_say _ _ _).bind fun _ => .done (Except.ok (c.handle r).bare)

/-- A cache whose hooks let everything pass supplies what the cache without hooks does. -/
theorem echoes_supplier :
    Supplier.Echoes Handle.passing (c.bare.supplier t) (c.passing.supplier t) where
  retrieve r m := c.echoes_retrieve t r m
  store r source m := c.echoes_store t r source m
  publish r source length contentType := c.oblivious_publish r source length contentType
  delete r m := (c.handle r).echoes_delete t true m
  list r := (c.handle r).echoes_list

end Cache

/-! ## Searches -/

namespace Supplier.Echoes
variable {f : H → H'} {s : Supplier S H} {s' : Supplier S H'}

theorem retrieveFirst (echoes : Supplier.Echoes f s s') (spread : Spread) (m : Metadata) :
    Action.Echoes (Except.map (Option.map f)) (Search.retrieveFirst s spread m)
      (Search.retrieveFirst s' spread m) := by
  unfold Search.retrieveFirst
  generalize none = first?
  induction spread.resources generalizing first? with
  | nil => cases first? <;> exact .done _
  | cons r rest ih =>
    apply (echoes.retrieve r m).bind
    intro found
    obtain e | _ | h := found
    · exact (oblivious_say _ _ _).bind fun _ => ih _
    · exact ih _
    · exact .done (Except.ok (some h))

theorem retrieveAll (echoes : Supplier.Echoes f s s') (spread : Spread) (m : Metadata) :
    Action.Echoes (Except.map (List.map f)) (Search.retrieveAll s spread m)
      (Search.retrieveAll s' spread m) := by
  unfold Search.retrieveAll
  induction spread.resources with
  | nil => exact .done (Except.ok [])
  | cons r rest ih =>
    apply (echoes.retrieve r m).bind
    intro found
    obtain e | found := found
    · exact .done (Except.error e)
    · apply ih.bind
      intro hits
      have both : Except.map ((found.map f).toList ++ ·) (Except.map (List.map f) hits) =
          Except.map (List.map f) (Except.map (found.toList ++ ·) hits) := by
        cases hits <;> cases found <;> rfl
      exact both ▸ .done _

theorem deleteAll (echoes : Supplier.Echoes f s s') (spread : Spread) (m : Metadata) :
    Action.Echoes id (Search.deleteAll s spread m) (Search.deleteAll s' spread m) := by
  have visits (rs : List Resource) :
      Action.Echoes id (Search.deleteAll.visit s m rs) (Search.deleteAll.visit s' m rs) := by
    induction rs with
    | nil => exact oblivious_pure _
    | cons r rest ih =>
      apply (echoes.delete r m).bind
      intro deleted
      obtain e | _ | _ := deleted
      · exact (oblivious_say _ _ _).bind fun _ => ih.bind fun _ => oblivious_pure _
      · exact ih.bind fun _ => oblivious_pure _
      · exact ih.bind fun _ => oblivious_pure _
  apply (visits _).bind
  intro outcomes
  dsimp only [id]
  split
  · exact (oblivious_say _ _ _).bind fun _ => oblivious_pure _
  · exact oblivious_pure _

theorem storeOne (echoes : Supplier.Echoes f s s') (spread : Spread) (source : Source S)
    (m : Metadata) : Action.Echoes (Except.map f) (Search.store s spread source m)
      (Search.store s' spread source m) := by
  unfold Search.store
  split
  · exact echoes.store _ source m
  · exact (oblivious_say _ _ _).bind fun _ => .done (Except.error _)

end Supplier.Echoes

namespace Catalog
variable {f : H → H'} {s : Supplier S H} {s' : Supplier S H'} (e : Expansion)
  (locations : List Location) (path : String) (l : Location) (m : Metadata)

theorem echoes_spreading {g : Except Failure α → Except Failure β}
    {go : Spread → Action S (Except Failure α)} {go' : Spread → Action S (Except Failure β)}
    (fails : ∀ why, g (.error why) = .error why)
    (goes : ∀ spread, Action.Echoes g (go spread) (go' spread)) :
    Action.Echoes g (spreading ⟨s, e⟩ locations path go)
      (spreading ⟨s', e⟩ locations path go') := by
  unfold spreading
  dsimp only
  cases e.spread locations path with
  | error why =>
    have ends : Action.Echoes g (pure (.error why) : Action S _) (pure (g (.error why))) := .done _
    rwa [fails] at ends
  | ok spread => exact goes spread

theorem echoes_retrieveFirst (echoes : Supplier.Echoes f s s') :
    Action.Echoes (Except.map (Option.map f)) (retrieveFirst ⟨s, e⟩ locations path m)
      (retrieveFirst ⟨s', e⟩ locations path m) :=
  echoes_spreading e locations path (fun _ => rfl) fun spread => echoes.retrieveFirst spread m

theorem echoes_retrieveAll (echoes : Supplier.Echoes f s s') :
    Action.Echoes (Except.map (List.map f)) (retrieveAll ⟨s, e⟩ locations path m)
      (retrieveAll ⟨s', e⟩ locations path m) :=
  echoes_spreading e locations path (fun _ => rfl) fun spread => echoes.retrieveAll spread m

theorem echoes_deleteReport (echoes : Supplier.Echoes f s s') :
    Action.Echoes id (deleteReport ⟨s, e⟩ locations path m)
      (deleteReport ⟨s', e⟩ locations path m) :=
  echoes_spreading e locations path (fun _ => rfl) fun spread =>
    (echoes.deleteAll spread m).bind fun _ => oblivious_pure _

theorem echoes_store (echoes : Supplier.Echoes f s s') (source : Source S) :
    Action.Echoes (Except.map f) (store ⟨s, e⟩ l path source m) (store ⟨s', e⟩ l path source m) :=
  echoes_spreading e [l] path (fun _ => rfl) fun spread => echoes.storeOne spread source m

theorem echoes_publish (echoes : Supplier.Echoes f s s') (source : Source S) (length : Nat)
    (contentType : String) : Action.Echoes id (publish ⟨s, e⟩ l path source length contentType)
      (publish ⟨s', e⟩ l path source length contentType) := by
  refine echoes_spreading e [l] path (fun _ => rfl) fun spread => ?_
  split
  · exact oblivious_pure _
  · exact (oblivious_say _ _ _).bind fun _ => echoes.publish _ source length contentType

theorem echoes_list (echoes : Supplier.Echoes f s s') :
    Action.Echoes id (list ⟨s, e⟩ l path) (list ⟨s', e⟩ l path) := by
  refine echoes_spreading e [l] path (fun _ => rfl) fun spread => ?_
  induction spread.resources with
  | nil => exact oblivious_pure _
  | cons r rest ih =>
    apply (echoes.list r).bind
    intro listed
    cases listed with
    | error => exact oblivious_pure _
    | ok names => exact ih.bind fun _ => oblivious_pure _

end Catalog
end
end ArtifactCache
