import ArtifactCache.Catalog
import ArtifactCache.Proofs.FileFilling
import ArtifactCache.Proofs.Outcomes

/-!
# What a failed store leaves

A download that fails is deleted, but a store that fails is not: once a writer was
granted, the resource has what came before the failure, and what it had before is gone.

* `Cache.delivered`: what a writer gets of a source, through the filter of the hooks;
* `Cache.Leaves`: what is left when storing fails, and when that is no harm;
  `Cache.Stored.leaves` reads it off the outcome;
* `Cache.Stores`: the ways to store, of which each is the store at its target;
* `Cache.failed_store_leaves_delivered`: both stores, in every state.
-/
namespace ArtifactCache

namespace Cache
variable {S R W : Type} {c : Cache S R W} {order : S → Prop} {named : Resource → Prop}
  {t : Thread} {r : Resource} {source : Source S} {m : Metadata} {w w' : World S} {s₁ : S}
  {result : Except Failure (Handle S R W)} {e : Failure}

/-- What the writer of the store gets of a source, up to its end or its failure, after what
the hook for writing has put in front. -/
def delivered (c : Cache S R W) (r : Resource) (source : Source S) (m : Metadata) (s : S) : Bytes :=
  Part.written ((c.handle r).parts .upload m (source s).bytes)

/-- Without hooks that is all that the source has yielded. -/
theorem delivered_of_plain (plain : c.hooks? = none) (r : Resource) (source : Source S)
    (m : Metadata) (s : S) : c.delivered r source m s = (source s).bytes :=
  Handle.written_parts (h := c.handle r) plain .upload m (source s).bytes

/-- A writer is granted, which leaves the store like this when the source is read. -/
def Grants (c : Cache S R W) (r : Resource) (m : Metadata) (w : World S) (s₁ : S) : Prop :=
  (w.locks.lockAt r.address).streaming = false ∧
    ∃ stream s₀, c.backend.openWriter r w.storage = (.ok stream, s₀) ∧
      ((c.handle r).begun .upload m stream s₀).2 = s₁

theorem Grants.unique {s₂ : S} (first : c.Grants r m w s₁) (second : c.Grants r m w s₂) :
    s₂ = s₁ := by
  obtain ⟨_, stream, s₀, opens, rfl⟩ := first
  obtain ⟨_, stream', s₀', opens', rfl⟩ := second
  cases opens'.symm.trans opens
  rfl

/-- **What is left** where storing has failed. -/
structure Leaves (c : Cache S R W) (r : Resource) (source : Source S) (m : Metadata)
    (w w' : World S) : Prop where
  granted (s₁ : S) : c.Grants r m w s₁ → c.backend.isFile r w'.storage = true ∧
    c.backend.content? r w'.storage = some (c.delivered r source m s₁)
  refused : (∀ s₁, ¬ c.Grants r m w s₁) → c.backend.Keeps r w.storage w'.storage
  /-- It is what was there, or no file, exactly if no writer was granted, or what was
  delivered is what was there. -/
  whole_iff : (c.backend.Keeps r w.storage w'.storage ∨ c.backend.isFile r w'.storage = false) ↔
    ∀ s₁, c.Grants r m w s₁ →
      c.backend.content? r w.storage = some (c.delivered r source m s₁)

/-- What was not granted is refused, and nothing happens; what was granted is filled. -/
theorem Stored.granted_or_refused (fills : c.backend.Fills order named) (ordered : order w.storage)
    (stored : c.Stored r source m (w.locks.lockAt r.address).streaming w.storage result
      w'.storage) :
    (∀ s₁, ¬ c.Grants r m w s₁) ∧ c.backend.Keeps r w.storage w'.storage ∨
    ∃ s₁, c.Grants r m w s₁ ∧ ((source s₁).fault? ≠ none → ∃ e, result = .error e) ∧
      c.backend.content? r w'.storage = some (c.delivered r source m s₁) := by
  cases stored with
  | busy streaming same =>
    refine .inl ⟨fun s₁ granted => ?_, same ▸ .refl _ r _⟩
    cases streaming.symm.trans granted.1
  | refused _ opens =>
    refine .inl ⟨fun s₁ ⟨_, stream, s₀, granted, _⟩ => ?_, fills.keepsFile ordered opens⟩
    cases opens.symm.trans granted
  | poured idle opens reached poured broken =>
    obtain ⟨_, content⟩ := fills.written
      ((c.handle r).parts .upload m (source _).bytes) ordered opens
    rw [← poured] at content
    exact .inr ⟨_, ⟨idle, _, _, opens, reached⟩, broken, content⟩

theorem Stored.leaves (fills : c.backend.Fills order named) (ordered : order w.storage)
    (stored : c.Stored r source m (w.locks.lockAt r.address).streaming w.storage result
      w'.storage) : c.Leaves r source m w w' := by
  obtain ⟨refused, keeps⟩ | ⟨s₁, granted, _, content⟩ := stored.granted_or_refused fills ordered
  · exact ⟨fun s₁ granted => absurd granted (refused s₁), fun _ => keeps,
      fun _ s₁ granted => absurd granted (refused s₁), fun _ => .inl keeps⟩
  have file : c.backend.isFile r w'.storage = true := by
    rw [fills.file, content]
    rfl
  refine ⟨fun s₂ granted₂ => ?_, fun refused => absurd granted (refused s₁), ?_,
    fun same => .inl ?_⟩
  · rw [granted.unique granted₂]
    exact ⟨file, content⟩
  · rintro (keeps | no_file) s₂ granted₂
    · rw [granted.unique granted₂, ← content, keeps.content]
    · cases file.symm.trans no_file
  · have before := same s₁ granted
    refine ⟨?_, content.trans before.symm⟩
    rw [file, fills.file, before]
    rfl

/-! ## The ways to store -/

/-- The ways to store a source, with the resource that it goes to: at a resource, at
several locations, and at a location that may be a group. -/
inductive Stores (c : Cache S R W) (t : Thread) (source : Source S) (m : Metadata) :
    Option Resource → Action S (Except Failure (Handle S R W)) → Prop
  | direct (r : Resource) : Stores c t source m (some r) (c.store t r source m)
  | search {target? : Option Resource} (spread : Spread) : Search.storageTarget? spread = target? →
    Stores c t source m target? (Search.store (c.supplier t) spread source m)
  | catalog {target? : Option Resource} (e : Expansion) (l : Location) (path : String) :
    (e.spread [l] path).toOption.bind Search.storageTarget? = target? →
    Stores c t source m target? (Catalog.store ⟨c.supplier t, e⟩ l path source m)

variable {p : Action S (Except Failure (Handle S R W))} {target? : Option Resource}

/-- Each way is the store at its target. -/
theorem Stores.eq_store (stores : c.Stores t source m (some r) p) :
    p = c.store t r source m := by
  cases stores with
  | direct => rfl
  | search spread target => simp [Search.store, target, supplier]
  | catalog e l path target =>
    cases spreads : e.spread [l] path with
    | error => simp [spreads, Except.toOption] at target
    | ok spread =>
      replace target : Search.storageTarget? spread = some r := by
        simpa [spreads, Except.toOption] using target
      simp [Catalog.store, Catalog.spreading, spreads, Search.store, target, supplier]

/-- Without a target, storing fails and nothing happens. -/
theorem Stores.refused (stores : c.Stores t source m none p) (w : World S) :
    ∃ e w', p.run w = .finished (.error e) w' ∧ w.Still w' := by
  have searched (spread : Spread) (target : Search.storageTarget? spread = none) :
      ∃ e w', (Search.store (c.supplier t) spread source m).run w = .finished (.error e) w' ∧
        w.Still w' := by
    unfold Search.store
    rw [target]
    exact ⟨_, _, rfl, ⟨rfl, rfl⟩⟩
  cases stores with
  | search spread target => exact searched spread target
  | catalog e l path target =>
    unfold Catalog.store Catalog.spreading
    dsimp only
    cases spreads : e.spread [l] path with
    | error e => exact ⟨e, w, rfl, .refl w⟩
    | ok spread => exact searched spread (by simpa [spreads, Except.toOption] using target)

/-- What is told of one way to store, from one state on. -/
structure TellsStore (c : Cache S R W) (t : Thread) (source : Source S) (m : Metadata)
    (target? : Option Resource) (p : Action S (Except Failure (Handle S R W))) (w : World S) :
    Prop where
  /-- It ends, unless a lock is in the way. -/
  ends : Locks.Open t w.locks → ∃ result w', p.run w = .finished result w'
  untargeted {result : Except Failure (Handle S R W)} {w' : World S} : target? = none →
    p.run w = .finished result w' → (∃ e, result = .error e) ∧ w'.storage = w.storage
  /-- A source that fails makes it fail. -/
  broken {r : Resource} {s₁ : S} {result : Except Failure (Handle S R W)} {w' : World S} :
    target? = some r → c.Grants r m w s₁ → (source s₁).fault? ≠ none →
    p.run w = .finished result w' → ∃ e, result = .error e
  leaves {r : Resource} {e : Failure} {w' : World S} : target? = some r →
    p.run w = .finished (.error e) w' → c.Leaves r source m w w'

theorem Stores.tells (fills : c.backend.Fills order named) (ordered : order w.storage)
    (stores : c.Stores t source m target? p) : c.TellsStore t source m target? p w := by
  cases target? with
  | none =>
    obtain ⟨e, w', ends, still⟩ := stores.refused w
    refine ⟨fun _ => ⟨_, w', ends⟩, fun _ ends' => ?_, nofun, nofun⟩
    obtain ⟨rfl, rfl⟩ := Program.Progress.finished.inj (ends.symm.trans ends')
    exact ⟨⟨e, rfl⟩, still.storage⟩
  | some r =>
    obtain rfl := stores.eq_store
    refine ⟨fun unlocked => ?_, nofun, fun {r' s₁ result w'} same granted fails ends => ?_,
      fun same ends => ?_⟩
    · have follows : Follows t .guards (fun _ => []) [] (c.store t r source m) :=
        (keeps_store r source m).follows
      obtain ⟨result, w', ends, _⟩ := follows.finishes unlocked
      exact ⟨result, w', ends⟩
    · obtain rfl := Option.some.inj same
      obtain ⟨stored, _⟩ := leads_store c t r source m w result w' ends
      obtain ⟨refused, _⟩ | ⟨s₂, granted₂, broken, _⟩ := stored.granted_or_refused fills ordered
      · exact absurd granted (refused s₁)
      · rw [granted₂.unique granted] at fails
        exact broken fails
    · obtain rfl := Option.some.inj same
      exact (leads_store c t r source m w _ _ ends).1.leaves fills ordered

/-- **A failed store leaves what it has delivered.** So it is in memory, and on disk as
long as the root stands; without hooks that is what the source has yielded. -/
theorem failed_store_leaves_delivered (calls : List Call) (t : Thread)
    (target? : Option Resource) (m : Metadata) :
    (∀ (linking : Bool) (c : Cache Memory Bytes Memory.Writer) (w : World Memory)
        (source : Source Memory) (p : Action Memory (Except Failure (Handle _ _ _))),
      c.backend = Memory.backend linking → w.storage = (Usage.after c.backend .empty calls).store →
      c.Stores t source m target? p → c.TellsStore t source m target? p w) ∧
    (∀ (f : Files) (c : Cache Disk Disk.Reader Disk.Writer) (d : Disk) (w : World Disk)
        (source : Source Disk) (p : Action Disk (Except Failure (Handle _ _ _))),
      c.backend = f.backend → d.Closed → d.Numbered → f.Rooted d calls →
      w.storage = (Usage.after c.backend d calls).store →
      c.Stores t source m target? p → c.TellsStore t source m target? p w) ∧
    ∀ (S R W : Type) (c : Cache S R W) (r : Resource) (source : Source S) (s : S),
      c.hooks? = none → c.delivered r source m s = (source s).bytes := by
  refine ⟨fun linking c w source p inside reached stores => ?_,
    fun f c d w source p inside closed numbered rooted reached stores => ?_,
    fun S R W c r source s plain => delivered_of_plain plain r source m s⟩
  · obtain ⟨fills, sound⟩ := Memory.fills_after inside reached
    exact stores.tells fills sound
  · obtain ⟨fills, standing⟩ := Files.fills_after inside closed numbered rooted reached
    exact stores.tells fills standing

/-- A source that fails after three bytes leaves these, on an empty disk and, stored at
the first of several locations that accepts stores, in memory. -/
theorem failed_store_leaves_three_bytes :
    let l : Location := { name := "l", uri := "file:///srv/l", acceptsStores := true }
    let r : Resource := .ofText l "r"
    let f : Files := { root := "/cache" }
    let onDisk : Cache Disk Disk.Reader Disk.Writer := { backend := f.backend }
    let inMemory : Cache Memory Bytes Memory.Writer := { backend := Memory.backend false }
    let spread : Spread := ⟨[{ name := "ro", uri := "file:///srv/ro" }, l], .ofText "r", by simp⟩
    let content : Content := { bytes := [97, 98, 99], fault? := some (.reported "reset") }
    (∃ e w, (onDisk.store 0 r (fun _ => content) ∅).run { storage := {} } =
        .finished (.error e) w ∧ f.backend.content? r w.storage = some [97, 98, 99]) ∧
    ∃ e w, (Search.store (inMemory.supplier 0) spread (fun _ => content) ∅).run
        { storage := .empty } = .finished (.error e) w ∧
      (Memory.backend false).content? r w.storage = some [97, 98, 99] := by
  intro l r f onDisk inMemory spread content
  obtain ⟨memory, disk, plainly⟩ := failed_store_leaves_delivered [] 0 (some r) ∅
  constructor
  · have tells := disk f onDisk {} { storage := {} } (fun _ => content) _ rfl Disk.closed_empty
      Disk.numbered_empty (Files.rooted_of_isAbsolute (by decide) (by decide) _ _) rfl (.direct r)
    obtain ⟨result, w, ends⟩ := tells.ends fun _ => rfl
    have opens : (f.backend.openWriter r {}).1.isOk = true := by decide +kernel
    rcases opened : f.backend.openWriter r {} with ⟨_ | stream, d₁⟩
    · rw [opened] at opens
      cases opens
    have granted : onDisk.Grants r ∅ { storage := {} } d₁ := ⟨rfl, stream, d₁, opened, rfl⟩
    obtain ⟨e, rfl⟩ := tells.broken rfl granted (by simp [content]) ends
    obtain ⟨_, left⟩ := (tells.leaves rfl ends).granted d₁ granted
    rw [plainly _ _ _ onDisk r _ d₁ rfl] at left
    exact ⟨e, w, ends, left⟩
  · have tells := memory false inMemory { storage := .empty } (fun _ => content) _ rfl rfl
      (.search spread rfl)
    obtain ⟨result, w, ends⟩ := tells.ends fun _ => rfl
    have granted : inMemory.Grants r ∅ { storage := .empty } _ := ⟨rfl, _, _, rfl, rfl⟩
    obtain ⟨e, rfl⟩ := tells.broken rfl granted (by simp [content]) ends
    obtain ⟨_, left⟩ := (tells.leaves rfl ends).granted _ granted
    rw [plainly _ _ _ inMemory r _ _ rfl] at left
    exact ⟨e, w, ends, left⟩

/-- Nothing was there before a store that fails, and what was read until then is there
afterwards. -/
theorem truncated_artifact_left_by_failed_store :
    let r : Resource := .ofText { name := "a", uri := "file:///srv/a" } "r"
    let c : Cache Memory Bytes Memory.Writer := { backend := Memory.backend false }
    let w : World Memory := { storage := .empty }
    let content : Content := { bytes := [97, 98, 99], fault? := some (.reported "reset") }
    c.backend.isFile r w.storage = false ∧
      ∃ e w', (c.store 0 r (fun _ => content) ∅).run w = .finished (.error e) w' ∧
        c.backend.isFile r w'.storage = true ∧
        c.backend.content? r w'.storage = some [97, 98, 99] := by
  intro r c w content
  have goes : ((c.store 0 r (fun _ => content) ∅).run w).passes (fun result w' =>
      !result.isOk && decide (c.backend.isFile r w'.storage = true ∧
        c.backend.content? r w'.storage = some [97, 98, 99])) = true := by decide +kernel
  obtain ⟨result, w', ends, left⟩ := Program.Progress.exists_of_passes goes
  obtain ⟨failed, left⟩ := Bool.and_eq_true_iff.1 left
  cases result with
  | ok => cases failed
  | error e => exact ⟨rfl, e, w', ends, of_decide_eq_true left⟩

end Cache
end ArtifactCache
