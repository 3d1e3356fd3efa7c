import ArtifactCache.Proofs.Copies
import ArtifactCache.Proofs.Failing

/-!
# Without links resources are isolated

Where aliases are copies no two resources have one file, so a call that is directed
at one of them leaves the others as they are, whether it succeeds or fails. Who
writes through a writer is directed at the resource that it was opened for.

* `Touches` is what a call may do that is directed at a place; `Touches.content` is
  that it leaves the other places alone, if every file has its own place
  (`Separate`), and `Touches.separate` that this stays so;
* `Isolates` says what the calls of a store have to do for that; `Isolates.after`
  follows a run, with the resources that its open writers belong to (`Owned`);
* `Memory.isolates`, `Files.isolates`: both stores do so while nothing is linked, the
  one on disk as long as its root stands.
-/
namespace ArtifactCache

variable {S R W : Type}

/-! ## Where calls are directed -/

/-- Only who asks for a writer is given one. -/
theorem Request.of_run_eq_some {b : Backend S R W} {s : S} {q : Request} {w : W}
    (granted : (q.run b s).1 = .ok (some w)) :
    ∃ r, q = .openWriter r ∧ (b.openWriter r s).1 = .ok w := by
  have nothing {α : Type} {outcome : Except Failure α × S}
      (granted : (keeping (fun _ => none) outcome).1 = .ok (some w)) : False := by
    obtain ⟨_ | _, _⟩ := outcome <;> cases granted
  cases q with
  | openWriter r =>
    refine ⟨r, rfl, ?_⟩
    simp only [run, keeping] at granted
    cases answer : (b.openWriter r s).1 <;> simp_all [Except.map]
  | copy | delete | mkdirs | createFile | createAlias => exact (nothing granted).elim

namespace Call

/-- The resource that a call is directed at, where the open writers were opened for
the resources `owners`. -/
def directed? (owners : List Resource) : Call → Option Resource
  | ask q => some q.target
  | write i _ | flush i | close i => owners[i]?

/-- The resources that the open writers belong to after a call. -/
def owners (b : Backend S R W) (u : Usage S W) (owners : List Resource) : Call → List Resource
  | ask q =>
    match (q.run b u.store).1 with
    | .ok (some _) => owners ++ [q.target]
    | _ => owners
  | write _ _ | flush _ => owners
  | close i => owners.eraseIdx i

end Call

namespace Usage

/-- What the calls make of a store, with the resources that the open writers belong to. -/
def tracked (b : Backend S R W) (s : S) (calls : List Call) : Usage S W × List Resource :=
  calls.foldl (fun (u, owners) call => (u.perform b call, call.owners b u owners))
    ({ store := s }, [])

/-- The resources that the open writers belong to, the oldest first. -/
def owners (b : Backend S R W) (s : S) (calls : List Call) : List Resource :=
  (tracked b s calls).2

theorem fst_tracked (b : Backend S R W) (s : S) (calls : List Call) :
    (tracked b s calls).1 = after b s calls := by
  induction calls using List.reverseRecOn with
  | nil => rfl
  | append_singleton calls call ih =>
    rw [after_append_singleton, ← ih]
    simp [tracked]

theorem owners_append_singleton (b : Backend S R W) (s : S) (calls : List Call) (call : Call) :
    owners b s (calls ++ [call]) = call.owners b (after b s calls) (owners b s calls) := by
  rw [← fst_tracked]
  simp [owners, tracked]

end Usage

/-! ## Changes at one place -/

namespace Numbering
variable (N : Numbering S W) (fresh : S → Nat) (same : Address → Address → Prop)

/-- What a call may do that is directed at a place. The names elsewhere keep their
numbers. Those of the place keep theirs or get new ones, and if no name of the place
led to the number of another name before, then that has its bytes. -/
structure Touches (place : Address → Prop) (s s' : S) : Prop where
  grows : fresh s ≤ fresh s'
  elsewhere (b : Address) : ¬ place b → N.number? b s' = N.number? b s
  here (a : Address) (k : Nat) : place a → N.number? a s' = some k →
    N.number? a s = some k ∨ fresh s ≤ k
  bytes (b : Address) (k : Nat) : ¬ place b → N.number? b s = some k → k < fresh s →
    (∀ a, place a → N.number? a s ≠ some k) → N.bytes s' k = N.bytes s k

/-- Names of one file are names of one place. -/
def Separate (s : S) : Prop :=
  ∀ a b k, N.number? a s = some k → N.number? b s = some k → same a b

/-- The numbers that are in use come before the new ones. -/
def Issued (s : S) : Prop := ∀ a k, N.number? a s = some k → k < fresh s

variable {N fresh same} {place : Address → Prop} {a b c : Address} {k : Nat} {bytes : Bytes}
  {s s₁ s' : S}

namespace Touches

theorem of_alike (alike : N.Alike s s') (grows : fresh s ≤ fresh s') :
    N.Touches fresh place s s' where
  grows := grows
  elsewhere b _ := alike.number b
  here a _ _ number := .inl ((alike.number a).symm.trans number)
  bytes _ k _ _ _ _ := alike.bytes k

theorem refl (s : S) : N.Touches fresh place s s := .of_alike (.refl s) (Nat.le_refl _)

theorem trans (first : N.Touches fresh place s s₁) (second : N.Touches fresh place s₁ s') :
    N.Touches fresh place s s' where
  grows := first.grows.trans second.grows
  elsewhere b other := (second.elsewhere b other).trans (first.elsewhere b other)
  here a k at_place number := by
    obtain old | new := second.here a k at_place number
    · exact first.here a k at_place old
    · exact .inr (first.grows.trans new)
  bytes b k other number issued apart := by
    have still := first.bytes b k other number issued apart
    refine (second.bytes b k other ((first.elsewhere b other).trans number)
      (Nat.lt_of_lt_of_le issued first.grows) fun a at_place led => ?_).trans still
    obtain old | new := first.here a k at_place led
    · exact apart a at_place old
    · exact Nat.not_lt.2 new issued

/-- Bytes are put at the place, under its number or a new one. -/
theorem of_puts (puts : N.Puts place k bytes s s') (at_place : place a)
    (takes : (∀ a, place a → N.number? a s = some k) ∨ fresh s ≤ k)
    (grows : fresh s ≤ fresh s') : N.Touches fresh place s s' where
  grows := grows
  elsewhere := puts.renames.elsewhere
  here a' j at_place' number := by
    obtain rfl := Option.some.inj ((puts.renames.here a' at_place').symm.trans number)
    exact takes.imp (fun old => old a' at_place') id
  bytes b j _ _ issued apart := by
    refine puts.rest j fun eq => ?_
    obtain old | new := takes
    · exact apart a at_place (eq ▸ old a at_place)
    · exact Nat.not_lt.2 new (eq ▸ issued)

/-- The file of the place is taken away. -/
theorem of_gone (gone : N.Renames place none s s') (bytes : ∀ k, N.bytes s' k = N.bytes s k)
    (grows : fresh s ≤ fresh s') : N.Touches fresh place s s' where
  grows := grows
  elsewhere := gone.elsewhere
  here a _ at_place number := by cases (gone.here a at_place).symm.trans number
  bytes _ k _ _ _ _ := bytes k

/-- What is at another place stays as it is. -/
theorem content (touches : N.Touches fresh (same · c) s s') (equiv : Equivalence same)
    (separate : N.Separate same s) (issued : N.Issued fresh s) (other : ¬ same b c) :
    N.content? b s' = N.content? b s := by
  rw [content?, content?, touches.elsewhere b other]
  cases number : N.number? b s with
  | none => rfl
  | some k =>
    have apart (a : Address) (at_place : same a c) : N.number? a s ≠ some k := fun led =>
      other (equiv.trans (separate b a k number led) at_place)
    rw [Option.map_some, Option.map_some,
      touches.bytes b k other number (issued b k number) apart]

/-- Names of one file are still names of one place: a new number has no other names. -/
theorem separate (touches : N.Touches fresh (same · c) s s') (equiv : Equivalence same)
    (separate : N.Separate same s) (issued : N.Issued fresh s) : N.Separate same s' := by
  -- Of two names, one of the place and one elsewhere, the first cannot have a new number.
  have mixed {a b : Address} {k : Nat} (at_place : same a c) (other : ¬ same b c)
      (number_a : N.number? a s' = some k) (number_b : N.number? b s' = some k) : same a b := by
    rw [touches.elsewhere b other] at number_b
    obtain old | new := touches.here a k at_place number_a
    · exact separate a b k old number_b
    · exact absurd (issued b k number_b) (Nat.not_lt.2 new)
  intro a b k number_a number_b
  by_cases at_a : same a c <;> by_cases at_b : same b c
  · exact equiv.trans at_a (equiv.symm at_b)
  · exact mixed at_a at_b number_a number_b
  · exact equiv.symm (mixed at_b at_a number_b number_a)
  · rw [touches.elsewhere a at_a] at number_a
    rw [touches.elsewhere b at_b] at number_b
    exact separate a b k number_a number_b

end Touches

/-- What the calls of a store have to do so that its resources are isolated, as long
as it is in order; `owns` is what makes a writer one of the resource. -/
structure Isolates (N : Numbering S W) (fresh : S → Nat) (same : Address → Address → Prop)
    (b : Backend S R W) (order : S → Prop) (owns : Resource → W → S → Prop) : Prop where
  equiv : Equivalence same
  issued {s : S} : order s → N.Issued fresh s
  ask {q : Request} {s : S} : order s → order (q.run b s).2 →
    N.Touches fresh (same · q.target.address) s (q.run b s).2
  granted {q : Request} {s : S} {w : W} : order s → order (q.run b s).2 →
    N.Separate same (q.run b s).2 → (q.run b s).1 = .ok (some w) → owns q.target w (q.run b s).2
  write {r : Resource} {w : W} {s : S} (bytes : Bytes) : order s → owns r w s →
    N.Touches fresh (same · r.address) s (b.write w bytes s).2 ∧
      owns r (b.write w bytes s).1 (b.write w bytes s).2
  flush {r : Resource} {w : W} {s : S} : order s → owns r w s →
    N.Touches fresh (same · r.address) s (b.flush w s).2 ∧ owns r (b.flush w s).1 (b.flush w s).2
  close {r : Resource} {w : W} {s : S} : order s → owns r w s →
    N.Touches fresh (same · r.address) s (b.closeWriter w s)
  stays {r : Resource} {w : W} {s s' : S} {place : Address → Prop} :
    N.Touches fresh place s s' → owns r w s → owns r w s'

end Numbering

/-! ## Runs -/

/-- Each open writer is one of the resource that it was opened for. -/
structure Usage.Owned (owns : Resource → W → S → Prop) (owners : List Resource)
    (u : Usage S W) : Prop where
  length : owners.length = u.writers.length
  owns (i : Nat) (r : Resource) (w : W) : owners[i]? = some r → u.writers[i]? = some w →
    owns r w u.store

namespace Usage.Owned
variable {owns : Resource → W → S → Prop} {owners : List Resource} {u : Usage S W} {i : Nat}
  {r : Resource} {w : W}

theorem exists_owner (owned : u.Owned owns owners) (found : u.writers[i]? = some w) :
    ∃ r, owners[i]? = some r ∧ owns r w u.store := by
  obtain ⟨bound, _⟩ := List.getElem?_eq_some_iff.1 found
  rw [← owned.length] at bound
  have owner := List.getElem?_eq_getElem bound
  exact ⟨_, owner, owned.owns i _ w owner found⟩

theorem eq_none (owned : u.Owned owns owners) (missing : u.writers[i]? = none) :
    owners[i]? = none := by
  rw [List.getElem?_eq_none_iff] at missing ⊢
  exact owned.length ▸ missing

theorem moves {s' : S} (owned : u.Owned owns owners)
    (stays : ∀ r w, owns r w u.store → owns r w s') :
    Owned owns owners { u with store := s' } :=
  ⟨owned.length, fun i r w owner found => stays r w (owned.owns i r w owner found)⟩

theorem set (owned : u.Owned owns owners) (owner : owners[i]? = some r) (own : owns r w u.store) :
    Owned owns owners { u with writers := u.writers.set i w } := by
  refine ⟨by simp [owned.length], fun j r' w' owner' found => ?_⟩
  obtain rfl | other := eq_or_ne i j
  · obtain rfl := Option.some.inj (owner.symm.trans owner')
    obtain ⟨bound, rfl⟩ := List.getElem?_eq_some_iff.1 found
    simpa using own
  · rw [List.getElem?_set_ne other] at found
    exact owned.owns j r' w' owner' found

theorem append (owned : u.Owned owns owners) (own : owns r w u.store) :
    Owned owns (owners ++ [r]) { u with writers := u.writers ++ [w] } := by
  refine ⟨by simp [owned.length], fun j r' w' owner' found => ?_⟩
  have length := owned.length
  simp only [List.getElem?_append, List.getElem?_singleton] at owner' found
  split at owner'
  · next old =>
    rw [if_pos (length ▸ old)] at found
    exact owned.owns j r' w' owner' found
  · next new =>
    rw [if_neg (length ▸ new)] at found
    split at owner' <;> split at found <;> simp_all

theorem eraseIdx (owned : u.Owned owns owners) (i : Nat) :
    Owned owns (owners.eraseIdx i) { u with writers := u.writers.eraseIdx i } := by
  refine ⟨by simp [List.length_eraseIdx, owned.length], fun j r w owner found => ?_⟩
  simp only [List.getElem?_eraseIdx] at owner found
  split at owner
  · next before =>
    rw [if_pos before] at found
    exact owned.owns j r w owner found
  · next behind =>
    rw [if_neg behind] at found
    exact owned.owns (j + 1) r w owner found

end Usage.Owned

namespace Numbering.Isolates
variable {N : Numbering S W} {fresh : S → Nat} {same : Address → Address → Prop}
  {b : Backend S R W} {order : S → Prop} {owns : Resource → W → S → Prop} {u : Usage S W}
  {owners : List Resource}

/-- A store before and after a call, of which `directed?` is what it was directed at. -/
structure Step (N : Numbering S W) (fresh : S → Nat) (same : Address → Address → Prop)
    (owns : Resource → W → S → Prop) (directed? : Option Resource) (owners : List Resource)
    (u u' : Usage S W) : Prop where
  touches (r : Resource) : directed? = some r →
    N.Touches fresh (same · r.address) u.store u'.store
  separate : N.Separate same u'.store
  owned : u'.Owned owns owners

theorem step_of_touches (isolates : N.Isolates fresh same b order owns) {u' : Usage S W}
    {r : Resource} {owners' : List Resource} (before : order u.store)
    (separate : N.Separate same u.store)
    (touches : N.Touches fresh (same · r.address) u.store u'.store)
    (owned : u'.Owned owns owners') : Step N fresh same owns (some r) owners' u u' where
  touches _ directed := Option.some.inj directed ▸ touches
  separate := touches.separate isolates.equiv separate (isolates.issued before)
  owned := owned

/-- Nothing is done with a writer that is not there. -/
theorem step_of_missing {i : Nat} (separate : N.Separate same u.store)
    (owned : u.Owned owns owners) (missing : u.writers[i]? = none) :
    Step N fresh same owns owners[i]? owners u u where
  touches r directed := by cases (owned.eq_none missing).symm.trans directed
  separate := separate
  owned := owned

/-- What is done with an open writer is directed at the resource that it was opened for. -/
theorem step_of_use (isolates : N.Isolates fresh same b order owns) {u' : Usage S W} {i : Nat}
    {w : W} {owners' : List Resource} (before : order u.store) (separate : N.Separate same u.store)
    (owned : u.Owned owns owners) (found : u.writers[i]? = some w)
    (uses : ∀ r, owners[i]? = some r → owns r w u.store →
      N.Touches fresh (same · r.address) u.store u'.store ∧ u'.Owned owns owners') :
    Step N fresh same owns owners[i]? owners' u u' := by
  obtain ⟨r, owner, own⟩ := owned.exists_owner found
  obtain ⟨touches, owned'⟩ := uses r owner own
  rw [owner]
  exact isolates.step_of_touches before separate touches owned'

/-- **One call.** It touches the place that it is directed at; every file still has
its own place, and every open writer its resource. -/
theorem perform (isolates : N.Isolates fresh same b order owns) (call : Call)
    (before : order u.store) (behind : order (u.perform b call).store)
    (separate : N.Separate same u.store) (owned : u.Owned owns owners) :
    Step N fresh same owns (call.directed? owners) (call.owners b u owners) u
      (u.perform b call) := by
  cases call with
  | ask q =>
    rw [Usage.store_perform_ask] at behind
    have touches := isolates.ask before behind
    have separate' := touches.separate isolates.equiv separate (isolates.issued before)
    refine isolates.step_of_touches before separate
      (by rwa [Usage.store_perform_ask]) ?_
    have moved := owned.moves (fun r w => isolates.stays (r := r) (w := w) touches)
    have granted (w : W) := isolates.granted (w := w) before behind separate'
    rcases outcome : q.run b u.store with ⟨e | writer?, s'⟩
    · simpa [Usage.perform, Call.owners, outcome] using moved
    · rw [outcome] at moved granted
      cases writer? with
      | none => simpa [Usage.perform, Call.owners, outcome] using moved
      | some w => simpa [Usage.perform, Call.owners, outcome] using moved.append (granted w rfl)
  | write i bytes =>
    unfold Usage.perform
    dsimp only [Call.directed?, Call.owners]
    cases found : u.writers[i]? with
    | none => exact step_of_missing separate owned found
    | some w =>
      refine isolates.step_of_use before separate owned found fun r owner own => ?_
      obtain ⟨touches, own'⟩ := isolates.write bytes before own
      exact ⟨touches, (owned.moves fun r w => isolates.stays touches).set owner own'⟩
  | flush i =>
    unfold Usage.perform
    dsimp only [Call.directed?, Call.owners]
    cases found : u.writers[i]? with
    | none => exact step_of_missing separate owned found
    | some w =>
      refine isolates.step_of_use before separate owned found fun r owner own => ?_
      obtain ⟨touches, own'⟩ := isolates.flush before own
      exact ⟨touches, (owned.moves fun r w => isolates.stays touches).set owner own'⟩
  | close i =>
    unfold Usage.perform
    dsimp only [Call.directed?, Call.owners]
    cases found : u.writers[i]? with
    | none =>
      rw [List.eraseIdx_of_length_le (List.getElem?_eq_none_iff.1 (owned.eq_none found))]
      exact step_of_missing separate owned found
    | some w =>
      refine isolates.step_of_use before separate owned found fun r _ own => ?_
      have touches := isolates.close before own
      exact ⟨touches, (owned.moves fun r w => isolates.stays touches).eraseIdx i⟩

/-- **A run.** As long as the store is in order, every file has its own place, and
every open writer its resource. -/
theorem after (isolates : N.Isolates fresh same b order owns) {s : S} {calls : List Call}
    (ordered : ∀ done, done <+: calls → order (Usage.after b s done).store)
    (start : N.Separate same s) :
    N.Separate same (Usage.after b s calls).store ∧
      (Usage.after b s calls).Owned owns (Usage.owners b s calls) := by
  induction calls using List.reverseRecOn with
  | nil => exact ⟨start, rfl, fun i r w owner => by simp [Usage.owners, Usage.tracked] at owner⟩
  | append_singleton calls call ih =>
    obtain ⟨separate, owned⟩ := ih fun done le => ordered done (le.trans (List.prefix_append _ _))
    have before := ordered calls (List.prefix_append _ _)
    have behind := ordered _ List.prefix_rfl
    rw [Usage.after_append_singleton] at behind ⊢
    rw [Usage.owners_append_singleton]
    have step := isolates.perform call before behind separate owned
    exact ⟨step.separate, step.owned⟩

/-- What is elsewhere is as it was before the call. -/
theorem content (isolates : N.Isolates fresh same b order owns) {s : S} {calls : List Call}
    {call : Call} {r : Resource} {a : Address}
    (ordered : ∀ done, done <+: calls ++ [call] → order (Usage.after b s done).store)
    (start : N.Separate same s) (directed : call.directed? (Usage.owners b s calls) = some r)
    (other : ¬ same a r.address) :
    N.content? a (Usage.after b s (calls ++ [call])).store
      = N.content? a (Usage.after b s calls).store := by
  obtain ⟨separate, owned⟩ :=
    isolates.after (fun done le => ordered done (le.trans (List.prefix_append _ _))) start
  have before := ordered calls (List.prefix_append _ _)
  have behind := ordered _ List.prefix_rfl
  rw [Usage.after_append_singleton] at behind ⊢
  exact ((isolates.perform call before behind separate owned).touches r directed).content
    isolates.equiv separate (isolates.issued before) other

end Numbering.Isolates

/-! ## In memory -/

namespace Memory
variable {m m' : Memory} {r source target : Resource}

/-- What a call does that is directed at a resource. -/
abbrev Touches (r : Resource) : Memory → Memory → Prop :=
  numbering.Touches Memory.fresh (· = r.address)

theorem touches_commit (r : Resource) (bytes : Bytes) (m : Memory) :
    Touches r m (m.commit r.address bytes) := by
  refine .of_puts (puts_commit r.address bytes m) rfl ?_ ?_
  · cases number : numbering.number? r.address m with
    | none => exact .inr (Nat.le_refl _)
    | some k => exact .inl fun a here => here ▸ number
  · unfold commit
    split
    · exact Nat.le_refl _
    · exact Nat.le_succ _

theorem touches_directories (r : Resource) (m : Memory) (directories : List Address) :
    Touches r m { m with directories } :=
  .of_alike ⟨fun _ => rfl, fun _ => rfl⟩ (Nat.le_refl _)

theorem touches_unlessBarred {α : Type} {activity : Activity} {go : Except Failure α × Memory}
    (touches : Touches r m go.2) : Touches r m (unlessBarred activity target m go).2 := by
  obtain same | went := unlessBarred_cases activity target m go
  · rw [same]
    exact .refl m
  · rwa [went]

theorem touches_copy (source target : Resource) (m : Memory) :
    Touches target m (m.copy source target).2 := by
  unfold copy
  split
  · exact .refl m
  · exact touches_unlessBarred (touches_commit target _ m)

/-- Without links a request changes the file of the resource that it is directed at. -/
theorem touches_run (q : Request) (m : Memory) :
    Touches q.target m (q.run (backend false) m).2 := by
  cases q <;> simp only [Request.run, Request.snd_keeping, Request.target, backend]
  case openWriter r =>
    refine touches_unlessBarred ?_
    split
    · exact .refl m
    · exact touches_commit r [] m
  case copy source target => exact touches_copy source target m
  case delete r =>
    unfold delete
    dsimp only
    split
    · exact .of_gone (renames_erase m r.address) (fun _ => rfl) (Nat.le_refl _)
    split
    · exact .refl m
    · exact touches_directories r m _
  case mkdirs r =>
    unfold mkdirs
    split
    · exact .refl m
    · exact touches_unlessBarred (touches_directories r m _)
  case createFile r =>
    unfold createFile
    split
    · exact .refl m
    · exact touches_unlessBarred (touches_commit r [] m)
  case createAlias source target =>
    unfold createAlias
    split
    · exact .refl m
    · exact touches_copy source target m

theorem touches_publish {w : Writer} (own : w.resource = r) : Touches r m (publish w m) := by
  unfold publish
  split
  · rw [own]
    exact touches_commit r _ m
  · exact .refl m

/-- A writer has the name of its resource. -/
theorem isolates : numbering.Isolates Memory.fresh Eq (backend false) numbering.sound
    fun r w _ => w.resource = r where
  equiv := eq_equivalence
  issued sound := sound
  ask _ _ := touches_run _ _
  granted _ _ _ granted := by
    obtain ⟨r, rfl, opened⟩ := Request.of_run_eq_some granted
    rw [(of_openWriter_eq_ok opened).1]
    rfl
  write _ _ own := ⟨.refl _, own⟩
  flush _ own := ⟨touches_publish own, own⟩
  close _ own := touches_publish own
  stays _ own := own

end Memory

/-! ## On disk -/

namespace Files
variable {f : Files} {d d' : Disk} {home : List PathText} {r source target : Resource}
  {w : Disk.Writer}

/-- What a call does that is directed at a resource, or at another of its place. -/
abbrev Touches (f : Files) (r : Resource) : Disk → Disk → Prop :=
  f.numbering.Touches Disk.fresh (SamePlace · r.address)

theorem touches_setBody (standing : f.Standing home d) {n : Nat} (bytes : Bytes)
    (number : f.numbering.number? r.address d = some n) : f.Touches r d (d.setBody n bytes) :=
  .of_puts (puts_setBody standing bytes number) rfl
    (.inl fun _ here => (standing.number?_congr here).trans number) (Nat.le_refl _)

theorem touches_addFile (standing : f.Standing home d) {path : List PathText}
    (found : d.locate (f.placeOf r) = .ok path) (plain : (f.placeOf r).wantsDirectory = false)
    (empty : d.node? path = none) : f.Touches r d (d.addFile path) :=
  .of_puts (standing_addFile standing found plain empty).2 rfl (.inr (Nat.le_refl _))
    (Nat.le_succ _)

theorem touches_removeNode (standing : f.Standing home d) {path : List PathText} {n : Nat}
    (found : d.locate (f.placeOf r) = .ok path) (node : d.node? path = some (.file n))
    (plain : (f.placeOf r).wantsDirectory = false) : f.Touches r d (d.removeNode path) :=
  .of_gone (standing_removeNode standing found node plain).2 (fun _ => rfl) (Nat.le_refl _)

theorem touches_create (standing : f.Standing home d) (r : Resource) :
    f.Touches r d (d.create (f.placeOf r)).2 := by
  cases created : (d.create (f.placeOf r)).1 with
  | error fault =>
    rw [Disk.create_of_error created]
    exact .refl d
  | ok n =>
    obtain ⟨number, eq⟩ | ⟨path, found, plain, empty, rfl, eq⟩ := Disk.of_create_eq_ok created
    · rw [eq]
      exact touches_setBody standing [] number
    · rw [eq]
      obtain ⟨standing', puts⟩ := standing_addFile standing found plain empty
      exact (touches_addFile standing found plain empty).trans
        (touches_setBody standing' [] (puts.renames.here _ rfl))

theorem touches_copyFile (standing : f.Standing home d) (p : Place) (r : Resource) :
    f.Touches r d (d.copyFile p (f.placeOf r)).2 := by
  unfold Disk.copyFile
  split
  · exact .refl d
  · exact .refl d
  · have touches := touches_create standing r
    rcases created : d.create (f.placeOf r) with ⟨fault | m, d'⟩
    · rwa [created] at touches
    · rw [created] at touches
      obtain ⟨standing', puts, _⟩ := puts_create standing created
      exact touches.trans (touches_setBody standing' _ (puts.renames.here _ rfl))

theorem touches_withParent {α : Type} {activity : Activity} {go : Disk → Except Failure α × Disk}
    (standing : f.Standing home d)
    (touches : ∀ d, f.Standing home d → f.Touches r d (go d).2) :
    f.Touches r d (withParent activity (f.placeOf r) d go).2 := by
  obtain ⟨d₁, standing₁, grows, alike, ⟨e, stopped⟩ | went⟩ :=
    standing_withParent standing activity r go
  · rw [stopped]
    exact .of_alike alike grows.fresh.ge
  · rw [went]
    exact .trans (.of_alike alike grows.fresh.ge) (touches d₁ standing₁)

theorem touches_copy (standing : f.Standing home d) (source target : Resource) :
    f.Touches target d (f.copy source target d).2 := by
  unfold copy
  dsimp only
  split
  · exact .refl d
  refine touches_withParent standing fun d standing => ?_
  cases file : d.isFile (f.placeOf target) with
  | false =>
    rw [replacing_of_not_isFile file, snd_reporting]
    exact touches_copyFile standing _ target
  | true =>
    obtain ⟨path, n, found, node, plain⟩ := exists_of_isFile file
    rw [replacing_of_isFile found file, snd_reporting]
    exact (touches_removeNode standing found node plain).trans
      (touches_copyFile (standing_removeNode standing found node plain).1 _ target)

theorem touches_delete (standing : f.Standing home d) (r : Resource)
    (sound : f.Sound (f.delete r d).2) (stands : f.Stands (f.delete r d).2) :
    f.Touches r d (f.delete r d).2 := by
  obtain ⟨_, alike, fresh⟩ | ⟨path, n, found, node, plain, removed⟩ :=
    delete_cases standing r sound stands
  · exact .of_alike alike fresh.ge
  · rw [removed]
    exact touches_removeNode standing found node plain

theorem touches_mkdirs (standing : f.Standing home d) (r : Resource) :
    f.Touches r d (f.mkdirs r d).2 := by
  have sound := sound_mkdirs standing.sound r
  rw [mkdirs, snd_reporting] at sound ⊢
  have grows := Disk.grows_makeDirectories (f.placeOf r) d
  exact .of_alike (standing_grows standing grows sound).2 grows.fresh.ge

theorem touches_createFile (standing : f.Standing home d) (r : Resource) :
    f.Touches r d (f.createFile r d).2 := by
  refine touches_withParent standing fun d standing => ?_
  have opened : f.Touches r d (d.openForWriting (f.placeOf r)).2 := by
    obtain same | ⟨path, found, plain, empty, eq⟩ := Disk.openForWriting_cases (f.placeOf r) d
    · rw [same]
      exact .refl d
    · rw [eq]
      exact touches_addFile standing found plain empty
  generalize d.openForWriting (f.placeOf r) = outcome at opened ⊢
  split <;> exact opened

theorem touches_openWriter (standing : f.Standing home d) (r : Resource) :
    f.Touches r d (f.openWriter r d).2 := by
  refine touches_withParent standing fun d standing => ?_
  have created := touches_create standing r
  generalize d.create (f.placeOf r) = outcome at created ⊢
  split <;> exact created

theorem touches_createAlias (copying : f.linking = false) (standing : f.Standing home d)
    (source target : Resource) : f.Touches target d (f.createAlias source target d).2 := by
  unfold createAlias
  simp only [copying, Bool.not_false, if_true]
  split
  · exact .refl d
  · exact touches_copy standing source target

/-- Without links a request changes the file of the place that it is directed at. -/
theorem touches_run (copying : f.linking = false) (standing : f.Standing home d) (q : Request)
    (sound : f.Sound (q.run f.backend d).2) (stands : f.Stands (q.run f.backend d).2) :
    f.Touches q.target d (q.run f.backend d).2 := by
  cases q <;> simp only [Request.run, Request.snd_keeping, Request.target] at sound stands ⊢
  case openWriter r => exact touches_openWriter standing r
  case copy source target => exact touches_copy standing source target
  case delete r => exact touches_delete standing r sound stands
  case mkdirs r => exact touches_mkdirs standing r
  case createFile r => exact touches_createFile standing r
  case createAlias source target => exact touches_createAlias copying standing source target

/-- The writer has a number that was issued and that only names of the place lead to;
the file may have been deleted since it was opened. -/
structure Owns (f : Files) (r : Resource) (w : Disk.Writer) (d : Disk) : Prop where
  issued : w.body < d.fresh
  names (a : Address) : f.numbering.number? a d = some w.body → SamePlace a r.address

namespace Owns

theorem setBody (owns : f.Owns r w d) (bytes : Bytes) : f.Owns r w (d.setBody w.body bytes) where
  issued := owns.issued
  names a number := owns.names a ((Disk.number?_setBody d w.body bytes _).symm.trans number)

theorem touches (owns : f.Owns r w d) (bytes : Bytes) :
    f.Touches r d (d.setBody w.body bytes) where
  grows := Nat.le_refl _
  elsewhere a _ := Disk.number?_setBody d w.body bytes _
  here a _ _ number := .inl ((Disk.number?_setBody d w.body bytes _).symm.trans number)
  bytes a k other number _ _ := by
    have apart : w.body ≠ k := fun eq => other (owns.names a (eq ▸ number))
    exact (Disk.body_setBody d w.body k bytes).trans (if_neg apart)

/-- No other call gives the number of an open writer to a name. -/
theorem stays {place : Address → Prop} (touches : f.numbering.Touches Disk.fresh place d d')
    (owns : f.Owns r w d) : f.Owns r w d' where
  issued := Nat.lt_of_lt_of_le owns.issued touches.grows
  names a number := by
    by_cases here : place a
    · obtain old | new := touches.here a _ here number
      · exact owns.names a old
      · exact absurd owns.issued (Nat.not_lt.2 new)
    · exact owns.names a ((touches.elsewhere a here).symm.trans number)

/-- Whatever a writer delivers goes to its own place. -/
theorem write (owns : f.Owns r w d) (bytes : Bytes) :
    f.Owns r w (w.write bytes d).2 ∧ f.Touches r d (w.write bytes d).2 :=
  w.keeps_write (Q := fun d' => f.Owns r w d' ∧ f.Touches r d d')
    (fun _ bytes here => ⟨here.1.setBody bytes, here.2.trans (here.1.touches bytes)⟩) bytes
    ⟨owns, .refl d⟩

theorem flush (owns : f.Owns r w d) :
    f.Owns r w (w.flush d).2 ∧ f.Touches r d (w.flush d).2 :=
  w.keeps_flush (Q := fun d' => f.Owns r w d' ∧ f.Touches r d d')
    (fun _ bytes here => ⟨here.1.setBody bytes, here.2.trans (here.1.touches bytes)⟩)
    ⟨owns, .refl d⟩

/-- It is the number that makes the writer. -/
theorem congr {w' : Disk.Writer} (owns : f.Owns r w d) (body : w'.body = w.body) :
    f.Owns r w' d := ⟨body ▸ owns.issued, fun a number => owns.names a (body ▸ number)⟩

end Owns

theorem equivalence_samePlace : Equivalence SamePlace :=
  ⟨fun _ => rfl, Eq.symm, Eq.trans⟩

theorem isolates (copying : f.linking = false) :
    f.numbering.Isolates Disk.fresh SamePlace f.backend (fun d => ∃ home, f.Standing home d)
      f.Owns where
  equiv := equivalence_samePlace
  issued order _ _ number := by
    obtain ⟨_, standing⟩ := order
    exact standing.numbered.number? number
  ask order behind := by
    obtain ⟨_, standing⟩ := order
    obtain ⟨_, standing'⟩ := behind
    exact touches_run copying standing _ standing'.sound standing'.stands.stands
  granted order behind separate granted := by
    obtain ⟨_, standing⟩ := order
    obtain ⟨_, standing'⟩ := behind
    obtain ⟨r, rfl, opened⟩ := Request.of_run_eq_some granted
    have number := (confined_openWriter standing r).2 _ opened
    exact ⟨standing'.numbered.number? number, fun a led => separate a _ _ led number⟩
  write bytes _ owns :=
    ⟨(owns.write bytes).2, (owns.write bytes).1.congr (Disk.Writer.body_write _ bytes _)⟩
  flush {r w d} _ owns :=
    ⟨owns.flush.2, owns.flush.1.congr (Disk.Writer.body_deliver { w with pending := [] } _ d)⟩
  close _ owns := owns.flush.2
  stays := Owns.stays

end Files

/-- **Without links resources are isolated.** After any calls a call is directed at a
resource, be it a request or the use of a writer that was opened for it. Whether it
succeeds or fails, every other resource is a file if it was one, with the bytes that
it had. In memory that is always so. On disk it is so as long as the root stands, as
an absolute root does that does not lead up. -/
theorem resources_are_isolated (calls : List Call) (call : Call) (r q : Resource)
    (other : q.same r = false) :
    let b := Memory.backend false
    (call.directed? (Usage.owners b .empty calls) = some r →
      b.Keeps q (Usage.after b .empty calls).store
        (Usage.after b .empty (calls ++ [call])).store) ∧
    (∀ (f : Files) (d : Disk), f.linking = false → d.Closed → d.Numbered →
      (∀ p, f.backend.isFile p d = false) → f.Rooted d (calls ++ [call]) →
      r.location.uri ≠ "" → q.location.uri ≠ "" →
      call.directed? (Usage.owners f.backend d calls) = some r →
      f.backend.Keeps q (Usage.after f.backend d calls).store
        (Usage.after f.backend d (calls ++ [call])).store) ∧
    ∀ (f : Files) (d : Disk), (PathText.text f.root).isAbsolute = true →
      (∀ name ∈ Place.stepsOf (.text f.root), name ≠ .text "..") →
      f.Rooted d (calls ++ [call]) := by
  intro b
  refine ⟨?_, ?_, fun f d absolute forward => Files.rooted_of_isAbsolute absolute forward d _⟩
  · intro directed
    have start : Memory.numbering.Separate Eq .empty := fun a _ k number => by cases number
    have ne : q.address ≠ r.address := by simpa [Resource.same] using other
    exact Memory.keeps_iff.2 (Memory.isolates.content
      (fun done _ => Memory.sound_after false done) start directed ne)
  · intro f d copying closed numbered nothing rooted named named' directed
    have start : f.numbering.Separate Files.SamePlace d := by
      intro a b k number _
      have file := Disk.isFile_iff.2 ⟨k, Disk.number?_eq_some_iff.1 number⟩
      cases (nothing a.resource).symm.trans file
    have apart := Files.not_samePlace_iff.2 (Files.apart_of_named (f := f) named' named other)
    exact Files.keeps_iff_content.2 ((Files.isolates copying).content
      (fun done le => by
        obtain ⟨home, standing, _⟩ := Files.standing_after closed numbered (rooted.anti le)
        exact ⟨home, standing⟩) start directed apart)

/-- On an empty disk nothing is a file. -/
theorem Files.isFile_empty (f : Files) (r : Resource) : f.backend.isFile r {} = false := by
  refine Bool.not_eq_true _ |>.mp fun file => ?_
  obtain ⟨path, n, _, node, _⟩ := exists_of_isFile file
  rw [Disk.node?_empty] at node
  split at node <;> cases node

/-- A writer of a copy is dropped, and the file that was copied is as it was. -/
theorem resources_are_isolated_from_copies :
    let f : Files := { root := "/cache" }
    let l : Location := { name := "local", uri := "file:///srv/local" }
    let q : Resource := .ofText l "a"
    let r : Resource := .ofText l "b"
    let calls : List Call := [.ask (.openWriter q), .write 0 [120], .close 0,
      .ask (.createAlias q r), .ask (.openWriter r), .write 0 [121]]
    (Memory.backend false).content? q
        (Usage.after (Memory.backend false) .empty (calls ++ [.close 0])).store = some [120] ∧
      f.backend.content? q (Usage.after f.backend {} (calls ++ [.close 0])).store = some [120] := by
  intro f l q r calls
  obtain ⟨inMemory, onDisk, rooted⟩ := resources_are_isolated calls (.close 0) r q (by decide)
  have kept := onDisk f {} rfl Disk.closed_empty Disk.numbered_empty f.isFile_empty
    (rooted f {} (by decide) (by decide)) (by decide) (by decide) (by decide +kernel)
  exact ⟨(inMemory (by decide +kernel)).content.trans (by decide +kernel),
    kept.content.trans (by decide +kernel)⟩

/-- A root that leads up through the directory of a location goes with it, and all
resources go with the root; they are back when the directory is. -/
theorem resources_lost_with_root :
    let f : Files := { root := "/cache/a_x/.." }
    let r : Resource := .root { name := "a", uri := "a:x" }
    let q : Resource := .ofText { name := "b", uri := "b:x" } "f"
    let calls : List Call := [.ask (.openWriter q), .write 0 [120], .close 0]
    let gone : Call := .ask (.delete r)
    let back : Call := .ask (.mkdirs r)
    f.linking = false ∧ (∀ p, f.backend.isFile p {} = false) ∧ q.same r = false ∧
      gone.directed? (Usage.owners f.backend {} calls) = some r ∧
      back.directed? (Usage.owners f.backend {} (calls ++ [gone])) = some r ∧
      f.backend.content? q (Usage.after f.backend {} calls).store = some [120] ∧
      f.backend.isFile q (Usage.after f.backend {} (calls ++ [gone])).store = false ∧
      f.backend.content? q (Usage.after f.backend {} (calls ++ [gone, back])).store
        = some [120] ∧
      ¬ f.backend.Keeps q (Usage.after f.backend {} calls).store
        (Usage.after f.backend {} (calls ++ [gone])).store := by
  intro f r q calls gone back
  have there : f.backend.isFile q (Usage.after f.backend {} calls).store = true := by
    decide +kernel
  have lost : f.backend.isFile q (Usage.after f.backend {} (calls ++ [gone])).store = false := by
    decide +kernel
  refine ⟨rfl, f.isFile_empty, by decide, rfl, rfl, by decide +kernel, lost, by decide +kernel,
    fun keeps => ?_⟩
  cases lost.symm.trans (keeps.file.trans there)

end ArtifactCache
