import ArtifactCache.Proofs.Numbering
import Mathlib.Data.List.Induction

/-!
What calls do to the names of files. Whoever calls, at most one name gets another
number, and that number is new unless an alias is made (`Numbering.Renaming`). A
name keeps its number unless a call displaces its file, so linked names stay
linked (`linked_run`), and names with different numbers are not linked but by an
alias (`apart_run`).
-/
namespace ArtifactCache

/-- The resource whose file a request takes away, or puts another in place of. -/
def Request.displaced? : Request → Option Resource
  | delete r | copy _ r | createAlias _ r => some r
  | openWriter _ | mkdirs _ | createFile _ => none

namespace Call

def displaced? : Call → Option Resource
  | ask q => q.displaced?
  | write _ _ | flush _ | close _ => none

/-- The resource that is made another name of a file. -/
def aliased? : Call → Option Resource
  | ask (.createAlias _ target) => some target
  | _ => none

end Call

namespace Numbering
variable {S R W : Type} (N : Numbering S W)

/-- Some name leads to the number. -/
def Used (k : Nat) (s : S) : Prop := ∃ a, N.number? a s = some k

/-- The names of a place lead to `k?` now, and the others where they did. -/
structure Renames (place : Address → Prop) (k? : Option Nat) (s s' : S) : Prop where
  here (a : Address) : place a → N.number? a s' = k?
  elsewhere (a : Address) : ¬ place a → N.number? a s' = N.number? a s

/-- The names of a place lead to `k` now, which has the bytes, and nothing else changes. -/
structure Puts (place : Address → Prop) (k : Nat) (bytes : Bytes) (s s' : S) : Prop where
  renames : N.Renames place (some k) s s'
  filled : N.bytes s' k = bytes
  rest (j : Nat) : j ≠ k → N.bytes s' j = N.bytes s j

/-- The files are as they were. -/
structure Alike (s s' : S) : Prop where
  number (a : Address) : N.number? a s' = N.number? a s
  bytes (k : Nat) : N.bytes s' k = N.bytes s k

/-- All that a call can do to the names, where `same` tells which addresses stand
for one place. -/
inductive Renaming (same : Address → Address → Prop) (s s' : S) (call : Call) : Prop
  | still (alike : ∀ a, N.number? a s' = N.number? a s)
  | create (r : Resource) (k : Nat) (unused : ¬ N.Used k s)
      (missing : ∀ a, same a r.address → N.number? a s = none)
      (renames : N.Renames (same · r.address) (some k) s s')
  | remove (r : Resource) (displaced : call.displaced? = some r)
      (renames : N.Renames (same · r.address) none s s')
  | replace (r : Resource) (k : Nat) (displaced : call.displaced? = some r)
      (unused : ¬ N.Used k s) (renames : N.Renames (same · r.address) (some k) s s')
  | link (r : Resource) (k : Nat) (aliased : call.aliased? = some r)
      (renames : N.Renames (same · r.address) (some k) s s')

/-- Two names of one file. -/
def Linked (a b : Address) (s : S) : Prop :=
  ∃ k, N.number? a s = some k ∧ N.number? b s = some k

/-- Each call of a run renames as it may. -/
def Tracks (same : Address → Address → Prop) (b : Backend S R W) (u : Usage S W)
    (calls : List Call) : Prop :=
  ∀ done call, done ++ [call] <+: calls →
    N.Renaming same (done.foldl (Usage.perform b) u).store
      ((done ++ [call]).foldl (Usage.perform b) u).store call

variable {N} {same : Address → Address → Prop} {a b : Address} {s s' : S} {call : Call} {k : Nat}

/-! ## Changes one after the other -/

theorem Alike.refl (s : S) : N.Alike s s := ⟨fun _ => rfl, fun _ => rfl⟩

theorem Alike.used (alike : N.Alike s s') : N.Used k s' ↔ N.Used k s := by
  simp only [Used, alike.number]

theorem Renames.trans {place : Address → Prop} {k? j? : Option Nat} {s₁ : S}
    (first : N.Renames place k? s s₁) (second : N.Renames place j? s₁ s') :
    N.Renames place j? s s' :=
  ⟨second.here, fun a other => (second.elsewhere a other).trans (first.elsewhere a other)⟩

theorem Renames.after {place : Address → Prop} {k? : Option Nat} {s₁ : S}
    (first : ∀ a, N.number? a s₁ = N.number? a s) (second : N.Renames place k? s₁ s') :
    N.Renames place k? s s' :=
  ⟨second.here, fun a other => (second.elsewhere a other).trans (first a)⟩

/-- Where no bytes change, the names elsewhere have what they had. -/
theorem Renames.content {place : Address → Prop} {k? : Option Nat} (renames : N.Renames place k? s s')
    (bytes : ∀ k, N.bytes s' k = N.bytes s k) (other : ¬ place a) :
    N.content? a s' = N.content? a s := by
  rw [content?, content?, renames.elsewhere a other]
  exact congrArg (fun read => Option.map read _) (funext bytes)

theorem Puts.trans {place : Address → Prop} {bytes bytes' : Bytes} {s₁ : S}
    (first : N.Puts place k bytes s s₁) (second : N.Puts place k bytes' s₁ s') :
    N.Puts place k bytes' s s' :=
  ⟨first.renames.trans second.renames, second.filled,
    fun j other => (second.rest j other).trans (first.rest j other)⟩

theorem Puts.after {place : Address → Prop} {bytes : Bytes} {s₁ : S}
    (first : N.Alike s s₁) (second : N.Puts place k bytes s₁ s') : N.Puts place k bytes s s' :=
  ⟨second.renames.after first.number, second.filled,
    fun j other => (second.rest j other).trans (first.bytes j)⟩

/-- After a change of bytes only, a call renames as it would have before. -/
theorem Renaming.after {s₁ : S} (first : ∀ a, N.number? a s₁ = N.number? a s)
    (second : N.Renaming same s₁ s' call) : N.Renaming same s s' call := by
  have unused {k : Nat} (unused : ¬ N.Used k s₁) : ¬ N.Used k s := by
    rintro ⟨a, number⟩
    exact unused ⟨a, (first a).trans number⟩
  cases second with
  | still alike => exact .still fun a => (alike a).trans (first a)
  | create r k new missing renames =>
    exact .create r k (unused new) (fun a here => (first a).symm.trans (missing a here))
      (renames.after first)
  | remove r displaced renames => exact .remove r displaced (renames.after first)
  | replace r k displaced new renames =>
    exact .replace r k displaced (unused new) (renames.after first)
  | link r k aliased renames => exact .link r k aliased (renames.after first)

theorem Renaming.before {s₁ : S} (first : N.Renaming same s s₁ call)
    (second : ∀ a, N.number? a s' = N.number? a s₁) : N.Renaming same s s' call := by
  have renames {place : Address → Prop} {k? : Option Nat} (renames : N.Renames place k? s s₁) :
      N.Renames place k? s s' :=
    ⟨fun a here => (second a).trans (renames.here a here),
      fun a other => (second a).trans (renames.elsewhere a other)⟩
  cases first with
  | still alike => exact .still fun a => (second a).trans (alike a)
  | create r k unused missing moved => exact .create r k unused missing (renames moved)
  | remove r displaced moved => exact .remove r displaced (renames moved)
  | replace r k displaced unused moved => exact .replace r k displaced unused (renames moved)
  | link r k aliased moved => exact .link r k aliased (renames moved)

/-- A copy may be made where an alias is asked for. -/
theorem Renaming.of_copy {source target : Resource}
    (copied : N.Renaming same s s' (.ask (.copy source target))) :
    N.Renaming same s s' (.ask (.createAlias source target)) := by
  cases copied with
  | still alike => exact .still alike
  | create r k unused missing moved => exact .create r k unused missing moved
  | remove r displaced moved => exact .remove r displaced moved
  | replace r k displaced unused moved => exact .replace r k displaced unused moved
  | link r k aliased moved => cases aliased

theorem displaced?_of_aliased? {r : Resource} (aliased : call.aliased? = some r) :
    call.displaced? = some r := by
  cases call with
  | ask q =>
    cases q with
    | createAlias _ _ => exact aliased
    | _ => cases aliased
  | _ => cases aliased

namespace Renaming

/-- A file keeps its number unless it is displaced. -/
theorem keeps (renamed : N.Renaming same s s' call)
    (spared : ∀ r, call.displaced? = some r → ¬ same a r.address)
    (number : N.number? a s = some k) : N.number? a s' = some k := by
  cases renamed with
  | still alike => exact (alike a).trans number
  | create r _ _ missing renames =>
    have elsewhere : ¬ same a r.address := by
      intro here
      cases (missing a here).symm.trans number
    exact (renames.elsewhere a elsewhere).trans number
  | remove r displaced renames | replace r _ displaced _ renames =>
    exact (renames.elsewhere a (spared r displaced)).trans number
  | link r _ aliased renames =>
    exact (renames.elsewhere a (spared r (displaced?_of_aliased? aliased))).trans number

/-- The number of a name is that which it had, or one that was not in use. -/
theorem origin (renamed : N.Renaming same s s' call)
    (spared : ∀ r, call.aliased? = some r → ¬ same a r.address)
    (number : N.number? a s' = some k) :
    N.number? a s = some k ∨ ¬ N.Used k s ∧ ∃ r : Resource, same a r.address ∧
      ∀ b, ¬ same b r.address → N.number? b s' = N.number? b s := by
  have moved {r : Resource} {j : Nat} (unused : ¬ N.Used j s)
      (renames : N.Renames (same · r.address) (some j) s s') :
      N.number? a s = some k ∨ ¬ N.Used k s ∧ ∃ r : Resource, same a r.address ∧
        ∀ b, ¬ same b r.address → N.number? b s' = N.number? b s := by
    by_cases here : same a r.address
    · obtain rfl := Option.some.inj ((renames.here a here).symm.trans number)
      exact .inr ⟨unused, r, here, renames.elsewhere⟩
    · exact .inl ((renames.elsewhere a here).symm.trans number)
  cases renamed with
  | still alike => exact .inl ((alike a).symm.trans number)
  | create r _ unused _ renames => exact moved unused renames
  | replace r _ _ unused renames => exact moved unused renames
  | remove r _ renames =>
    by_cases here : same a r.address
    · cases (renames.here a here).symm.trans number
    · exact .inl ((renames.elsewhere a here).symm.trans number)
  | link r _ aliased renames =>
    exact .inl ((renames.elsewhere a (spared r aliased)).symm.trans number)

/-- Only an alias links names that were not linked. -/
theorem apart (renamed : N.Renaming same s s' call)
    (places : ∀ c, same a c → ¬ same b c)
    (spared : ∀ r, call.aliased? = some r → ¬ same a r.address ∧ ¬ same b r.address)
    (apart : ¬ N.Linked a b s) : ¬ N.Linked a b s' := by
  rintro ⟨k, number_a, number_b⟩
  obtain old_a | ⟨new, r, here, elsewhere⟩ :=
    renamed.origin (fun r aliased => (spared r aliased).1) number_a
  · obtain old_b | ⟨new, _⟩ := renamed.origin (fun r aliased => (spared r aliased).2) number_b
    · exact apart ⟨k, old_a, old_b⟩
    · exact new ⟨a, old_a⟩
  · exact new ⟨b, (elsewhere b (places _ here)).symm.trans number_b⟩

end Renaming

section
variable {B : Backend S R W} {u : Usage S W} {calls : List Call}

/-- Files that nobody displaces stay linked, whatever else happens. -/
theorem linked_run (tracks : N.Tracks same B u calls) (linked : N.Linked a b u.store)
    (spared : ∀ call ∈ calls, ∀ r, call.displaced? = some r →
      ¬ same a r.address ∧ ¬ same b r.address) :
    N.Linked a b (calls.foldl (Usage.perform B) u).store := by
  induction calls using List.reverseRecOn with
  | nil => exact linked
  | append_singleton calls call ih =>
    obtain ⟨k, number_a, number_b⟩ :=
      ih (fun done next le => tracks done next (le.trans (List.prefix_append _ _)))
        fun next mem => spared next (List.mem_append_left _ mem)
    have renamed := tracks calls call List.prefix_rfl
    have last (r : Resource) (displaced : call.displaced? = some r) :=
      spared call (by simp) r displaced
    exact ⟨k, renamed.keeps (fun r displaced => (last r displaced).1) number_a,
      renamed.keeps (fun r displaced => (last r displaced).2) number_b⟩

/-- Files at two places stay apart as long as neither is made an alias. -/
theorem apart_run (tracks : N.Tracks same B u calls) (places : ∀ c, same a c → ¬ same b c)
    (apart : ¬ N.Linked a b u.store)
    (spared : ∀ call ∈ calls, ∀ r, call.aliased? = some r →
      ¬ same a r.address ∧ ¬ same b r.address) :
    ¬ N.Linked a b (calls.foldl (Usage.perform B) u).store := by
  induction calls using List.reverseRecOn with
  | nil => exact apart
  | append_singleton calls call ih =>
    have before := ih (fun done next le => tracks done next (le.trans (List.prefix_append _ _)))
      fun next mem => spared next (List.mem_append_left _ mem)
    exact (tracks calls call List.prefix_rfl).apart places
      (fun r aliased => spared call (by simp) r aliased) before

end

/-- Two names of one file have one content. -/
theorem Linked.content (linked : N.Linked a b s) :
    ∃ bytes, N.content? a s = some bytes ∧ N.content? b s = some bytes := by
  obtain ⟨k, number_a, number_b⟩ := linked
  exact ⟨N.bytes s k, by rw [content?, number_a]; rfl, by rw [content?, number_b]; rfl⟩

end Numbering

/-! ## In memory -/

namespace Memory
variable {m : Memory} {call : Call} {r : Resource}

theorem not_used_fresh (sound : numbering.sound m) : ¬ numbering.Used m.fresh m := by
  rintro ⟨a, number⟩
  exact Nat.lt_irrefl _ (sound a _ number)

theorem number?_commit (a b : Address) (bytes : Bytes) (m : Memory) :
    numbering.number? b (m.commit a bytes) =
      if a = b then some ((numbering.number? a m).getD m.fresh) else numbering.number? b m := by
  simp only [numbering]
  unfold commit
  split
  · next entry found =>
    split
    · next eq => rw [← eq, found]; rfl
    · rfl
  · next missing =>
    rw [missing]
    exact Table.get?_insert _ _ _ _

theorem puts_commit (a : Address) (bytes : Bytes) (m : Memory) :
    numbering.Puts (· = a) ((numbering.number? a m).getD m.fresh) bytes m (m.commit a bytes) := by
  refine ⟨⟨?_, ?_⟩, ?_, ?_⟩
  · rintro b rfl
    rw [number?_commit, if_pos rfl]
  · intro b ne
    rw [number?_commit, if_neg (Ne.symm ne)]
  · unfold commit
    cases found : m.files.get? a <;> simp [numbering, found]
  · intro j other
    unfold commit
    cases found : m.files.get? a with
    | none =>
      have ne : m.fresh ≠ j := by simpa [numbering, found] using other.symm
      simp [numbering, Table.get?_insert, ne]
    | some entry =>
      have ne : entry ≠ j := by simpa [numbering, found] using other.symm
      simp [numbering, Table.get?_insert, ne]

/-- A file that is there keeps its entry. -/
theorem number?_commit_of_some {a : Address} {k : Nat} (found : numbering.number? a m = some k)
    (bytes : Bytes) (b : Address) :
    numbering.number? b (m.commit a bytes) = numbering.number? b m := by
  rw [number?_commit]
  split
  · next eq => rw [← eq, found]; rfl
  · rfl

/-- Committing what is there changes nothing. -/
theorem alike_commit {a : Address} {bytes : Bytes} (same : numbering.content? a m = some bytes) :
    numbering.Alike m (m.commit a bytes) := by
  obtain ⟨k, number, filled⟩ := Option.map_eq_some_iff.1 same
  have puts := puts_commit a bytes m
  rw [number, Option.getD_some] at puts
  constructor
  · exact number?_commit_of_some number bytes
  · intro j
    by_cases other : j = k
    · rw [other, puts.filled, filled]
    · exact puts.rest j other

/-- The name is given to an entry. -/
theorem renames_insert (m : Memory) (a : Address) (k : Nat) :
    numbering.Renames (· = a) (some k) m { m with files := m.files.insert a k } := by
  constructor
  · rintro b rfl
    simp [numbering]
  · intro b ne
    simp [numbering, Table.get?_insert, Ne.symm ne]

/-- The name is taken away. -/
theorem renames_erase (m : Memory) (a : Address) :
    numbering.Renames (· = a) none m { m with files := m.files.erase a } := by
  constructor
  · rintro b rfl
    simp [numbering, Table.get?_erase]
  · intro b ne
    simp [numbering, Table.get?_erase, Ne.symm ne]

theorem renaming_commit (sound : numbering.sound m) (r : Resource) (bytes : Bytes) :
    numbering.Renaming Eq m (m.commit r.address bytes) call := by
  cases found : numbering.number? r.address m with
  | some entry => exact .still (number?_commit_of_some found bytes)
  | none =>
    refine .create r m.fresh (not_used_fresh sound) (fun a eq => eq ▸ found) ⟨?_, ?_⟩
    · rintro a rfl
      rw [number?_commit, if_pos rfl, found]
      rfl
    · intro a ne
      rw [number?_commit, if_neg (Ne.symm ne)]

theorem sound_commit (sound : numbering.sound m) (a : Address) (bytes : Bytes) :
    numbering.sound (m.commit a bytes) := (spares_commit sound a bytes).sound

/-- What the store is after something that may be refused. -/
theorem unlessBarred_cases {α : Type} (activity : Activity) (r : Resource) (m : Memory)
    (go : Except Failure α × Memory) :
    (unlessBarred activity r m go).2 = m ∨ unlessBarred activity r m go = go := by
  unfold unlessBarred
  split
  · exact .inl rfl
  · exact .inr rfl

/-- What a call does to the names, and that the store stays in order. -/
abbrev Tells (call : Call) (m m' : Memory) : Prop :=
  numbering.sound m' ∧ numbering.Renaming Eq m m' call

theorem tells_self (sound : numbering.sound m) : Tells call m m := ⟨sound, .still fun _ => rfl⟩

theorem tells_commit (sound : numbering.sound m) (r : Resource) (bytes : Bytes) :
    Tells call m (m.commit r.address bytes) :=
  ⟨sound_commit sound _ _, renaming_commit sound r bytes⟩

theorem tells_unlessBarred {α : Type} {activity : Activity} {go : Except Failure α × Memory}
    (sound : numbering.sound m) (tells : Tells call m go.2) :
    Tells call m (unlessBarred activity r m go).2 := by
  obtain same | went := unlessBarred_cases activity r m go
  · rw [same]
    exact tells_self sound
  · rwa [went]

theorem tells_openWriter (sound : numbering.sound m) (r : Resource) :
    Tells call m (m.openWriter r).2 := by
  refine tells_unlessBarred sound ?_
  split
  · exact tells_self sound
  · exact tells_commit sound r []

theorem tells_copy (sound : numbering.sound m) (source target : Resource) :
    Tells call m (m.copy source target).2 := by
  unfold copy
  split
  · exact tells_self sound
  · exact tells_unlessBarred sound (tells_commit sound target _)

theorem tells_delete (sound : numbering.sound m) (r : Resource) :
    Tells (.ask (.delete r)) m (m.delete r).2 := by
  unfold delete
  dsimp only
  split
  · refine ⟨fun a n number => ?_, .remove r rfl (renames_erase m _)⟩
    rw [Table.get?_erase] at number
    split at number
    · cases number
    · exact sound a n number
  split
  · exact tells_self sound
  · exact ⟨sound, .still fun _ => rfl⟩

theorem tells_mkdirs (sound : numbering.sound m) (r : Resource) :
    Tells call m (m.mkdirs r).2 := by
  unfold mkdirs
  split
  · exact tells_self sound
  · exact tells_unlessBarred sound ⟨sound, .still fun _ => rfl⟩

theorem tells_createFile (sound : numbering.sound m) (r : Resource) :
    Tells call m (m.createFile r).2 := by
  unfold createFile
  split
  · exact tells_self sound
  · exact tells_unlessBarred sound (tells_commit sound r [])

theorem tells_link (sound : numbering.sound m) (source target : Resource) :
    Tells (.ask (.createAlias source target)) m (m.link source target).2 := by
  unfold link
  cases found : m.files.get? source.address with
  | none => exact tells_self sound
  | some entry =>
    refine tells_unlessBarred sound ⟨fun a n number => ?_,
      .link target entry rfl (renames_insert m _ entry)⟩
    rw [Table.get?_insert] at number
    split at number
    · exact Option.some.inj number ▸ sound _ entry found
    · exact sound a n number

theorem tells_createAlias (sound : numbering.sound m) (linking : Bool)
    (source target : Resource) :
    Tells (.ask (.createAlias source target)) m (m.createAlias linking source target).2 := by
  unfold createAlias
  split
  · exact tells_self sound
  split
  · exact tells_link sound source target
  · exact tells_copy sound source target

theorem tells_run (sound : numbering.sound m) (linking : Bool) (q : Request) :
    Tells (.ask q) m (q.run (backend linking) m).2 := by
  cases q with
  | openWriter r => exact tells_openWriter sound r
  | copy source target => exact tells_copy sound source target
  | delete r => exact tells_delete sound r
  | mkdirs r => exact tells_mkdirs sound r
  | createFile r => exact tells_createFile sound r
  | createAlias source target => exact tells_createAlias sound linking source target

theorem tells_publish (sound : numbering.sound m) (w : Writer) : Tells call m (publish w m) := by
  unfold publish
  split
  · exact tells_commit sound w.resource w.buffer
  · exact tells_self sound

/-- What one call does in memory. -/
theorem tells_perform {u : Usage Memory Writer} (sound : numbering.sound u.store)
    (linking : Bool) (call : Call) :
    Tells call u.store (u.perform (backend linking) call).store := by
  cases call with
  | ask q =>
    rw [Usage.store_perform_ask]
    exact tells_run sound linking q
  | write i bytes =>
    unfold Usage.perform
    dsimp only
    split <;> exact tells_self sound
  | flush i =>
    unfold Usage.perform
    dsimp only
    split
    · exact tells_self sound
    · exact tells_publish sound _
  | close i =>
    unfold Usage.perform
    dsimp only
    split
    · exact tells_self sound
    · exact tells_publish sound _

theorem sound_empty : numbering.sound empty := fun _ _ number => by cases number

theorem sound_foldl {u : Usage Memory Writer} (sound : numbering.sound u.store) (linking : Bool)
    (calls : List Call) :
    numbering.sound (calls.foldl (Usage.perform (backend linking)) u).store := by
  induction calls generalizing u with
  | nil => exact sound
  | cons call rest ih => exact ih (tells_perform sound linking call).1

theorem sound_after (linking : Bool) (calls : List Call) :
    numbering.sound (Usage.after (backend linking) empty calls).store :=
  sound_foldl (u := { store := empty }) sound_empty linking calls

theorem tracks {u : Usage Memory Writer} (sound : numbering.sound u.store) (linking : Bool)
    (calls : List Call) : numbering.Tracks Eq (backend linking) u calls := by
  intro done call _
  rw [List.foldl_append]
  exact (tells_perform (sound_foldl sound linking done) linking call).2

end Memory
end ArtifactCache
