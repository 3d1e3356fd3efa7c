import ArtifactCache.Proofs.FileNames

/-!
What writing to a resource can change. Putting bytes at a place reaches the names
of that place and the names that are linked to them, and no others
(`Puts.confined`). So whatever is written to one of two files that are not linked,
the other stays as it is (`Memory.independent`, `Files.independent`).
-/
namespace ArtifactCache

/-- The call asks for a writer of the resource, or uses one that is open. -/
def Call.IsWriteTo (r : Resource) : Call → Prop
  | ask q => q = .openWriter r
  | write _ _ | flush _ | close _ => True

/-- Whatever is written to one of them from now on, the other stays as it is. -/
structure Backend.Independent {S R W : Type} (b : Backend S R W) (r q : Resource) (s : S) :
    Prop where
  second (writes : List Call) : (∀ call ∈ writes, call.IsWriteTo r) →
    b.Keeps q s (Usage.after b s writes).store
  first (writes : List Call) : (∀ call ∈ writes, call.IsWriteTo q) →
    b.Keeps r s (Usage.after b s writes).store

namespace Numbering
variable {S R W : Type} (N : Numbering S W)

/-- The number of the name, or a new one if it has none. -/
def Takes (a : Address) (k : Nat) (s : S) : Prop :=
  N.number? a s = some k ∨ N.number? a s = none ∧ ¬ N.Used k s

/-- What is not linked to the file of `a` is as it was, and still not linked to it. -/
structure Confined (place : Address → Prop) (a : Address) (s s' : S) : Prop where
  content (b : Address) : ¬ place b → ¬ N.Linked b a s → N.content? b s' = N.content? b s
  apart (b : Address) : ¬ place b → ¬ N.Linked b a s → ¬ N.Linked b a s'

variable {N} {place : Address → Prop} {a b : Address} {k : Nat} {bytes : Bytes} {s s₁ s' : S}

theorem Linked.symm (linked : N.Linked a b s) : N.Linked b a s := by
  obtain ⟨k, number_a, number_b⟩ := linked
  exact ⟨k, number_b, number_a⟩

theorem Alike.content (alike : N.Alike s s') (a : Address) : N.content? a s' = N.content? a s := by
  have bytes : N.bytes s' = N.bytes s := funext alike.bytes
  rw [content?, content?, alike.number, bytes]

theorem Alike.linked (alike : N.Alike s s') : N.Linked a b s' ↔ N.Linked a b s := by
  simp only [Linked, alike.number]

/-- A file that is not linked to that of `a` has another number. -/
theorem Takes.ne {j : Nat} (takes : N.Takes a k s) (apart : ¬ N.Linked b a s)
    (number : N.number? b s = some j) : j ≠ k := by
  rintro rfl
  obtain old | ⟨_, unused⟩ := takes
  · exact apart ⟨j, number, old⟩
  · exact unused ⟨b, number⟩

namespace Confined

theorem refl (s : S) : N.Confined place a s s := ⟨fun _ _ _ => rfl, fun _ _ => id⟩

theorem trans (first : N.Confined place a s s₁) (second : N.Confined place a s₁ s') :
    N.Confined place a s s' := by
  constructor
  · intro b other apart
    exact (second.content b other (first.apart b other apart)).trans (first.content b other apart)
  · intro b other apart
    exact second.apart b other (first.apart b other apart)

theorem of_alike (alike : N.Alike s s') : N.Confined place a s s' :=
  ⟨fun b _ _ => alike.content b, fun _ _ apart linked => apart (alike.linked.1 linked)⟩

end Confined

namespace Puts

/-- The name has the bytes. -/
theorem content (puts : N.Puts place k bytes s s') (here : place a) :
    N.content? a s' = some bytes := by
  rw [content?, puts.renames.here a here, Option.map_some, puts.filled]

/-- The names that led to another number have what they had. -/
theorem content_of_ne (puts : N.Puts place k bytes s s') (other : ¬ place b)
    (ne : N.number? b s ≠ some k) : N.content? b s' = N.content? b s := by
  rw [content?, content?, puts.renames.elsewhere b other]
  cases number : N.number? b s with
  | none => rfl
  | some j =>
    have apart : j ≠ k := fun eq => ne (eq ▸ number)
    rw [Option.map_some, Option.map_some, puts.rest j apart]

/-- The names of the place are linked with those that led to the number before. -/
theorem linked_iff_number (puts : N.Puts place k bytes s s') (here : place a)
    (other : ¬ place b) : N.Linked b a s' ↔ N.number? b s = some k := by
  simp [Linked, puts.renames.here a here, puts.renames.elsewhere b other]

theorem confined (puts : N.Puts place k bytes s s') (here : place a) (takes : N.Takes a k s) :
    N.Confined place a s s' := by
  have ne {b : Address} (apart : ¬ N.Linked b a s) : N.number? b s ≠ some k :=
    fun number => takes.ne apart number rfl
  constructor
  · intro b other apart
    exact puts.content_of_ne other (ne apart)
  · intro b other apart linked
    exact ne apart ((puts.linked_iff_number here other).1 linked)

/-- Nothing gets linked to the place, and nothing gets loose. -/
theorem linked_iff (puts : N.Puts place k bytes s s') (here : place a) (takes : N.Takes a k s)
    (other : ¬ place b) : N.Linked b a s' ↔ N.Linked b a s := by
  constructor
  · intro linked
    exact Classical.byContradiction fun apart =>
      (puts.confined here takes).apart b other apart linked
  · rintro ⟨j, number_b, number_a⟩
    rw [puts.linked_iff_number here other]
    obtain old | ⟨missing, _⟩ := takes
    · rwa [Option.some.inj (number_a.symm.trans old)] at number_b
    · cases missing.symm.trans number_a

/-- What is linked to the place has the bytes now, and the rest what it had. -/
theorem content_iff (puts : N.Puts place k bytes s s') (here : place a) (takes : N.Takes a k s)
    (other : ¬ place b) : N.content? b s' = N.content? b s ↔
      (N.Linked b a s → N.content? b s = some bytes) := by
  by_cases linked : N.Linked b a s
  · obtain ⟨bytes', content_b, content_a⟩ :=
      ((puts.linked_iff here takes other).2 linked).content
    rw [puts.content here] at content_a
    rw [content_b, ← content_a, eq_comm]
    exact ⟨fun same _ => same, fun same => same linked⟩
  · exact iff_of_true ((puts.confined here takes).content b other linked)
      fun now => absurd now linked

end Puts

/-- If every call is confined to a file, so is a run of them. -/
theorem Confined.run {B : Backend S R W} {allowed : Call → Prop} {I : Usage S W → Prop}
    (step : ∀ u call, I u → allowed call → I (u.perform B call) ∧
      N.Confined place a u.store (u.perform B call).store)
    {calls : List Call} (all : ∀ call ∈ calls, allowed call) {u : Usage S W} (start : I u) :
    N.Confined place a u.store (calls.foldl (Usage.perform B) u).store := by
  induction calls generalizing u with
  | nil => exact .refl _
  | cons call rest ih =>
    obtain ⟨kept, first⟩ := step u call start (all call List.mem_cons_self)
    exact first.trans (ih (fun next mem => all next (List.mem_cons_of_mem _ mem)) kept)

end Numbering

/-- Who writes after a request: those who did, and whoever was granted a writer. -/
theorem Usage.mem_writers_ask {S R W : Type} {b : Backend S R W} {u : Usage S W} {q : Request}
    {w : W} : w ∈ (u.perform b (.ask q)).writers ↔
      w ∈ u.writers ∨ (q.run b u.store).1 = .ok (some w) := by
  rcases outcome : q.run b u.store with ⟨_ | writer?, s⟩
  · simp [perform, outcome]
  · simp [perform, outcome]

/-! ## In memory -/

namespace Memory
variable {m : Memory} {r q : Resource} {u : Usage Memory Writer}

theorem takes (sound : numbering.sound m) (a : Address) :
    numbering.Takes a ((numbering.number? a m).getD m.fresh) m := by
  cases number : numbering.number? a m with
  | none => exact .inr ⟨number, not_used_fresh sound⟩
  | some k => exact .inl number

theorem confined_commit (sound : numbering.sound m) (a : Address) (bytes : Bytes) :
    numbering.Confined (· = a) a m (m.commit a bytes) :=
  (puts_commit a bytes m).confined rfl (takes sound a)

/-- All that is open are writers of the resource. -/
structure WritingTo (r : Resource) (u : Usage Memory Writer) : Prop where
  sound : numbering.sound u.store
  writers (w : Writer) : w ∈ u.writers → w.resource = r

theorem confined_publish (sound : numbering.sound m) {w : Writer} (own : w.resource = r) :
    numbering.Confined (· = r.address) r.address m (publish w m) := by
  unfold publish
  split
  · rw [own]
    exact confined_commit sound _ _
  · exact .refl m

theorem confined_openWriter (sound : numbering.sound m) (r : Resource) :
    numbering.Confined (· = r.address) r.address m (m.openWriter r).2 := by
  unfold openWriter unlessBarred
  split
  · exact .refl m
  split
  · exact .refl m
  · exact confined_commit sound _ _

theorem confined_perform (linking : Bool) {call : Call} (writing : WritingTo r u)
    (write : call.IsWriteTo r) : WritingTo r (u.perform (backend linking) call) ∧
      numbering.Confined (· = r.address) r.address u.store
        (u.perform (backend linking) call).store := by
  have sound := (tells_perform writing.sound linking call).1
  cases call with
  | ask q =>
    obtain rfl : q = .openWriter r := write
    refine ⟨⟨sound, ?_⟩, ?_⟩
    · intro w mem
      obtain old | granted := Usage.mem_writers_ask.1 mem
      · exact writing.writers w old
      · have opened : (u.store.openWriter r).1 = .ok w := by
          simp only [Request.run, Request.keeping, backend] at granted
          cases answer : (u.store.openWriter r).1 <;> simp_all [Except.map]
        rw [(of_openWriter_eq_ok opened).1]
    · rw [Usage.store_perform_ask]
      exact confined_openWriter writing.sound r
  | write i bytes =>
    unfold Usage.perform at sound ⊢
    dsimp only at sound ⊢
    split
    · exact ⟨writing, .refl _⟩
    next w found =>
    refine ⟨⟨writing.sound, fun w' mem => ?_⟩, .refl _⟩
    obtain old | rfl := List.mem_or_eq_of_mem_set mem
    · exact writing.writers w' old
    · exact writing.writers w (List.mem_of_getElem? found)
  | flush i =>
    unfold Usage.perform at sound ⊢
    dsimp only at sound ⊢
    split
    · exact ⟨writing, .refl _⟩
    next w found =>
    rw [found] at sound
    have own := writing.writers w (List.mem_of_getElem? found)
    refine ⟨⟨sound, fun w' mem => ?_⟩, confined_publish writing.sound own⟩
    obtain old | rfl := List.mem_or_eq_of_mem_set mem
    · exact writing.writers w' old
    · exact own
  | close i =>
    unfold Usage.perform at sound ⊢
    dsimp only at sound ⊢
    split
    · exact ⟨writing, .refl _⟩
    next w found =>
    rw [found] at sound
    have own := writing.writers w (List.mem_of_getElem? found)
    refine ⟨⟨sound, fun w' mem => ?_⟩, confined_publish writing.sound own⟩
    exact writing.writers w' (List.mem_of_mem_eraseIdx mem)

theorem keeps_iff {linking : Bool} {m' : Memory} : (backend linking).Keeps r m m' ↔
    numbering.content? r.address m' = numbering.content? r.address m := by
  have file (m : Memory) : m.isFile r.address = (numbering.content? r.address m).isSome := by
    simp [isFile, Table.contains, numbering, Numbering.content?]
  have content (m : Memory) := (serves linking).content r m
  constructor
  · intro keeps
    rw [← content, ← content, keeps.content]
  · intro same
    refine ⟨?_, by rw [content, content, same]⟩
    change m'.isFile r.address = m.isFile r.address
    rw [file, file, same]

/-- Files that are not linked are independent. -/
theorem independent (sound : numbering.sound m) (linking : Bool) (other : r.same q = false)
    (apart : ¬ numbering.Linked r.address q.address m) :
    (backend linking).Independent r q m := by
  have ne : r.address ≠ q.address := by simpa [Resource.same] using other
  have confined {r : Resource} {writes : List Call} (all : ∀ call ∈ writes, call.IsWriteTo r) :
      numbering.Confined (· = r.address) r.address m
        (Usage.after (backend linking) m writes).store :=
    .run (I := WritingTo r) (fun _ _ => confined_perform linking) all
      (u := { store := m }) ⟨sound, fun _ mem => by cases mem⟩
  constructor
  · intro writes all
    exact keeps_iff.2 ((confined all).content _ ne.symm fun linked => apart linked.symm)
  · intro writes all
    exact keeps_iff.2 ((confined all).content _ ne apart)

end Memory

/-! ## On disk -/

namespace Files
variable {f : Files} {d : Disk} {home : List PathText} {r q : Resource}
  {u : Usage Disk Disk.Writer} {w : Disk.Writer}

/-- All that is open are writers of the file that the resource is now. -/
structure WritingTo (f : Files) (home : List PathText) (r : Resource)
    (u : Usage Disk Disk.Writer) : Prop where
  standing : f.Standing home u.store
  writers (w : Disk.Writer) : w ∈ u.writers → f.numbering.number? r.address u.store = some w.body

theorem takes_of_create {n : Nat} (standing : f.Standing home d)
    (made : f.numbering.number? r.address d = some n ∨
      f.numbering.number? r.address d = none ∧ n = d.fresh) :
    f.numbering.Takes r.address n d := by
  obtain old | ⟨missing, rfl⟩ := made
  · exact .inl old
  · exact .inr ⟨missing, standing.not_used_fresh⟩

/-- The resource is still the file with the number, and no other file was reached. -/
structure Filling (f : Files) (home : List PathText) (r : Resource) (n : Nat) (d d' : Disk) :
    Prop where
  standing : f.Standing home d'
  number : f.numbering.number? r.address d' = some n
  confined : f.numbering.Confined (SamePlace · r.address) r.address d d'

theorem Filling.refl {n : Nat} (standing : f.Standing home d)
    (number : f.numbering.number? r.address d = some n) : f.Filling home r n d d :=
  ⟨standing, number, .refl d⟩

theorem Filling.setBody {n : Nat} {d' : Disk} (filling : f.Filling home r n d d') (bytes : Bytes) :
    f.Filling home r n d (d'.setBody n bytes) where
  standing := standing_setBody filling.standing n bytes
  number := (Disk.number?_setBody d' n bytes _).trans filling.number
  confined := filling.confined.trans
    ((puts_setBody filling.standing bytes filling.number).confined rfl (.inl filling.number))

/-- What goes on below a directory, on a disk with the same files. -/
theorem elim_withParent {α : Type} {activity : Activity} {go : Disk → Except Failure α × Disk}
    {P : Except Failure α × Disk → Prop} (standing : f.Standing home d)
    (stops : ∀ e d₁, f.Standing home d₁ → f.numbering.Alike d d₁ → P (.error e, d₁))
    (goes : ∀ d₁, f.Standing home d₁ → f.numbering.Alike d d₁ → P (go d₁)) :
    P (withParent activity (f.placeOf r) d go) := by
  obtain ⟨d₁, standing₁, _, alike, ⟨e, stopped⟩ | went⟩ :=
    standing_withParent standing activity r go
  · rw [stopped]
    exact stops e d₁ standing₁ alike
  · rw [went]
    exact goes d₁ standing₁ alike

/-- A writer is one of the file that the resource is then. -/
theorem confined_openWriter (standing : f.Standing home d) (r : Resource) :
    f.numbering.Confined (SamePlace · r.address) r.address d (f.openWriter r d).2 ∧
      ∀ w, (f.openWriter r d).1 = .ok w →
        f.numbering.number? r.address (f.openWriter r d).2 = some w.body := by
  refine elim_withParent (P := fun outcome : Except Failure Disk.Writer × Disk =>
    f.numbering.Confined (SamePlace · r.address) r.address d outcome.2 ∧
      ∀ w, outcome.1 = .ok w → f.numbering.number? r.address outcome.2 = some w.body)
    standing (fun e d₁ _ alike => ?_) fun d₁ standing₁ alike => ?_
  · exact ⟨.of_alike alike, fun _ opened => by cases opened⟩
  rcases created : d₁.create (f.placeOf r) with ⟨fault | n, d₂⟩
  · obtain rfl := same_of_create created
    exact ⟨.of_alike alike, fun _ opened => by cases opened⟩
  · obtain ⟨_, puts, made⟩ := puts_create standing₁ created
    refine ⟨.trans (.of_alike alike) (puts.confined rfl (takes_of_create standing₁ made)), ?_⟩
    intro w opened
    obtain rfl := Except.ok.inj opened
    exact puts.renames.here _ rfl

theorem confined_perform {call : Call} (writing : f.WritingTo home r u)
    (write : call.IsWriteTo r) : f.WritingTo home r (u.perform f.backend call) ∧
      f.numbering.Confined (SamePlace · r.address) r.address u.store
        (u.perform f.backend call).store := by
  cases call with
  | ask q =>
    obtain rfl : q = .openWriter r := write
    obtain ⟨standing, renamed⟩ : f.Tells home (.ask (.openWriter r)) u.store
        (f.openWriter r u.store).2 := tells_openWriter writing.standing r
    obtain ⟨confined, opens⟩ := confined_openWriter writing.standing r
    have store : (u.perform f.backend (.ask (.openWriter r))).store =
        (f.openWriter r u.store).2 := Usage.store_perform_ask _ _ _
    rw [store]
    refine ⟨⟨store ▸ standing, ?_⟩, confined⟩
    intro w mem
    rw [store]
    obtain old | granted := Usage.mem_writers_ask.1 mem
    · exact renamed.keeps (fun _ displaced => by cases displaced) (writing.writers w old)
    · refine opens w ?_
      simp only [Request.run, Request.keeping, backend] at granted
      cases answer : (f.openWriter r u.store).1 <;> simp_all [Except.map]
  | write i bytes =>
    unfold Usage.perform
    dsimp only
    split
    · exact ⟨writing, .refl _⟩
    next w found =>
    have number := writing.writers w (List.mem_of_getElem? found)
    have filling : f.Filling home r w.body u.store (w.write bytes u.store).2 :=
      w.keeps_write (fun _ bytes filling => filling.setBody bytes) bytes
        (.refl writing.standing number)
    refine ⟨⟨filling.standing, fun w' mem => ?_⟩, filling.confined⟩
    obtain old | rfl := List.mem_or_eq_of_mem_set mem
    · exact filling.number.trans (number.symm.trans (writing.writers w' old))
    · exact filling.number.trans (congrArg some (w.body_write bytes u.store).symm)
  | flush i =>
    unfold Usage.perform
    dsimp only
    split
    · exact ⟨writing, .refl _⟩
    next w found =>
    have number := writing.writers w (List.mem_of_getElem? found)
    have filling : f.Filling home r w.body u.store (w.flush u.store).2 :=
      w.keeps_flush (fun _ bytes filling => filling.setBody bytes) (.refl writing.standing number)
    refine ⟨⟨filling.standing, fun w' mem => ?_⟩, filling.confined⟩
    obtain old | rfl := List.mem_or_eq_of_mem_set mem
    · exact filling.number.trans (number.symm.trans (writing.writers w' old))
    · exact filling.number.trans
        (congrArg some (Disk.Writer.body_deliver { w with pending := [] } w.pending u.store).symm)
  | close i =>
    unfold Usage.perform
    dsimp only
    split
    · exact ⟨writing, .refl _⟩
    next w found =>
    have number := writing.writers w (List.mem_of_getElem? found)
    have filling : f.Filling home r w.body u.store (w.flush u.store).2 :=
      w.keeps_flush (fun _ bytes filling => filling.setBody bytes) (.refl writing.standing number)
    refine ⟨⟨filling.standing, fun w' mem => ?_⟩, filling.confined⟩
    exact filling.number.trans
      (number.symm.trans (writing.writers w' (List.mem_of_mem_eraseIdx mem)))

theorem keeps_iff_content {d' : Disk} : f.backend.Keeps r d d' ↔
    f.numbering.content? r.address d' = f.numbering.content? r.address d := by
  rw [keeps_iff, content?_numbering, content?_numbering]

/-- Files at two places that are not linked are independent. -/
theorem independent (standing : f.Standing home d) (other : ¬ SamePlace r.address q.address)
    (apart : ¬ f.numbering.Linked r.address q.address d) : f.backend.Independent r q d := by
  have confined {r : Resource} {writes : List Call} (all : ∀ call ∈ writes, call.IsWriteTo r) :
      f.numbering.Confined (SamePlace · r.address) r.address d
        (Usage.after f.backend d writes).store :=
    .run (I := f.WritingTo home r) (fun _ _ => confined_perform) all
      (u := { store := d }) ⟨standing, fun _ mem => by cases mem⟩
  constructor
  · intro writes all
    refine keeps_iff_content.2 ((confined all).content _ (fun same => other same.symm) ?_)
    exact fun linked => apart linked.symm
  · intro writes all
    exact keeps_iff_content.2 ((confined all).content _ other apart)

end Files
end ArtifactCache
