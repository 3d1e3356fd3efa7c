import ArtifactCache.Memory
import ArtifactCache.Proofs.Usage

/-!
Files by number. Both stores keep the bytes of a file under a number that its
name leads to, and links are names with one number. `Numbering.Serves` says in
these terms what opening a file for writing, writing, closing and copying do,
whatever the store; `Memory.serves` is that of the store in memory.
-/
namespace ArtifactCache

/-- An error of the store. -/
def Failure.IsStorage (e : Failure) : Prop :=
  ∃ activity place fault, e = .storage activity place fault

/-- How a store with writers of type `W` keeps its files. -/
structure Numbering (S W : Type) where
  /-- The number that a name leads to, if it is that of a file. -/
  number? : Address → S → Option Nat
  bytes : S → Nat → Bytes
  /-- The store is in order, and new numbers will not be in use. -/
  sound : S → Prop
  /-- The writer replaces the content of the file, and was given these bytes so far. -/
  writing : Address → W → Bytes → S → Prop

namespace Numbering
variable {S R W : Type} (N : Numbering S W)

def content? (a : Address) (s : S) : Option Bytes := (N.number? a s).map (N.bytes s)

/-- A file with the bytes, which is not linked to that of `a`. -/
def Source (a b : Address) (bytes : Bytes) (s : S) : Prop :=
  ∃ k, N.number? b s = some k ∧ N.number? a s ≠ some k ∧ N.bytes s k = bytes

instance (a b : Address) (bytes : Bytes) (s : S) :
    Decidable (N.Source a b bytes s) :=
  decidable_of_iff (∃ k ∈ N.number? b s, N.number? a s ≠ some k ∧ N.bytes s k = bytes) Iff.rfl

/-- The file of `a` may have changed, and the files that are not linked to it
have not. -/
structure Spares (a : Address) (s s' : S) : Prop where
  sound : N.sound s'
  source (b : Address) (k : Nat) : N.number? b s = some k → N.number? a s ≠ some k →
    N.number? b s' = some k ∧ N.number? a s' ≠ some k ∧ N.bytes s' k = N.bytes s k

/-- The file of `a` is as it was, whatever happened elsewhere. -/
structure Stays (a : Address) (s s' : S) : Prop where
  sound : N.sound s'
  number : N.number? a s' = N.number? a s
  bytes (k : Nat) : N.number? a s = some k → N.bytes s' k = N.bytes s k

/-- What a backend does to the files of its store. -/
structure Serves (b : Backend S R W) : Prop where
  content (r : Resource) (s : S) : b.content? r s = N.content? r.address s
  openWriter {r : Resource} {s : S} {w : W} : N.sound s → (b.openWriter r s).1 = .ok w →
    N.Spares r.address s (b.openWriter r s).2 ∧ N.writing r.address w [] (b.openWriter r s).2
  write {a : Address} {w : W} {given : Bytes} {s : S} (bytes : Bytes) : N.sound s →
    N.writing a w given s → N.Spares a s (b.write w bytes s).2 ∧
      N.writing a (b.write w bytes s).1 (given ++ bytes) (b.write w bytes s).2
  flush {a : Address} {w : W} {given : Bytes} {s : S} : N.sound s → N.writing a w given s →
    N.Spares a s (b.flush w s).2 ∧ N.writing a (b.flush w s).1 given (b.flush w s).2
  closeWriter {a : Address} {w : W} {given : Bytes} {s : S} : N.sound s → N.writing a w given s →
    N.Spares a s (b.closeWriter w s) ∧ N.content? a (b.closeWriter w s) = some given
  copy {source r : Resource} {bytes : Bytes} {s : S} : N.sound s →
    N.Source r.address source.address bytes s → (b.copy source r s).1 = .ok () →
    N.Spares r.address s (b.copy source r s).2 ∧
      N.content? r.address (b.copy source r s).2 = some bytes
  openFailure {r : Resource} {s : S} {e : Failure} :
    (b.openWriter r s).1 = .error e → e.IsStorage
  copyFailure {source r : Resource} {s : S} {e : Failure} :
    (b.copy source r s).1 = .error e → e.IsStorage
  /-- Meanwhile the file holds a part of what the writer was given. -/
  part {a : Address} {w : W} {given : Bytes} {s : S} : N.writing a w given s →
    ∃ bytes, N.content? a s = some bytes ∧ bytes <+: given
  stays {a : Address} {w : W} {given : Bytes} {s s' : S} : N.Stays a s s' →
    N.writing a w given s → N.writing a w given s'

variable {N} {a b : Address} {bytes : Bytes} {s s' : S}

theorem Spares.keeps (spares : N.Spares a s s') (source : N.Source a b bytes s) :
    N.Source a b bytes s' := by
  obtain ⟨k, number, apart, rfl⟩ := source
  obtain ⟨number, apart, same⟩ := spares.source b k number apart
  exact ⟨k, number, apart, same⟩

theorem Spares.refl (sound : N.sound s) : N.Spares a s s :=
  ⟨sound, fun _ _ number apart => ⟨number, apart, rfl⟩⟩

theorem Spares.trans {s'' : S} (first : N.Spares a s s') (second : N.Spares a s' s'') :
    N.Spares a s s'' := by
  refine ⟨second.sound, fun b k number apart => ?_⟩
  obtain ⟨number, apart, same⟩ := first.source b k number apart
  obtain ⟨number, apart, same'⟩ := second.source b k number apart
  exact ⟨number, apart, same'.trans same⟩

theorem Stays.content (stays : N.Stays a s s') : N.content? a s' = N.content? a s := by
  unfold content?
  rw [stays.number]
  cases number : N.number? a s with
  | none => rfl
  | some k => simp [stays.bytes k number]

end Numbering

/-! ## In memory -/

namespace Memory
variable {a : Address} {m : Memory} {w : Writer} {given : Bytes}

/-- A writer keeps all that it was given, and the file has as much of it as was
published. -/
def numbering : Numbering Memory Writer where
  number? a m := m.files.get? a
  bytes m n := (m.entries.get? n).getD []
  sound m := ∀ a n, m.files.get? a = some n → n < m.fresh
  writing a w given m := w.resource.address = a ∧ w.buffer = given ∧
    ∃ published, m.content? a = some published ∧ published <+: given ∧
      (w.dirty = false → published = given)

theorem content?_numbering (a : Address) (m : Memory) : numbering.content? a m = m.content? a := rfl

theorem content?_commit (a : Address) (bytes : Bytes) (m : Memory) :
    (m.commit a bytes).content? a = some bytes := by
  unfold commit content?
  split
  · next found => simp [found]
  · simp

theorem spares_commit (sound : numbering.sound m) (a : Address) (bytes : Bytes) :
    numbering.Spares a m (m.commit a bytes) := by
  unfold commit
  split
  · next entry found =>
    refine ⟨sound, fun b k number apart => ⟨number, apart, ?_⟩⟩
    have other : entry ≠ k := fun eq => apart (eq ▸ found)
    simp [numbering, Table.get?_insert, other]
  · next missing =>
    have used (b : Address) (k : Nat) (number : m.files.get? b = some k) : m.fresh ≠ k :=
      Nat.ne_of_gt (sound b k number)
    refine ⟨fun b k number => ?_, fun b k number apart => ⟨?_, ?_, ?_⟩⟩
    · rw [Table.get?_insert] at number
      split at number
      · exact Option.some.inj number ▸ Nat.lt_succ_self _
      · exact Nat.lt_succ_of_lt (sound b k number)
    · have other : a ≠ b := by
        rintro rfl
        cases missing.symm.trans number
      simpa [numbering, Table.get?_insert, other] using number
    · simpa [numbering] using used b k number
    · simp [numbering, Table.get?_insert, used b k number]

/-- The writer goes on, or ends, with all that it was given published. -/
theorem publish_of_writing (sound : numbering.sound m) (writing : numbering.writing a w given m) :
    numbering.Spares a m (publish w m) ∧ (publish w m).content? a = some given := by
  obtain ⟨rfl, rfl, published, content, _, clean⟩ := writing
  unfold publish
  split
  · exact ⟨spares_commit sound _ _, content?_commit _ _ _⟩
  · next still => exact ⟨.refl sound, clean (by simpa using still) ▸ content⟩

theorem of_openWriter_eq_ok {r : Resource} (opened : (m.openWriter r).1 = .ok w) :
    w = { resource := r } ∧ (m.openWriter r).2 = m.commit r.address [] := by
  unfold openWriter unlessBarred at opened ⊢
  cases above : m.fileAbove? r with
  | some file => simp [above] at opened
  | none =>
    simp only [above] at opened ⊢
    split at opened
    · cases opened
    · next free =>
      rw [if_neg free]
      exact ⟨(Except.ok.inj opened).symm, rfl⟩

theorem of_copy_eq_ok {source target : Resource} (copied : (m.copy source target).1 = .ok ()) :
    ∃ bytes, m.content? source.address = some bytes ∧
      (m.copy source target).2 = m.commit target.address bytes := by
  unfold copy unlessBarred at copied ⊢
  cases content : m.content? source.address with
  | none => simp [content] at copied
  | some bytes =>
    cases above : m.fileAbove? target with
    | some file => simp [content, above] at copied
    | none => exact ⟨bytes, rfl, rfl⟩

theorem isStorage_of_unlessBarred {α : Type} {activity : Activity} {r : Resource} {e : Failure}
    {go : Except Failure α × Memory} (rest : ∀ e, go.1 = .error e → e.IsStorage)
    (failed : (unlessBarred activity r m go).1 = .error e) : e.IsStorage := by
  unfold unlessBarred at failed
  split at failed
  · obtain rfl := Except.error.inj failed
    exact ⟨_, _, _, rfl⟩
  · exact rest e failed

theorem isStorage_of_openWriter {r : Resource} {e : Failure}
    (failed : (m.openWriter r).1 = .error e) : e.IsStorage := by
  refine isStorage_of_unlessBarred (fun e failed => ?_) failed
  split at failed
  · obtain rfl := Except.error.inj failed
    exact ⟨_, _, _, rfl⟩
  · cases failed

theorem isStorage_of_copy {source target : Resource} {e : Failure}
    (failed : (m.copy source target).1 = .error e) : e.IsStorage := by
  unfold copy at failed
  split at failed
  · obtain rfl := Except.error.inj failed
    exact ⟨_, _, _, rfl⟩
  · exact isStorage_of_unlessBarred (fun e failed => by cases failed) failed

theorem serves (linking : Bool) : numbering.Serves (backend linking) where
  content r m := by
    simp only [Backend.content?, backend, content?_numbering]
    cases m.content? r.address <;> rfl
  openWriter {r m w} sound opened := by
    obtain ⟨rfl, made⟩ := of_openWriter_eq_ok opened
    simp only [backend, made]
    exact ⟨spares_commit sound _ _, rfl, rfl, [], content?_commit _ _ _, List.prefix_rfl,
      fun _ => rfl⟩
  write bytes sound writing := by
    obtain ⟨at_a, rfl, published, content, part, _⟩ := writing
    exact ⟨.refl sound, at_a, rfl, published, content, part.trans (List.prefix_append _ _),
      fun clean => by cases clean⟩
  flush {a w given m} sound writing := by
    obtain ⟨spares, content⟩ := publish_of_writing sound writing
    exact ⟨spares, writing.1, writing.2.1, given, content, List.prefix_rfl, fun _ => rfl⟩
  closeWriter := publish_of_writing
  copy {source r bytes m} sound given copied := by
    obtain ⟨k, number, _, rfl⟩ := given
    obtain ⟨bytes, content, made⟩ := of_copy_eq_ok copied
    have same : numbering.content? source.address m = some (numbering.bytes m k) := by
      simp [Numbering.content?, number]
    obtain rfl : bytes = numbering.bytes m k := Option.some.inj (content.symm.trans same)
    simp only [backend, made]
    exact ⟨spares_commit sound _ _, content?_commit _ _ _⟩
  openFailure := isStorage_of_openWriter
  copyFailure := isStorage_of_copy
  part {a w given m} writing := by
    obtain ⟨_, _, published, content, part, _⟩ := writing
    exact ⟨published, content, part⟩
  stays {a w given m m'} stays writing := by
    obtain ⟨at_a, buffer, published, content, rest⟩ := writing
    exact ⟨at_a, buffer, published, stays.content.trans content, rest⟩

end Memory
end ArtifactCache
