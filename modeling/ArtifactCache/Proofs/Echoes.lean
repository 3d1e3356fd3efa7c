import ArtifactCache.Catalog

/-!
# Programs that echo each other

* `Program.Echoes`: one program does what another does, with steps of its own in between
  that make no difference;
* `World.Alike`: worlds that differ in nothing but what hooks were asked;
* `Action.Oblivious`: programs that do the same in such worlds.
-/
namespace ArtifactCache

namespace Program
variable {σ τ α β α' β' : Type} {alike : σ → τ → Prop} {f : α → α'} {g : β → β'}

/-- The second program does what the first does, in states that are alike, and ends with
`f` of its value. In between it may take steps of its own, which make no difference. -/
inductive Echoes (alike : σ → τ → Prop) (f : α → α') : Program σ α → Program τ α' → Prop
  | done (v : α) : Echoes alike f (.done v) (.done (f v))
  | step {γ γ' : Type} {act : σ → Option (γ × σ)} {act' : τ → Option (γ' × τ)}
      {next : γ → Program σ α} {next' : γ' → Program τ α'} (answer : γ → γ') :
      (∀ s t, alike s t →
        Option.Rel (fun a b => b.1 = answer a.1 ∧ alike a.2 b.2) (act s) (act' t)) →
      (∀ v, Echoes alike f (next v) (next' (answer v))) →
      Echoes alike f (.step act next) (.step act' next')
  | extra {p : Program σ α} {act' : τ → τ} {next' : Unit → Program τ α'} :
      (∀ s t, alike s t → alike s (act' t)) → Echoes alike f p (next' ()) →
      Echoes alike f p (.step (fun t => some ((), act' t)) next')

theorem Echoes.bind {p : Program σ α} {q : Program τ α'} {k : α → Program σ β}
    {k' : α' → Program τ β'} (first : Echoes alike f p q)
    (rest : ∀ v, Echoes alike g (k v) (k' (f v))) : Echoes alike g (p >>= k) (q >>= k') := by
  induction first with
  | done v => exact rest v
  | step answer acts _ ih => exact .step answer acts ih
  | extra still _ ih => exact .extra still ih

theorem echoes_attempt {act : σ → Option (α × σ)} {act' : τ → Option (α' × τ)}
    (acts : ∀ s t, alike s t →
      Option.Rel (fun a b => b.1 = f a.1 ∧ alike a.2 b.2) (act s) (act' t)) :
    Echoes alike f (attempt act) (attempt act') :=
  .step f acts fun v => .done v

theorem echoes_change {act : σ → α × σ} {act' : τ → α' × τ}
    (acts : ∀ s t, alike s t → (act' t).1 = f (act s).1 ∧ alike (act s).2 (act' t).2) :
    Echoes alike f (change act) (change act') :=
  echoes_attempt fun s t same => .some (acts s t same)

/-- Programs that follow each other end or wait together. -/
theorem Echoes.run {p : Program σ α} {q : Program τ α'} (echoes : Echoes alike f p q) {s : σ}
    {t : τ} (same : alike s t) :
    (∃ v e e', p.run s = .finished v e ∧ q.run t = .finished (f v) e' ∧ alike e e') ∨
    ∃ rest e rest' e', p.run s = .waiting rest e ∧ q.run t = .waiting rest' e' ∧ alike e e' := by
  induction echoes generalizing s t with
  | done v => exact .inl ⟨v, s, t, rfl, rfl, same⟩
  | @step _ _ act act' next next' answer acts _ ih =>
    have together := acts s t same
    rw [Program.run, Program.run]
    generalize act s = moved at together
    generalize act' t = moved' at together
    cases together with
    | none => exact .inr ⟨_, s, _, t, rfl, rfl, same⟩
    | @some a b both =>
      obtain ⟨v, s'⟩ := a
      obtain ⟨_, t'⟩ := b
      obtain ⟨rfl, same'⟩ := both
      exact ih v same'
  | extra still _ ih => exact ih (still s t same)

/-- A step of the second program is a step of its own, or one of the first. -/
theorem Echoes.of_step {γ' : Type} {p : Program σ α} {act' : τ → Option (γ' × τ)}
    {next' : γ' → Program τ α'} (echoes : Echoes alike f p (.step act' next')) {s : σ} {t t' : τ}
    {b' : γ'} (same : alike s t) (admits : act' t = some (b', t')) :
    (alike s t' ∧ Echoes alike f p (next' b')) ∨
    ∃ (γ : Type) (act : σ → Option (γ × σ)) (next : γ → Program σ α) (b : γ) (s' : σ),
      p = .step act next ∧ act s = some (b, s') ∧ alike s' t' ∧
      Echoes alike f (next b) (next' b') := by
  cases echoes with
  | @step _ _ act _ next _ answer acts rest =>
    have together := acts s t same
    rw [admits] at together
    generalize moves : act s = moved at together
    cases together with
    | @some a _ both =>
      obtain ⟨b, s'⟩ := a
      obtain ⟨rfl, same'⟩ := both
      exact .inr ⟨_, act, next, b, s', rfl, moves, same', rest b⟩
  | extra still rest =>
    obtain ⟨_, rfl⟩ := Prod.mk.inj (Option.some.inj admits)
    exact .inl ⟨still s t same, rest⟩

end Program

open Program (echoes_attempt echoes_change)

/-! ## Worlds that differ in what hooks were asked -/

def Occurrence.isHooked : Occurrence → Bool
  | hooked _ => true
  | _ => false

namespace World
variable {S : Type} {w w' : World S}

/-- The trace without what hooks were asked. -/
def unhooked (w : World S) : List Occurrence := w.trace.filter fun o => !o.isHooked

/-- The worlds differ in nothing but what hooks were asked. -/
structure Alike (w w' : World S) : Prop where
  storage : w'.storage = w.storage
  locks : w'.locks = w.locks
  unhooked : w'.unhooked = w.unhooked

namespace Alike

theorem refl (w : World S) : w.Alike w := ⟨rfl, rfl, rfl⟩

/-- No event is lost with what hooks were asked. -/
theorem events (alike : w.Alike w') : w'.events = w.events := by
  have told (w : World S) : w.events = w.unhooked.filterMap Occurrence.event? := by
    unfold World.events World.unhooked
    rw [List.filterMap_filter]
    congr 1
    funext o
    cases o <;> rfl
  rw [told, told, alike.unhooked]

theorem note (alike : w.Alike w') (o : Occurrence) : (w.note o).Alike (w'.note o) where
  storage := alike.storage
  locks := alike.locks
  unhooked := by
    have same := alike.unhooked
    unfold World.unhooked at same
    simp only [World.unhooked, World.note, List.filter_append, same]

theorem hooked (alike : w.Alike w') (call : HookCall) : w.Alike (w'.note (.hooked call)) where
  storage := alike.storage
  locks := alike.locks
  unhooked := by
    simpa [World.unhooked, World.note, Occurrence.isHooked] using alike.unhooked

theorem withLocks (alike : w.Alike w') (ls : Locks) : (w.withLocks ls).Alike (w'.withLocks ls) :=
  ⟨alike.storage, rfl, alike.unhooked⟩

theorem withStorage (alike : w.Alike w') (s : S) :
    ({ w with storage := s } : World S).Alike { w' with storage := s } :=
  ⟨rfl, alike.locks, alike.unhooked⟩

end Alike
end World

/-! ## Programs that echo themselves -/

section
variable {S R W α β H H' : Type}

/-- The programs do the same in worlds that are alike. -/
abbrev Action.Echoes (f : α → β) (p : Action S α) (q : Action S β) : Prop :=
  Program.Echoes World.Alike f p q

/-- The program does the same in worlds that are alike. -/
abbrev Action.Oblivious (p : Action S α) : Prop := Action.Echoes id p p

theorem oblivious_pure (v : α) : Action.Oblivious (pure v : Action S α) := .done v

theorem oblivious_note (o : Occurrence) : Action.Oblivious (Action.note o : Action S Unit) :=
  echoes_change fun _ _ alike => ⟨rfl, alike.note o⟩

theorem oblivious_say (level : Level) (speaker : Speaker) (text : String) :
    Action.Oblivious (Action.say level speaker text : Action S Unit) := oblivious_note _

theorem oblivious_inspect (view : S → α) : Action.Oblivious (Action.inspect view) :=
  echoes_change fun _ _ alike => ⟨congrArg view alike.storage, alike⟩

theorem oblivious_alter (act : S → α × S) : Action.Oblivious (Action.alter act) := by
  apply echoes_change
  intro w w' alike
  simp only [alike.storage]
  exact ⟨rfl, alike.withStorage _⟩

namespace Locks
variable (t : Thread) (r : Resource)

theorem oblivious_enter : Action.Oblivious (Program.change fun w : World S =>
    ((), w.withLocks (w.locks.enter r.address))) := by
  apply echoes_change
  intro w w' alike
  rw [alike.locks]
  exact ⟨rfl, alike.withLocks _⟩

theorem oblivious_lock : Action.Oblivious (lock t r : Action S Unit) := by
  refine (oblivious_enter r).bind fun _ => echoes_attempt fun w w' alike => ?_
  rw [alike.locks]
  cases w.locks.hold t r.address with
  | none => exact .none
  | some move => exact .some ⟨rfl, (alike.withLocks _).note _⟩

theorem oblivious_lockStream : Action.Oblivious (lockStream t r : Action S Bool) := by
  refine (oblivious_enter r).bind fun _ => echoes_attempt fun w w' alike => ?_
  rw [alike.locks]
  cases w.locks.holdStream t r.address with
  | none => exact .none
  | some move =>
    obtain ⟨_ | holds, ls, _⟩ := move
    · exact .some ⟨rfl, alike.note _⟩
    · exact .some ⟨rfl, (alike.withLocks _).note _⟩

theorem oblivious_acquire : Action.Oblivious (acquire t r : Action S (Except Failure Unit)) :=
  (oblivious_lockStream t r).bind fun _ => oblivious_pure _

theorem Alike.settle {w w' : World S} (alike : w.Alike w') (notHeld : String)
    (move : Move Release) :
    (settle r notHeld move w').1 = (settle r notHeld move w).1 ∧
      (settle r notHeld move w).2.Alike (settle r notHeld move w').2 := by
  obtain ⟨answer, ls, _⟩ := move
  refine ⟨rfl, ?_⟩
  cases answer with
  | neverLocked | notHeld => exact alike.note _
  | kept => exact alike.withLocks _
  | freed => exact (alike.withLocks _).note _

theorem oblivious_unlock : Action.Oblivious (unlock r : Action S Bool) := by
  apply echoes_change
  intro w w' alike
  rw [alike.locks]
  exact Alike.settle r alike _ _

theorem oblivious_unlockStream : Action.Oblivious (unlockStream r : Action S Bool) := by
  apply echoes_change
  intro w w' alike
  rw [alike.locks]
  exact Alike.settle r alike _ _

theorem oblivious_awaitFree : Action.Oblivious (awaitFree t r : Action S Unit) := by
  apply echoes_attempt
  intro w w' alike
  simp only [alike.locks]
  split
  · exact .some ⟨trivial, alike⟩
  · exact .none

theorem oblivious_isLocked : Action.Oblivious (isLocked r : Action S Bool) :=
  echoes_change fun _ _ alike => ⟨congrArg (isHeld r.address) alike.locks, alike⟩

end Locks

namespace Handle
variable (h : Handle S R W)

theorem oblivious_fire (event : Event) : Action.Oblivious (h.fire event) := by
  apply (oblivious_note _).bind
  intro _
  split
  · exact oblivious_say _ _ _
  · exact oblivious_pure _

theorem oblivious_reportFailure (fire : Bool) (m : Metadata) (result : Except Failure α) :
    Action.Oblivious (h.reportFailure fire m result) := by
  cases result with
  | ok => exact oblivious_pure _
  | error e =>
    cases fire
    · exact oblivious_pure _
    · exact h.oblivious_fire _

end Handle

namespace Handle
variable (c : Cache S R W)

theorem oblivious_readInput (input : Input R) (limit : Option Nat) :
    Action.Oblivious (input.read c limit) :=
  (oblivious_inspect _).bind fun _ => oblivious_pure _

theorem oblivious_closeInput (input : Input R) : Action.Oblivious (input.close c) := by
  unfold Input.close
  split
  · exact oblivious_pure _
  · exact oblivious_fire _ _

namespace Output
variable (output : Output W)

theorem oblivious_call (call : StreamCall) : Action.Oblivious (output.call c call) :=
  (oblivious_alter _).bind fun _ => oblivious_pure _

theorem oblivious_put (bytes : Bytes) : Action.Oblivious (output.put c bytes) :=
  output.oblivious_call c _

theorem oblivious_write (bytes : Bytes) : Action.Oblivious (output.write c bytes) := by
  unfold write
  split
  · exact oblivious_pure _
  · exact output.oblivious_put c bytes

theorem oblivious_close : Action.Oblivious (output.close c) := by
  refine (output.oblivious_call c .flush).bind fun _ => (oblivious_alter _).bind fun _ =>
    (Locks.oblivious_unlockStream _).bind fun _ => ?_
  split
  · exact oblivious_pure _
  · exact (oblivious_fire _ _).bind fun _ => oblivious_pure _

theorem oblivious_drop : Action.Oblivious (output.drop c) := by
  apply (output.oblivious_close c).bind
  intro result
  cases result with
  | ok => exact oblivious_pure _
  | error => exact oblivious_say _ _ _

end Output
end Handle

end
end ArtifactCache
