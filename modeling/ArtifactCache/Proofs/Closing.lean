import ArtifactCache.Proofs.FileNumbers
import ArtifactCache.Proofs.Firing
import ArtifactCache.Proofs.Outcomes
import ArtifactCache.Proofs.SearchOrder

/-!
How writers end. Closing a writer, or dropping it, flushes and closes the stream, gives the hold
back and fires the storage event, in this order, whatever the filter of the stream makes of it.
So whoever hears of the event reads all that the store was given, and finds the hold released
(`Handle.Output.Ended`). Others may move before every step, as long as they leave the resource
alone (`Numbering.LeavesAlone`); what a program does among such others is told by
`Program.Warrants`.

`Handle.Remains` is a writer as its destructors meet it. What was taken from it is not there
for the next one, so none of them does anything twice.
-/
namespace ArtifactCache

open Handle (Output)

/-! ## Programs among others -/

namespace Program
variable {σ α β : Type} {others does : σ → σ → Prop} {such : α → σ → Prop} {s s' : σ}

/-- Others do not change whether the state is such. -/
def Stable (others : σ → σ → Prop) (here : σ → Prop) : Prop :=
  ∀ s s', others s s' → here s → here s'

theorem Stable.later {here : σ → Prop} (stable : Stable others here) (now : here s)
    (moved : Relation.ReflTransGen others s s') : here s' := by
  induction moved with
  | refl => exact now
  | tail _ move ih => exact stable _ _ move ih

/-- Whatever others do before and after each of its steps: every step that the program takes is
one that it may do, and value and state are such when it has ended. -/
def Warrants (others does : σ → σ → Prop) (such : α → σ → Prop) : Program σ α → σ → Prop
  | done v, s => ∀ s', Relation.ReflTransGen others s s' → such v s'
  | step act next, s => ∀ s', Relation.ReflTransGen others s s' → ∀ b e, act s' = some (b, e) →
      does s' e ∧ Warrants others does such (next b) e

theorem Warrants.later {p : Program σ α} (warrants : p.Warrants others does such s)
    (moved : others s s') : p.Warrants others does such s' := by
  cases p with
  | done v => exact fun e later => warrants e (.head moved later)
  | step act next => exact fun e later => warrants e (.head moved later)

theorem Warrants.of_yields {p : Program σ α} {v : α} (yields : p.Yields others s v s')
    (warrants : p.Warrants others does such s) : such v s' := by
  induction yields with
  | done => exact warrants _ .refl
  | step admits _ ih => exact ih (warrants _ .refl _ _ admits).2
  | meanwhile moved _ ih => exact ih (warrants.later moved)

theorem Yields.mono {others' : σ → σ → Prop} {p : Program σ α} {v : α}
    (yields : p.Yields others s v s') (le : ∀ s s', others s s' → others' s s') :
    p.Yields others' s v s' := by
  induction yields with
  | done v s => exact .done v s
  | step admits _ ih => exact .step admits ih
  | meanwhile moved _ ih => exact .meanwhile (le _ _ moved) ih

theorem Warrants.mono {such' : α → σ → Prop} {p : Program σ α}
    (warrants : p.Warrants others does such s) (le : ∀ v e, such v e → such' v e) :
    p.Warrants others does such' s := by
  induction p generalizing s with
  | done v => exact fun e later => le v e (warrants e later)
  | step act next ih =>
    intro e later b e' admits
    obtain ⟨did, after⟩ := warrants e later b e' admits
    exact ⟨did, ih b after⟩

theorem Warrants.bind {mid : α → σ → Prop} {such : β → σ → Prop} {p : Program σ α}
    {k : α → Program σ β} (first : p.Warrants others does mid s)
    (rest : ∀ v e, mid v e → (k v).Warrants others does such e) :
    (p >>= k).Warrants others does such s := by
  induction p generalizing s with
  | done v => exact rest v s (first s .refl)
  | step act next ih =>
    intro e later b e' admits
    obtain ⟨did, first⟩ := first e later b e' admits
    exact ⟨did, ih b first⟩

theorem warrants_pure {v : α} (stable : Stable others (such v)) (now : such v s) :
    (pure v : Program σ α).Warrants others does such s :=
  fun _ later => stable.later now later

/-- One step from a state of which something is known that others do not change. -/
theorem warrants_attempt {here : σ → Prop} {act : σ → Option (α × σ)}
    (stable : Stable others here) (now : here s)
    (fits : ∀ e b e', here e → act e = some (b, e') → does e e' ∧ such b e')
    (stays : ∀ v, Stable others (such v)) : (attempt act).Warrants others does such s := by
  intro e later b e' admits
  obtain ⟨did, after⟩ := fits e b e' (stable.later now later) admits
  exact ⟨did, warrants_pure (stays b) after⟩

/-- Nothing is asked of the step. -/
theorem warrants_any (act : σ → α × σ) :
    (change act).Warrants others (fun _ _ => True) (fun _ _ => True) s :=
  fun _ _ _ _ _ => ⟨trivial, fun _ _ => trivial⟩

theorem warrants_change {here : σ → Prop} {act : σ → α × σ}
    (stable : Stable others here) (now : here s)
    (fits : ∀ e, here e → does e (act e).2 ∧ such (act e).1 (act e).2)
    (stays : ∀ v, Stable others (such v)) : (change act).Warrants others does such s := by
  refine warrants_attempt stable now (fun s b e known admits => ?_) stays
  obtain ⟨rfl, rfl⟩ := Prod.mk.inj (Option.some.inj admits)
  exact fits s known

/-- Every state admits each of the steps. -/
def NeverWaits : Program σ α → Prop
  | done _ => True
  | step act next => ∀ s, ∃ b e, act s = some (b, e) ∧ NeverWaits (next b)

theorem NeverWaits.bind {p : Program σ α} {k : α → Program σ β} (first : p.NeverWaits)
    (rest : ∀ v, (k v).NeverWaits) : (p >>= k).NeverWaits := by
  induction p with
  | done v => exact rest v
  | step act next ih =>
    intro s
    obtain ⟨b, e, admits, first⟩ := first s
    exact ⟨b, e, admits, ih b first⟩

theorem neverWaits_change (act : σ → α × σ) : (change act).NeverWaits :=
  fun _ => ⟨_, _, rfl, trivial⟩

end Program

open Program (Stable Warrants NeverWaits warrants_pure warrants_attempt warrants_change
  warrants_any neverWaits_change)

theorem World.events_say {S : Type} (level : Level) (speaker : Speaker) (text : String)
    (w : World S) : (w.say level speaker text).events = w.events := by
  simp [say, note, events, Occurrence.event?]

/-! ## A resource that is left alone -/

namespace Lock

/-- The holds beside that of the streamed write. -/
def besides (l : Lock) : Nat := l.holds - if l.streaming then 1 else 0

theorem besides_releaseStream {l : Lock} (streaming : l.streaming = true) :
    l.releaseStream.besides = l.besides ∧ l.releaseStream.streaming = false := by
  unfold releaseStream release besides
  by_cases last : l.holds ≤ 1
  · simp [last, streaming]
  · simp [last, streaming]

end Lock

/-- What giving the hold of a streamed write back does to the locks. -/
theorem Locks.lockAt_releaseStream {ls : Locks} {a : Address}
    (streaming : (ls.lockAt a).streaming = true) :
    (ls.releaseStream a).answer.succeeded = true ∧ ∀ b, (ls.releaseStream a).locks.lockAt b =
      if a = b then (ls.lockAt a).releaseStream else ls.lockAt b := by
  obtain ⟨idle, _⟩ | ⟨_, _, released⟩ := releaseStream_cases ls a
  · cases idle.symm.trans streaming
  · rw [released, put_locks]
    exact ⟨put_answer _, fun b => lockAt_insert ls a b _⟩

/-- A hold that is given back is told in the log, and no event is. -/
theorem Locks.settle_of_succeeded {S : Type} {r : Resource} {w : World S} {move : Move Release}
    (notHeld : String) (done : move.answer.succeeded = true) :
    (settle r notHeld move w).2.storage = w.storage ∧
      (settle r notHeld move w).2.locks = move.locks ∧
      (settle r notHeld move w).2.events = w.events := by
  unfold settle
  cases answer : move.answer with
  | neverLocked | notHeld =>
    rw [answer] at done
    cases done
  | kept => exact ⟨rfl, rfl, rfl⟩
  | freed => exact ⟨rfl, rfl, World.events_say .trace .locks _ (w.withLocks move.locks)⟩

namespace Numbering
variable {S R W : Type} {N : Numbering S W} {b : Backend S R W} {a : Address} {w w' : World S}

/-- What others may do while a writer of the resource is open: they leave its file alone, and
neither begin nor end a streamed write on it. Other holds they may take and give back; giving
back one more than that would end the streamed write. -/
structure LeavesAlone (N : Numbering S W) (a : Address) (w w' : World S) : Prop where
  file : N.Stays a w.storage w'.storage
  streaming : (w'.locks.lockAt a).streaming = (w.locks.lockAt a).streaming

/-- The store is in order, and the hold of a streamed write is among those on the resource. -/
structure Streamed (N : Numbering S W) (a : Address) (w : World S) : Prop where
  sound : N.sound w.storage
  streaming : (w.locks.lockAt a).streaming = true

theorem LeavesAlone.streamed (leaves : N.LeavesAlone a w w') (streamed : N.Streamed a w) :
    N.Streamed a w' where
  sound := leaves.file.sound
  streaming := leaves.streaming.trans streamed.streaming

theorem Streamed.congr (streamed : N.Streamed a w) (sound : N.sound w'.storage)
    (locks : w'.locks = w.locks) : N.Streamed a w' :=
  ⟨sound, locks ▸ streamed.streaming⟩

end Numbering

/-! ## The end of a writer -/

namespace Handle.Output
variable {S R W : Type} {N : Numbering S W} {c : Cache S R W} {output : Output W} {r : Resource}
  {due? : Option Event} {given : Bytes} {w w' : World S}

/-- Who reads the resource gets these bytes, and the hold of the streamed write is given back. -/
structure Ended (b : Backend S R W) (r : Resource) (bytes : Bytes) (w : World S) : Prop where
  content : b.content? r w.storage = some bytes
  released : (w.locks.lockAt r.address).streaming = false

/-- A step on the way to the end. No other holds are touched, and if an event is fired, it is
the one that is due, and everything else is done already. -/
structure Orderly (b : Backend S R W) (r : Resource) (due? : Option Event) (bytes : Bytes)
    (w w' : World S) : Prop where
  holds (a : Address) : (w'.locks.lockAt a).besides = (w.locks.lockAt a).besides
  fires : w'.events ≠ w.events → ∃ event, due? = some event ∧ w' = w.note (.fired event) ∧
    Ended b r bytes w

/-- The writer is open on the resource. The writer of the store was given these bytes. -/
structure IsOpen (N : Numbering S W) (r : Resource) (due? : Option Event) (given : Bytes)
    (output : Output W) (w : World S) : Prop where
  resource : output.resource = r
  onClose : output.onClose? = due?
  streamed : N.Streamed r.address w
  writing : N.writing r.address output.stream given w.storage

/-- The writer was used: written to and flushed any number of times, whatever it answered, and
with others in between. The calls are those that have reached the writer of the store. -/
inductive Used (c : Cache S R W) (others : World S → World S → Prop) (output : Output W)
    (w : World S) : List StreamCall → Output W → World S → Prop
  | opened : Used c others output w [] output w
  | written {passed : List StreamCall} {mid output' : Output W} {w₁ w₂ : World S} {bytes : Bytes}
      {answer : Except Fault Unit} : Used c others output w passed mid w₁ →
    (mid.write c bytes).Yields others w₁ (answer, output') w₂ →
    Used c others output w (passed ++ if bytes = [] then [] else
      (mid.filter.react mid.past (.write bytes)).passes) output' w₂
  | put {passed : List StreamCall} {mid output' : Output W} {w₁ w₂ : World S} {bytes : Bytes}
      {answer : Except Fault Unit} : Used c others output w passed mid w₁ →
    (mid.put c bytes).Yields others w₁ (answer, output') w₂ →
    Used c others output w (passed ++ (mid.filter.react mid.past (.write bytes)).passes)
      output' w₂
  | flushed {passed : List StreamCall} {mid output' : Output W} {w₁ w₂ : World S}
      {answer : Except Fault Unit} : Used c others output w passed mid w₁ →
    (mid.flush c).Yields others w₁ (answer, output') w₂ →
    Used c others output w (passed ++ (mid.filter.react mid.past .flush).passes) output' w₂

/-! ### What each step does -/

theorem Orderly.of_still {b : Backend S R W} {bytes : Bytes} (locks : w'.locks = w.locks)
    (events : w'.events = w.events) : Orderly b r due? bytes w w' where
  holds a := by rw [locks]
  fires fired := absurd events fired

theorem stable_isOpen (serves : N.Serves c.backend) (output : Output W) :
    Stable (N.LeavesAlone r.address) (IsOpen N r due? given output) := by
  intro w w' leaves ⟨resource, onClose, streamed, writing⟩
  exact ⟨resource, onClose, leaves.streamed streamed, serves.stays leaves.file writing⟩

theorem stable_ended (serves : N.Serves c.backend) (bytes : Bytes) :
    Stable (N.LeavesAlone r.address) (Ended c.backend r bytes) := by
  intro w w' leaves ⟨content, released⟩
  refine ⟨?_, leaves.streaming.trans released⟩
  rw [serves.content, leaves.file.content, ← serves.content]
  exact content

/-- The calls that are passed on are given to the writer of the store. -/
theorem writing_pass (serves : N.Serves c.backend) {a : Address} {stream : W} {s : S}
    (calls : List StreamCall) (sound : N.sound s) (writing : N.writing a stream given s) :
    N.sound (pass c calls stream s).2 ∧
      N.writing a (pass c calls stream s).1 (given ++ StreamCall.bytes calls)
        (pass c calls stream s).2 := by
  induction calls generalizing stream given s with
  | nil =>
    rw [StreamCall.bytes, List.map_nil, Part.written, List.append_nil]
    exact ⟨sound, writing⟩
  | cons call rest ih =>
    cases call with
    | write bytes =>
      obtain ⟨spares, writing⟩ := serves.write bytes sound writing
      have passed := ih spares.sound writing
      rw [List.append_assoc] at passed
      exact passed
    | flush =>
      obtain ⟨spares, writing⟩ := serves.flush sound writing
      exact ih spares.sound writing

/-- After a call the writer is still open, and the store was given what the filter passed on. -/
structure Called (N : Numbering S W) (r : Resource) (due? : Option Event) (given : Bytes)
    (output : Output W) (call : StreamCall) (answered : Except Fault Unit × Output W)
    (w : World S) : Prop where
  answer : answered.1 = (output.filter.react output.past call).answer
  filter : answered.2.filter = output.filter
  past : answered.2.past = output.past ++ [call]
  isOpen : IsOpen N r due?
    (given ++ StreamCall.bytes (output.filter.react output.past call).passes) answered.2 w

theorem warrants_call (serves : N.Serves c.backend) (call : StreamCall) (bytes : Bytes)
    (isOpen : IsOpen N r due? given output w) :
    (output.call c call).Warrants (N.LeavesAlone r.address) (Orderly c.backend r due? bytes)
      (Called N r due? given output call) w := by
  let reaction := output.filter.react output.past call
  have passed : (Action.alter (pass c reaction.passes output.stream)).Warrants
      (N.LeavesAlone r.address) (Orderly c.backend r due? bytes) (fun stream w' =>
        IsOpen N r due? (given ++ StreamCall.bytes reaction.passes) { output with stream } w')
      w := by
    apply warrants_change (stable_isOpen serves output) isOpen
    · rintro w ⟨resource, onClose, streamed, writing⟩
      obtain ⟨sound, writing⟩ := writing_pass serves reaction.passes streamed.sound writing
      exact ⟨.of_still rfl rfl, resource, onClose, streamed.congr sound rfl, writing⟩
    · intro stream
      exact stable_isOpen serves _
  refine passed.bind fun stream w' isOpen => warrants_pure ?_ ⟨rfl, rfl, rfl, ?_⟩
  · rintro w₁ w₂ leaves ⟨answer, filter, past, isOpen⟩
    exact ⟨answer, filter, past, stable_isOpen serves _ w₁ w₂ leaves isOpen⟩
  · obtain ⟨resource, onClose, streamed, writing⟩ := isOpen
    exact ⟨resource, onClose, streamed, writing⟩

/-- A writer stays open while it is used. -/
theorem Used.isOpen {others : World S → World S → Prop} {start : Output W} {w₀ : World S}
    {passed : List StreamCall} (serves : N.Serves c.backend)
    (leave : ∀ w w', others w w' → N.LeavesAlone r.address w w')
    (opened : IsOpen N r due? given start w₀) (used : Used c others start w₀ passed output w) :
    IsOpen N r due? (given ++ StreamCall.bytes passed) output w := by
  have called {mid output' : Output W} {w₁ w₂ : World S} {passed : List StreamCall}
      {answer : Except Fault Unit} (call : StreamCall)
      (isOpen : IsOpen N r due? (given ++ StreamCall.bytes passed) mid w₁)
      (yields : (mid.call c call).Yields others w₁ (answer, output') w₂) :
      IsOpen N r due?
        (given ++ StreamCall.bytes (passed ++ (mid.filter.react mid.past call).passes))
        output' w₂ := by
    have after := (warrants_call serves call [] isOpen).of_yields (yields.mono leave)
    rw [StreamCall.bytes_append, ← List.append_assoc]
    exact after.isOpen
  induction used with
  | opened =>
    rw [StreamCall.bytes, List.map_nil, Part.written, List.append_nil]
    exact opened
  | @written passed mid output' w₁ w₂ bytes answer _ yields isOpen =>
    unfold write at yields
    by_cases nothing : bytes = []
    · rw [if_pos nothing] at yields ⊢
      obtain ⟨same, moved⟩ := yields.of_pure
      obtain ⟨-, rfl⟩ := Prod.mk.inj same
      rw [List.append_nil]
      have leaves := Relation.ReflTransGen.mono leave _ _ moved
      exact (stable_isOpen serves output').later isOpen leaves
    · rw [if_neg nothing] at yields ⊢
      exact called (.write bytes) isOpen yields
  | put _ yields isOpen => exact called (.write _) isOpen yields
  | flushed _ yields isOpen => exact called .flush isOpen yields

/-! ### Ending it -/

/-- Giving the hold back touches no other hold. -/
theorem warrants_unlockStream (serves : N.Serves c.backend) {bytes : Bytes}
    (streamed : N.Streamed r.address w) (content : N.content? r.address w.storage = some bytes) :
    (Locks.unlockStream r : Action S Bool).Warrants (N.LeavesAlone r.address)
      (Orderly c.backend r due? bytes) (fun _ => Ended c.backend r bytes) w := by
  have stable : Stable (N.LeavesAlone r.address) fun w : World S =>
      N.Streamed r.address w ∧ N.content? r.address w.storage = some bytes := by
    rintro w w' leaves ⟨streamed, content⟩
    exact ⟨leaves.streamed streamed, leaves.file.content.trans content⟩
  apply warrants_change stable ⟨streamed, content⟩
  · rintro w ⟨⟨_, streaming⟩, content⟩
    obtain ⟨done, released⟩ := Locks.lockAt_releaseStream streaming
    obtain ⟨storage, locks, events⟩ := Locks.settle_of_succeeded (r := r) (w := w)
      ("stream unlock requested for " ++ r.display ++ " with no write in flight") done
    obtain ⟨besides, freed⟩ := Lock.besides_releaseStream streaming
    refine ⟨⟨fun a => ?_, fun fired => absurd events fired⟩, ?_, ?_⟩
    · rw [locks, released]
      split
      · next here => rw [besides, here]
      · rfl
    · rw [storage, serves.content]
      exact content
    · rw [locks, released, if_pos rfl]
      exact freed
  · intro _
    exact stable_ended serves bytes

theorem warrants_fire (serves : N.Serves c.backend) {bytes : Bytes} {event : Event}
    (due : due? = some event) (h : Handle S R W) (ended : Ended c.backend r bytes w) :
    (h.fire event).Warrants (N.LeavesAlone r.address) (Orderly c.backend r due? bytes)
      (fun _ => Ended c.backend r bytes) w := by
  have stable := stable_ended (r := r) serves bytes
  have noted : (Action.note (.fired event) : Action S Unit).Warrants (N.LeavesAlone r.address)
      (Orderly c.backend r due? bytes) (fun _ => Ended c.backend r bytes) w := by
    apply warrants_change stable ended
    · intro w ended
      exact ⟨⟨fun _ => rfl, fun _ => ⟨event, due, rfl, ended⟩⟩, ended.content, ended.released⟩
    · intro _
      exact stable
  refine noted.bind fun _ w ended => ?_
  split
  · apply warrants_change stable ended
    · intro w ended
      exact ⟨.of_still rfl (World.events_say ..), ended.content, ended.released⟩
    · intro _
      exact stable
  · exact warrants_pure stable ended

/-- **The order of closing.** -/
theorem warrants_close (serves : N.Serves c.backend) (isOpen : IsOpen N r due? given output w)
    {bytes : Bytes}
    (all : bytes = given ++ StreamCall.bytes (output.filter.ending output.past)) :
    (output.close c).Warrants (N.LeavesAlone r.address) (Orderly c.backend r due? bytes)
      (fun result w' => result = (output.filter.react output.past .flush).answer ∧
        Ended c.backend r bytes w') w := by
  refine (warrants_call serves .flush bytes isOpen).bind ?_
  rintro ⟨flushed, output'⟩ w₁ ⟨answer, filter, past, isOpen⟩
  change output'.filter = output.filter at filter
  change output'.past = output.past ++ [.flush] at past
  have stable : Stable (N.LeavesAlone r.address) fun w : World S =>
      N.Streamed r.address w ∧ N.content? r.address w.storage = some bytes := by
    rintro w w' leaves ⟨streamed, content⟩
    exact ⟨leaves.streamed streamed, leaves.file.content.trans content⟩
  have closed : (Action.alter fun s =>
      let passed := pass c (output'.filter.leave output'.past) output'.stream s
      ((), c.backend.closeWriter passed.1 passed.2)).Warrants (N.LeavesAlone r.address)
      (Orderly c.backend r due? bytes) (fun _ w' => N.Streamed r.address w' ∧
        N.content? r.address w'.storage = some bytes) w₁ := by
    apply warrants_change (stable_isOpen serves output') isOpen
    · rintro w ⟨_, _, streamed, writing⟩
      obtain ⟨sound, writing⟩ :=
        writing_pass serves (output'.filter.leave output'.past) streamed.sound writing
      obtain ⟨spares, content⟩ := serves.closeWriter sound writing
      refine ⟨.of_still rfl rfl, streamed.congr spares.sound rfl, content.trans ?_⟩
      rw [all, WriteFilter.ending, StreamCall.bytes_append, ← List.append_assoc, filter, past]
    · intro _
      exact stable
  refine closed.bind ?_
  rintro _ w₂ ⟨streamed, content⟩
  rw [isOpen.resource]
  refine (warrants_unlockStream serves streamed content).bind fun _ w₃ ended => ?_
  have returned {w : World S} (ended : Ended c.backend r bytes w) :
      (pure flushed : Action S (Except Fault Unit)).Warrants (N.LeavesAlone r.address)
        (Orderly c.backend r due? bytes) (fun result w' =>
          result = (output.filter.react output.past .flush).answer ∧
          Ended c.backend r bytes w') w := by
    apply warrants_pure
    · rintro w w' leaves ⟨answer, ended⟩
      exact ⟨answer, stable_ended serves bytes w w' leaves ended⟩
    · exact ⟨answer, ended⟩
  have due := isOpen.onClose
  change output'.onClose? = due? at due
  cases event? : output'.onClose? with
  | none => exact returned ended
  | some event =>
    have fired := warrants_fire serves (due.symm.trans event?) ⟨c, r⟩ ended
    exact fired.bind fun _ _ ended => returned ended

theorem warrants_drop (serves : N.Serves c.backend) (isOpen : IsOpen N r due? given output w)
    {bytes : Bytes}
    (all : bytes = given ++ StreamCall.bytes (output.filter.ending output.past)) :
    (output.drop c).Warrants (N.LeavesAlone r.address) (Orderly c.backend r due? bytes)
      (fun _ => Ended c.backend r bytes) w := by
  have stable := stable_ended (r := r) serves bytes
  refine (warrants_close serves isOpen all).bind ?_
  rintro (fault | _) w' ⟨_, ended⟩
  · apply warrants_change stable ended
    · intro w ended
      exact ⟨.of_still rfl (World.events_say ..), ended.content, ended.released⟩
    · intro _
      exact stable
  · exact warrants_pure stable ended

theorem neverWaits_close (c : Cache S R W) (output : Output W) : (output.close c).NeverWaits := by
  have called : (output.flush c).NeverWaits := (neverWaits_change _).bind fun _ => trivial
  refine called.bind fun ⟨flushed, output'⟩ => (neverWaits_change _).bind fun _ =>
    (neverWaits_change _).bind fun _ => ?_
  cases output'.onClose? with
  | none => trivial
  | some event =>
    refine Program.NeverWaits.bind ((neverWaits_change _).bind fun _ => ?_) fun _ => trivial
    split
    · exact neverWaits_change _
    · trivial

theorem neverWaits_drop (c : Cache S R W) (output : Output W) : (output.drop c).NeverWaits := by
  refine (neverWaits_close c output).bind ?_
  rintro (fault | _)
  · exact neverWaits_change _
  · trivial

end Handle.Output

/-! ## The beginning of a writer -/

namespace Handle
variable {S R W α : Type} {N : Numbering S W} {h : Handle S R W} {here : World S → Prop}
  {others : World S → World S → Prop} {w : World S}

/-- What is known of a state before an occurrence is noted is known after it. -/
theorem warrants_note (stable : Stable others here) (still : ∀ w w', w.Still w' → here w → here w')
    (o : Occurrence) (now : here w) :
    (Action.note o).Warrants others (fun _ _ => True) (fun _ => here) w :=
  warrants_change stable now (fun w now => ⟨trivial, still w (w.note o) ⟨rfl, rfl⟩ now⟩)
    fun _ => stable

theorem warrants_consult (stable : Stable others here)
    (still : ∀ w w', w.Still w' → here w → here w') (hook : Hook) (call : HookCall)
    (ask : Hooks → Except Fault α) (passing : α) (now : here w) :
    (h.consult hook call ask passing).Warrants others (fun _ _ => True) (fun _ => here) w := by
  unfold consult
  split
  · exact warrants_pure stable now
  · exact (warrants_note stable still _ now).bind fun _ w now => warrants_pure stable now

theorem warrants_reportFailure (stable : Stable others here)
    (still : ∀ w w', w.Still w' → here w → here w') (fire : Bool) (m : Metadata)
    (result : Except Failure α) (now : here w) :
    (h.reportFailure fire m result).Warrants others (fun _ _ => True) (fun _ => here) w := by
  cases result with
  | ok => exact warrants_pure stable now
  | error e =>
    cases fire
    · exact warrants_pure stable now
    · refine (warrants_note stable still _ now).bind fun _ w now => ?_
      split
      · exact warrants_note stable still _ now
      · exact warrants_pure stable now

end Handle

/-- Whoever gets the hold of a streamed write has it, whatever others do with other holds. -/
theorem Locks.warrants_acquire {S W : Type} {N : Numbering S W} (t : Thread) (r : Resource)
    {w : World S} (sound : N.sound w.storage) :
    (acquire t r : Action S _).Warrants (N.LeavesAlone r.address) (fun _ _ => True)
      (fun result w' => result = .ok () → N.Streamed r.address w') w := by
  have ordered : Stable (N.LeavesAlone r.address) fun w : World S => N.sound w.storage :=
    fun _ _ leaves _ => leaves.file.sound
  have entered :
      (Program.change fun w : World S => ((), w.withLocks (w.locks.enter r.address))).Warrants
        (N.LeavesAlone r.address) (fun _ _ => True) (fun _ w' => N.sound w'.storage) w :=
    warrants_change ordered sound (fun _ sound => ⟨trivial, sound⟩) fun _ => ordered
  have locked : (lockStream t r : Action S Bool).Warrants (N.LeavesAlone r.address)
      (fun _ _ => True) (fun granted w' => granted = true → N.Streamed r.address w') w := by
    refine entered.bind fun _ w₁ sound => warrants_attempt ordered sound ?_ ?_
    · intro w granted w' sound admits
      refine ⟨trivial, fun granted => ?_⟩
      subst granted
      obtain ⟨move, held, eq⟩ := Option.map_eq_some_iff.1 admits
      obtain ⟨_, ⟨busy, rfl⟩ | ⟨free, rfl⟩⟩ := of_holdStream held
      · cases (Prod.mk.inj eq).1
      · obtain ⟨-, rfl⟩ := Prod.mk.inj eq
        exact ⟨sound, by simp [World.say, World.note, World.withLocks, Lock.takeStream]⟩
    · intro granted w w' leaves streamed is_granted
      exact leaves.streamed (streamed is_granted)
  refine locked.bind fun granted w' streamed => warrants_pure ?_ ?_
  · intro w w' leaves streamed is_ok
    exact leaves.streamed (streamed is_ok)
  · intro is_ok
    cases granted with
    | true => exact streamed rfl
    | false => cases is_ok

namespace Handle
variable {S R W : Type} {N : Numbering S W} {h : Handle S R W} {w w' : World S}

/-- The event that is due when the writer ends, if events are wanted. -/
def dueEvent? (h : Handle S R W) (purpose : Purpose) (fire : Bool) (m : Metadata) :
    Option Event :=
  if fire then some (.storage h.resource purpose m) else none

/-- If there is a writer, it is open, and was given these bytes. -/
def OpenedFor (N : Numbering S W) (h : Handle S R W) (due? : Option Event) (given : Bytes)
    (result : Except Failure (Output W)) (w : World S) : Prop :=
  ∀ output, result = .ok output → Output.IsOpen N h.resource due? given output w

theorem stable_openedFor (serves : N.Serves h.cache.backend) (due? : Option Event) (given : Bytes)
    (result : Except Failure (Output W)) :
    Stable (N.LeavesAlone h.resource.address) (OpenedFor N h due? given result) := by
  intro w w' leaves opened output is_ok
  exact Output.stable_isOpen serves output w w' leaves (opened output is_ok)

theorem OpenedFor.still {due? : Option Event} {given : Bytes}
    {result : Except Failure (Output W)} (still : w.Still w')
    (opened : OpenedFor N h due? given result w) : OpenedFor N h due? given result w' := by
  intro output is_ok
  obtain ⟨resource, onClose, streamed, writing⟩ := opened output is_ok
  obtain ⟨storage, locks⟩ := still
  rw [← storage] at writing
  exact ⟨resource, onClose, streamed.congr (storage ▸ streamed.sound) locks, writing⟩

theorem openedFor_error {due? : Option Event} {given : Bytes} (e : Failure) (w : World S) :
    OpenedFor N h due? given (.error e) w := nofun

/-- The writer of the store holds the resource, and was given these bytes. -/
def Begun (N : Numbering S W) (a : Address) (given : Bytes) (stream : W) (w : World S) : Prop :=
  N.Streamed a w ∧ N.writing a stream given w.storage

theorem stable_begun (serves : N.Serves h.cache.backend) {a : Address} (given : Bytes)
    (stream : W) : Stable (N.LeavesAlone a) (Begun N a given stream) :=
  fun _ _ leaves ⟨streamed, writing⟩ =>
    ⟨leaves.streamed streamed, serves.stays leaves.file writing⟩

theorem Begun.still {a : Address} {given : Bytes} {stream : W} (w w' : World S)
    (still : w.Still w') (now : Begun N a given stream w) : Begun N a given stream w' := by
  obtain ⟨streamed, writing⟩ := now
  obtain ⟨storage, locks⟩ := still
  rw [← storage] at writing
  exact ⟨streamed.congr (storage ▸ streamed.sound) locks, writing⟩

/-- What the hook passes on is given to the writer of the store. -/
theorem warrants_begin (serves : N.Serves h.cache.backend) (purpose : Purpose) (m : Metadata)
    {stream : W} (now : Begun N h.resource.address [] stream w) :
    (h.begin purpose m stream).Warrants (N.LeavesAlone h.resource.address) (fun _ _ => True)
      (Begun N h.resource.address (StreamCall.bytes (h.header purpose m))) w := by
  unfold begin
  split
  · next nothing =>
    rw [nothing]
    exact warrants_pure (stable_begun serves [] stream) now
  · apply warrants_change (stable_begun serves [] stream) now
    · rintro w ⟨streamed, writing⟩
      obtain ⟨sound, writing⟩ :=
        Output.writing_pass serves (h.header purpose m) streamed.sound writing
      exact ⟨trivial, streamed.congr sound rfl, writing⟩
    · intro stream
      exact stable_begun serves _ stream

theorem warrants_openWriter (serves : N.Serves h.cache.backend) (purpose : Purpose) (fire : Bool)
    (m : Metadata) (streamed : N.Streamed h.resource.address w) :
    (h.openWriter purpose fire m).Warrants (N.LeavesAlone h.resource.address) (fun _ _ => True)
      (OpenedFor N h (h.dueEvent? purpose fire m) (StreamCall.bytes (h.header purpose m))) w := by
  let header := StreamCall.bytes (h.header purpose m)
  let due? := h.dueEvent? purpose fire m
  have stable (stream : W) := stable_begun (a := h.resource.address) serves [] stream
  have returned (result : Except Failure (Output W)) :=
    stable_openedFor (h := h) serves due? header result
  have opened : (Action.alter (h.cache.backend.openWriter h.resource)).Warrants
      (N.LeavesAlone h.resource.address) (fun _ _ => True)
      (fun opened w' => ∀ stream, opened = .ok stream →
        Begun N h.resource.address [] stream w') w := by
    have held : Stable (N.LeavesAlone h.resource.address) (N.Streamed h.resource.address) :=
      fun _ _ leaves => leaves.streamed
    apply warrants_change held streamed
    · refine fun w streamed => ⟨trivial, fun stream is_ok => ?_⟩
      obtain ⟨spares, writing⟩ := serves.openWriter streamed.sound is_ok
      exact ⟨streamed.congr spares.sound rfl, writing⟩
    · intro opened w w' leaves now stream is_ok
      exact stable stream w w' leaves (now stream is_ok)
  refine opened.bind fun opened w₁ now => ?_
  cases opened with
  | error e => exact warrants_pure (returned _) (openedFor_error e w₁)
  | ok stream =>
    have granted := warrants_consult (h := h) (stable stream) Begun.still .write
      (.write purpose h.resource m) (·.write purpose h.resource m) .passing (now stream rfl)
    refine granted.bind fun asked w₂ now => ?_
    refine (warrants_begin serves purpose m now).bind fun stream w₃ now => ?_
    cases asked with
    | error e =>
      have closed : (Action.alter fun s => ((), h.cache.backend.closeWriter stream s)).Warrants
          (N.LeavesAlone h.resource.address) (fun _ _ => True) (fun _ _ => True) w₃ :=
        warrants_any _
      exact closed.bind fun _ w₄ _ => warrants_pure (returned _) (openedFor_error e w₄)
    | ok filter =>
      have begun := stable_begun (a := h.resource.address) serves header stream
      cases fire
      all_goals
        refine (warrants_note begun Begun.still _ now).bind fun _ w₄ now => ?_
        apply warrants_pure (returned _)
        rintro _ ⟨rfl⟩
        exact ⟨rfl, rfl, now.1, now.2⟩

/-- A writer that was opened is open, and the store was given what the hook has put in front. -/
theorem warrants_openOutput (serves : N.Serves h.cache.backend) (t : Thread) (purpose : Purpose)
    (fire : Bool) (m : Metadata) (sound : N.sound w.storage) :
    (h.openOutput t purpose fire m).Warrants (N.LeavesAlone h.resource.address) (fun _ _ => True)
      (OpenedFor N h (h.dueEvent? purpose fire m) (StreamCall.bytes (h.header purpose m))) w := by
  let due? := h.dueEvent? purpose fire m
  let header := StreamCall.bytes (h.header purpose m)
  have stable (result : Except Failure (Output W)) :=
    stable_openedFor (h := h) serves due? header result
  have still (result : Except Failure (Output W)) (w w' : World S) (still : w.Still w')
      (now : OpenedFor N h due? header result w) : OpenedFor N h due? header result w' :=
    now.still still
  have reported (result : Except Failure (Output W)) (w : World S)
      (now : OpenedFor N h due? header result w) : (do h.reportFailure fire m result; pure result :
        Action S _).Warrants (N.LeavesAlone h.resource.address) (fun _ _ => True)
          (OpenedFor N h due? header) w :=
    (warrants_reportFailure (stable result) (still result) fire m result now).bind
      fun _ _ now => warrants_pure (stable result) now
  have ordered : Stable (N.LeavesAlone h.resource.address) fun w : World S => N.sound w.storage :=
    fun _ _ leaves _ => leaves.file.sound
  have free : (Locks.awaitFree t h.resource : Action S Unit).Warrants
      (N.LeavesAlone h.resource.address) (fun _ _ => True) (fun _ w' => N.sound w'.storage) w := by
    refine warrants_attempt ordered sound (fun w _ w' sound admits => ⟨trivial, ?_⟩)
      fun _ => ordered
    split at admits
    · obtain ⟨_, rfl⟩ := Prod.mk.inj (Option.some.inj admits)
      exact sound
    · cases admits
  unfold openOutput
  refine free.bind fun _ w₁ sound => (Locks.warrants_acquire t h.resource sound).bind ?_
  intro taken w₂ streamed
  cases taken with
  | error e => exact reported (.error e) w₂ (openedFor_error e w₂)
  | ok =>
    refine (warrants_openWriter serves purpose fire m (streamed rfl)).bind fun result w₃ now => ?_
    cases result with
    | ok output => exact reported (.ok output) w₃ now
    | error e =>
      have unlocked : (Locks.unlockStream h.resource : Action S Bool).Warrants
          (N.LeavesAlone h.resource.address) (fun _ _ => True) (fun _ _ => True) w₃ :=
        warrants_any _
      exact unlocked.bind fun _ w₄ _ => reported (.error e) w₄ (openedFor_error e w₄)

end Handle

/-! ## What destructors find -/

namespace Handle

/-- A writer as its destructors meet it: each part is there until it is taken. -/
structure Remains (S R W : Type) where
  /-- The writer of the store, the filter before it, and the calls that this has answered. -/
  stream? : Option (W × WriteFilter × List StreamCall) := none
  guard? : Option Resource := none
  /-- Who is to hear of the end, and what. -/
  pending? : Option (Handle S R W × Event) := none

namespace Remains
variable {S R W : Type}

/-- All parts of a writer. -/
def ofOutput (c : Cache S R W) (output : Output W) : Remains S R W where
  stream? := some (output.stream, output.filter, output.past)
  guard? := some output.resource
  pending? := output.onClose?.map (⟨c, output.resource⟩, ·)

/-- The destructor of the stream: its filter may make more calls, and the writer of the store
is closed. -/
def closeStream (c : Cache S R W) (stream : W × WriteFilter × List StreamCall) : Action S Unit :=
  Action.alter fun s =>
    let (w, s) := Output.pass c (stream.2.1.leave stream.2.2) stream.1 s
    ((), c.backend.closeWriter w s)

/-- The stream is flushed, and gone whatever the flush answers. -/
def flushStream (c : Cache S R W) (stream : W × WriteFilter × List StreamCall) :
    Action S (Except Fault Unit) := do
  let reaction := stream.2.1.react stream.2.2 .flush
  let w ← Action.alter (Output.pass c reaction.passes stream.1)
  closeStream c (w, stream.2.1, stream.2.2 ++ [.flush])
  return reaction.answer

/-- The destructor of the hold. -/
def giveBack (r : Resource) : Action S Unit := do
  let _ ← Locks.unlockStream r

/-- Takes one part after the other, each if it is still there, and ends it. -/
def finish (c : Cache S R W) (left : Remains S R W) :
    Action S (Except Fault Unit × Remains S R W) := do
  let flushed ← left.stream?.elim (pure (.ok ())) (flushStream c)
  left.guard?.elim (pure ()) giveBack
  left.pending?.elim (pure ()) fun (h, event) => h.fire event
  return (flushed, {})

/-- The destructor of the writer, and after it those of the parts that are still there. -/
def destroy (c : Cache S R W) (left : Remains S R W) : Action S Unit := do
  let (flushed, left) ← left.finish c
  match flushed with
  | .ok () => pure ()
  | .error fault =>
    Action.say .warn .stream ("flush failed while dropping write stream: " ++ fault.message)
  left.stream?.elim (pure ()) (closeStream c)
  left.guard?.elim (pure ()) giveBack

/-- Closing a writer, which is destroyed then like any other. -/
def close (c : Cache S R W) (left : Remains S R W) : Action S (Except Fault Unit) := do
  let (flushed, left) ← left.finish c
  left.destroy c
  return flushed

/-- Of a writer that was finished nothing is left to destroy. -/
theorem destroy_nothing (c : Cache S R W) : ({} : Remains S R W).destroy c = pure () := by
  simp [destroy, finish]

/-- Finishing a writer that is whole ends it, and takes all of it. -/
theorem finish_ofOutput (c : Cache S R W) (output : Output W) :
    (ofOutput c output).finish c = do
      let flushed ← output.close c
      return (flushed, {}) := by
  obtain ⟨stream, resource, filter, past, onClose?⟩ := output
  cases onClose? <;>
    simp [ofOutput, finish, flushStream, closeStream, giveBack, Output.close, Output.flush,
      Output.call]

theorem destroy_ofOutput (c : Cache S R W) (output : Output W) :
    (ofOutput c output).destroy c = output.drop c := by
  rw [destroy, finish_ofOutput, Output.drop, bind_assoc]
  refine bind_congr fun flushed => ?_
  cases flushed <;> simp

theorem close_ofOutput (c : Cache S R W) (output : Output W) :
    (ofOutput c output).close c = output.close c := by
  simp [close, finish_ofOutput, destroy_nothing]

end Remains

/-! ## Both stores -/

namespace Output
variable {S R W α : Type}

/-- A way to end a writer: it comes to its end in every state, fires the event that is due and
no other, and that only when the resource holds all the bytes and the hold is given back. So it
is as well when the program has ended. -/
structure EndsSo (others : World S → World S → Prop) (b : Backend S R W) (r : Resource)
    (due? : Option Event) (bytes : Bytes) (such : α → Prop) (p : Action S α) (w : World S) :
    Prop where
  ends : p.NeverWaits
  fires : p.Fires (fun _ fired => fired = due?.toList) []
  orderly : p.Warrants others (Orderly b r due? bytes) (fun v w' => such v ∧ Ended b r bytes w') w

end Output
end Handle

open Handle (Remains)

/-- Every writer of the cache that was opened in a store in order, and that was used in any way,
ends in order, closed or dropped, as long as the resource is left alone. -/
def Cache.WritersEnd {S R W : Type} (N : Numbering S W) (c : Cache S R W) : Prop :=
  ∀ (r : Resource) (t : Thread) (purpose : Purpose) (fire : Bool) (m : Metadata)
    (w₀ w₁ w : World S) (opened output : Output W) (passed : List StreamCall),
    N.sound w₀.storage →
    ((c.handle r).openOutput t purpose fire m).Yields (N.LeavesAlone r.address) w₀
      (.ok opened) w₁ →
    Output.Used c (N.LeavesAlone r.address) opened w₁ passed output w →
    let due? := (c.handle r).dueEvent? purpose fire m
    let bytes := StreamCall.bytes
      ((c.handle r).header purpose m ++ passed ++ output.filter.ending output.past)
    Output.EndsSo (N.LeavesAlone r.address) c.backend r due? bytes
      (· = (output.filter.react output.past .flush).answer) (output.close c) w ∧
    Output.EndsSo (N.LeavesAlone r.address) c.backend r due? bytes
      (fun _ => True) (output.drop c) w

theorem Cache.writersEnd {S R W : Type} {N : Numbering S W} {c : Cache S R W}
    (serves : N.Serves c.backend) : c.WritersEnd N := by
  intro r t purpose fire m w₀ w₁ w opened output passed sound opens used due? bytes
  have begun : Output.IsOpen N r due? (StreamCall.bytes ((c.handle r).header purpose m))
      opened w₁ :=
    ((c.handle r).warrants_openOutput serves t purpose fire m sound).of_yields opens opened rfl
  have isOpen := used.isOpen serves (fun _ _ leaves => leaves) begun
  have all : bytes = StreamCall.bytes ((c.handle r).header purpose m) ++
      StreamCall.bytes passed ++ StreamCall.bytes (output.filter.ending output.past) := by
    rw [← StreamCall.bytes_append, ← StreamCall.bytes_append]
  have closing := output.fires_close c
  have dropping := output.fires_drop c
  rw [isOpen.onClose] at closing dropping
  constructor
  · exact ⟨Output.neverWaits_close c output, closing, Output.warrants_close serves isOpen all⟩
  · have dropped := Output.warrants_drop serves isOpen all
    exact ⟨Output.neverWaits_drop c output, dropping, dropped.mono fun _ _ ended =>
      ⟨trivial, ended⟩⟩

/-- **Writers end in order.** In both stores, for every filter around the stream and whatever
its last flush answers: when the storage event is fired, and when the writer is closed or
dropped, the resource is read as all that the store was given, and the hold is given back;
closing answers as the last flush does. No destructor repeats anything: what closing and
dropping do to the parts of a writer is just this, and of the parts nothing is left. -/
theorem writers_end_in_order :
    (∀ (linking : Bool) (c : Cache Memory Bytes Memory.Writer),
      c.backend = Memory.backend linking → c.WritersEnd Memory.numbering) ∧
    (∀ (f : Files) (c : Cache Disk Disk.Reader Disk.Writer),
      c.backend = f.backend → c.WritersEnd f.numbering) ∧
    ∀ {S R W : Type} (c : Cache S R W) (output : Output W),
      (Remains.ofOutput c output).close c = output.close c ∧
      (Remains.ofOutput c output).destroy c = output.drop c ∧
      ((Remains.ofOutput c output).finish c).EndsIn
        fun (_, left) => left.destroy c = pure () := by
  refine ⟨fun linking c inside => ?_, fun f c inside => ?_, fun c output => ⟨?_, ?_, ?_⟩⟩
  · have serves := Memory.serves linking
    rw [← inside] at serves
    exact Cache.writersEnd serves
  · have serves := f.serves
    rw [← inside] at serves
    exact Cache.writersEnd serves
  · exact Remains.close_ofOutput c output
  · exact Remains.destroy_ofOutput c output
  · rw [Remains.finish_ofOutput]
    exact .seq fun _ => Remains.destroy_nothing c

/-- A filter that keeps everything back, cannot be flushed, and hands all of it on when it is
dropped. Closing fails, and the resource has both bytes when the event is fired. -/
theorem late_delivery_comes_before_event :
    let late : WriteFilter :=
      { react := fun _ call =>
          { passes := [], answer := if call = .flush then .error (.reported "stuck") else .ok () }
        leave := fun past => past.filter (· ≠ .flush) }
    let r : Resource := .ofText { name := "a", uri := "memory:a" } "r"
    let c : Cache Memory Bytes Memory.Writer :=
      { backend := Memory.backend false, hooks? := some { write := fun _ _ _ => .ok late } }
    ∃ opened w₁ output w,
      ((c.handle r).openOutput 0 .upload true ∅).run { storage := .empty } =
        .finished (.ok opened) w₁ ∧
      (opened.write c [1, 2]).run w₁ = .finished (.ok (), output) w ∧
      Output.EndsSo (Memory.numbering.LeavesAlone r.address) c.backend r
        (some (.storage r .upload ∅)) [1, 2] (· = .error (.reported "stuck"))
        (output.close c) w := by
  intro late r c
  let opened : Output Memory.Writer := { stream := { resource := r }, resource := r, filter := late,
                                         onClose? := some (.storage r .upload ∅) }
  have sound : Memory.numbering.sound .empty := fun _ _ number => by cases number
  obtain ⟨w₁, opens⟩ : ∃ w₁, ((c.handle r).openOutput 0 .upload true ∅).run { storage := .empty } =
      .finished (.ok opened) w₁ := ⟨_, rfl⟩
  obtain ⟨w, writes⟩ : ∃ w, (opened.write c [1, 2]).run w₁ =
      .finished (.ok (), { opened with past := [.write [1, 2]] }) w := ⟨_, rfl⟩
  refine ⟨opened, w₁, _, w, opens, writes, ?_⟩
  have ended := writers_end_in_order.1 false c rfl r 0 .upload true ∅ _ w₁ w opened _ _ sound
    (.of_run opens) (.written .opened (.of_run writes))
  exact ended.1

end ArtifactCache
