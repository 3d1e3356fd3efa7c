import ArtifactCache.Memory
import ArtifactCache.Proofs.Firing

/-!
# Events are exact

Threads take turns in any order on their scripts; whatever has been fired is told by the
records of the journal, and by what each thread has begun with.

* `Office.Accounts`: every step of a thread is accounted for by its errands;
* `Office.events_are_exact`: runs of any scripts.
-/
namespace ArtifactCache

open Program (Fires)

/-! ## Marks -/

/-- What a thread leaves in the world and among the streams, step by step. -/
inductive Mark (S : Type)
  | fired (event : Event)
  /-- A stream was taken away, which had been opened on that errand. -/
  | ended (stream : Nat) (opening : Errand S)

namespace Mark
variable {S : Type}

def event? : Mark S → Option Event
  | fired event => some event
  | ended .. => none

def stream? : Mark S → Option Nat
  | fired _ => none
  | ended i _ => some i

@[simp] theorem events_fired (events : List Event) :
    (events.map (fired : Event → Mark S)).filterMap event? = events := by
  simp [List.filterMap_map, Function.comp_def, event?]

@[simp] theorem streams_fired (events : List Event) :
    (events.map (fired : Event → Mark S)).filterMap stream? = [] := by
  simp [List.filterMap_map, Function.comp_def, stream?]

end Mark

/-- The marks of an errand: a stream that was ended, and the events. -/
def Record.marks {S : Type} (e : Record S) : List (Mark S) :=
  match e.errand, e.ended? with
  | .finish i _, some opening => .ended i opening :: e.fires.map .fired
  | _, _ => e.fires.map .fired

theorem Record.events_marks {S : Type} (e : Record S) :
    e.marks.filterMap Mark.event? = e.fires := by
  unfold marks
  split
  · exact Mark.events_fired _
  · exact Mark.events_fired _

namespace Office
variable {S R W α β : Type} {t : Thread} {o o' : Office S R W} {p : Program (Office S R W) α}

/-- Every stream has its event before it, and its opening is in the journal. -/
structure Sound (o : Office S R W) : Prop where
  due {i : Nat} {slot : Slot S R W} {stream : OpenStream R W} :
    o.stream? i = some (slot, stream) → stream.onClose? = slot.opening.due?
  opened {i : Nat} {slot : Slot S R W} : o.streams[i]? = some slot →
    ∃ e ∈ o.journal, e.errand = slot.opening ∧ e.answer = .opened (some i)

/-- What one step of a thread does: it leaves marks, and records in the journal. -/
structure Moves (t : Thread) (marks : List (Mark S)) (records : List (Record S))
    (o o' : Office S R W) : Prop where
  events : o'.world.events = o.world.events ++ marks.filterMap Mark.event?
  journal : o'.journal = o.journal ++ records
  mine (e : Record S) : e ∈ records → e.thread = t
  once : (marks.filterMap Mark.stream?).Nodup
  /-- A stream that is taken away was open. -/
  ended {i : Nat} {opening : Errand S} : .ended i opening ∈ marks →
    ∃ slot stream, o.stream? i = some (slot, stream) ∧ slot.opening = opening ∧ o'.stream? i = none
  /-- A stream that is gone does not come back. -/
  gone {i : Nat} {slot : Slot S R W} : o.streams[i]? = some slot → ∃ slot',
    o'.streams[i]? = some slot' ∧ slot'.opening = slot.opening ∧
      (o.stream? i = none → o'.stream? i = none)
  /-- A stream is gone because it was, or because it was taken away. -/
  vanished {i : Nat} {slot : Slot S R W} : o'.streams[i]? = some slot → o'.stream? i = none →
    .ended i slot.opening ∈ marks ∨ ∃ slot₀, o.streams[i]? = some slot₀ ∧
      slot₀.opening = slot.opening ∧ o.stream? i = none
  sound : o.Sound → o'.Sound

/-- What the thread has begun with, and all that it does, is accounted for by errands,
but for what it has done of the one that it is at: at most one event. -/
def Accounts (t : Thread) (post : α → List (Mark S) → Prop) :
    List (Mark S) → Program (Office S R W) α → Prop
  | begun, .done v => post v begun
  | begun, .step act next => ∀ o b o', o.Sound → act o = some (b, o') → ∃ marks records begun',
      o.Moves t marks records o' ∧ begun ++ marks = records.flatMap Record.marks ++ begun' ∧
      (begun'.filterMap Mark.event?).length ≤ 1 ∧ Accounts t post begun' (next b)

theorem Accounts.bind {mid : α → List (Mark S) → Prop} {post : β → List (Mark S) → Prop}
    {begun : List (Mark S)} {k : α → Program (Office S R W) β} (first : Accounts t mid begun p)
    (rest : ∀ v b, mid v b → Accounts t post b (k v)) : Accounts t post begun (p >>= k) := by
  induction p generalizing begun with
  | done v => exact rest v begun first
  | step act next ih =>
    intro o b o' sound admits
    obtain ⟨marks, records, begun', moves, eq, short, first⟩ := first o b o' sound admits
    exact ⟨marks, records, begun', moves, eq, short, ih b first⟩

/-- In the world events are fired, and nothing else happens in the office. -/
theorem moves_world (t : Thread) {more : List Event} {w : World S}
    (events : w.events = o.world.events ++ more) :
    o.Moves t (more.map .fired) [] { o with world := w } where
  events := by rw [Mark.events_fired]; exact events
  journal := (List.append_nil _).symm
  mine _ mem := absurd mem List.not_mem_nil
  once := by rw [Mark.streams_fired]; exact List.nodup_nil
  ended mem := by
    obtain ⟨_, _, eq⟩ := List.mem_map.1 mem
    cases eq
  gone {i slot} there := ⟨slot, there, rfl, id⟩
  vanished {i slot} there gone := .inr ⟨slot, there, rfl, gone⟩
  sound sound := ⟨sound.due, sound.opened⟩

theorem Accounts.act {post : α → List Event → Prop} {begun : List Event} (before : List (Mark S))
    (quiet : before.filterMap Mark.event? = []) {p : Action S α} (fires : p.Fires post begun) :
    Accounts t (fun v b => ∃ fired, b = before ++ fired.map .fired ∧ post v fired)
      (before ++ begun.map .fired) (Office.act p : Program (Office S R W) α) := by
  induction p generalizing begun with
  | done v => exact ⟨begun, rfl, fires⟩
  | step act next ih =>
    intro o b o' _ admits
    obtain ⟨⟨answer, w⟩, acts, eq⟩ := Option.map_eq_some_iff.1 admits
    obtain ⟨rfl, rfl⟩ := Prod.mk.inj eq
    obtain ⟨more, events, short, fires⟩ := fires o.world answer w acts
    have rest := ih answer fires
    refine ⟨more.map .fired, [], _, moves_world t events, ?_, ?_, rest⟩
    · rw [List.append_assoc, ← List.map_append]
      rfl
    · rwa [List.filterMap_append, quiet, Mark.events_fired]

/-- One step that every office admits. -/
theorem Accounts.change {post : α → List (Mark S) → Prop} {begun : List (Mark S)}
    {act : Office S R W → α × Office S R W}
    (moves : ∀ o : Office S R W, o.Sound → ∃ marks records begun',
      o.Moves t marks records (act o).2 ∧ begun ++ marks = records.flatMap Record.marks ++ begun' ∧
      (begun'.filterMap Mark.event?).length ≤ 1 ∧ post (act o).1 begun') :
    Accounts t post begun (Program.change act) := by
  intro o b o' sound admits
  obtain ⟨rfl, rfl⟩ := Prod.mk.inj (Option.some.inj admits)
  exact moves o sound

/-- The step that changes nothing. -/
theorem Moves.refl (t : Thread) (o : Office S R W) : o.Moves t [] [] o :=
  moves_world t (List.append_nil _).symm

theorem stream?_congr {i : Nat} (same : o'.streams[i]? = o.streams[i]?) :
    o'.stream? i = o.stream? i := by
  unfold stream?
  rw [same]

theorem stream?_eq_some_iff {i : Nat} {slot : Slot S R W} {stream : OpenStream R W} :
    o.stream? i = some (slot, stream) ↔
      o.streams[i]? = some slot ∧ slot.stream? = some stream := by
  unfold stream?
  constructor
  · intro found
    obtain ⟨slot', there, found⟩ := Option.bind_eq_some_iff.1 found
    obtain ⟨stream', there', eq⟩ := Option.map_eq_some_iff.1 found
    obtain ⟨rfl, rfl⟩ := Prod.mk.inj eq
    exact ⟨there, there'⟩
  · rintro ⟨there, there'⟩
    simp [there, there']

/-- Another stream in the place of one is one of the same opening. -/
theorem streams_put {i : Nat} {slot : Slot S R W} (there : o.streams[i]? = some slot)
    (stream? : Option (OpenStream R W)) (j : Nat) :
    (o.put i slot stream?).streams[j]? =
      if i = j then some { slot with stream? } else o.streams[j]? := by
  obtain ⟨inside, _⟩ := List.getElem?_eq_some_iff.1 there
  simp [put, List.getElem?_set, inside]

/-- A stream that is put in a place has the event of its opening before it. -/
theorem Sound.put (sound : o.Sound) {i : Nat} {slot : Slot S R W}
    (there : o.streams[i]? = some slot) {stream? : Option (OpenStream R W)}
    (due : ∀ stream, stream? = some stream → stream.onClose? = slot.opening.due?) :
    (o.put i slot stream?).Sound := by
  have streams := streams_put there stream?
  constructor
  · intro j slot' stream found
    obtain ⟨there', holds⟩ := stream?_eq_some_iff.1 found
    rw [streams] at there'
    split at there'
    · obtain rfl := Option.some.inj there'
      exact due stream holds
    · exact sound.due (stream?_eq_some_iff.2 ⟨there', holds⟩)
  · intro j slot' there'
    rw [streams] at there'
    split at there'
    · next here =>
      subst here
      obtain rfl := Option.some.inj there'
      have opened := sound.opened there
      exact opened
    · exact sound.opened there'

/-- Putting a stream in its place, or nothing. -/
theorem moves_put {i : Nat} {slot : Slot S R W} {old : OpenStream R W}
    (found : o.stream? i = some (slot, old)) {stream? : Option (OpenStream R W)}
    {marks : List (Mark S)}
    (marked : marks = if stream?.isSome then [] else [.ended i slot.opening])
    (due : ∀ stream, stream? = some stream → stream.onClose? = slot.opening.due?) :
    o.Moves t marks [] (o.put i slot stream?) := by
  obtain ⟨there, holds⟩ := stream?_eq_some_iff.1 found
  have streams := streams_put there stream?
  constructor
  · subst marked
    cases stream? <;> exact (List.append_nil _).symm
  · exact (List.append_nil _).symm
  · intro e mem
    exact absurd mem List.not_mem_nil
  · subst marked
    cases stream? <;> simp [Mark.stream?]
  · intro j opening mem
    cases stream? with
    | some stream => simp [marked] at mem
    | none =>
      obtain ⟨rfl, rfl⟩ : j = i ∧ opening = slot.opening := by simpa [marked] using mem
      exact ⟨slot, old, found, rfl, by simp [Office.stream?, streams]⟩
  · intro j slot' there'
    by_cases here : i = j
    · subst here
      obtain rfl := Option.some.inj (there.symm.trans there')
      refine ⟨_, (streams i).trans (if_pos rfl), rfl, fun gone => ?_⟩
      cases found.symm.trans gone
    · have same : (o.put i slot stream?).streams[j]? = o.streams[j]? :=
        (streams j).trans (if_neg here)
      exact ⟨slot', same.trans there', rfl, fun gone => (stream?_congr same).trans gone⟩
  · intro j slot' there' gone
    by_cases here : i = j
    · subst here
      obtain rfl := Option.some.inj (there'.symm.trans ((streams i).trans (if_pos rfl)))
      refine .inl ?_
      have empty : stream? = none := by
        cases stream? with
        | none => rfl
        | some stream =>
          exact absurd gone (by rw [stream?_eq_some_iff.2 ⟨there', rfl⟩]; nofun)
      simp [marked, empty]
    · have same : (o.put i slot stream?).streams[j]? = o.streams[j]? :=
        (streams j).trans (if_neg here)
      exact .inr ⟨slot', same.symm.trans there', rfl, (stream?_congr same).symm.trans gone⟩
  · intro sound
    exact sound.put there due

/-- A quiet move in front of another. -/
theorem Moves.after {o₁ : Office S R W} (first : o.Moves t [] [] o₁)
    (second : o₁.Moves t [] [] o') : o.Moves t [] [] o' where
  events := by rw [second.events, first.events, List.append_assoc]; rfl
  journal := by rw [second.journal, first.journal, List.append_assoc]; rfl
  mine _ mem := absurd mem List.not_mem_nil
  once := List.nodup_nil
  ended mem := absurd mem List.not_mem_nil
  gone there := by
    obtain ⟨slot₁, there₁, same₁, gone₁⟩ := first.gone there
    obtain ⟨slot', there', same', gone'⟩ := second.gone there₁
    exact ⟨slot', there', same'.trans same₁, fun gone => gone' (gone₁ gone)⟩
  vanished there gone := by
    obtain mem | ⟨slot₁, there₁, same₁, gone₁⟩ := second.vanished there gone
    · exact absurd mem List.not_mem_nil
    · obtain mem | ⟨slot₀, there₀, same₀, gone₀⟩ := first.vanished there₁ gone₁
      · exact absurd mem List.not_mem_nil
      · exact .inr ⟨slot₀, there₀, same₀.trans same₁, gone₀⟩
  sound sound := second.sound (first.sound sound)

/-- Using a stream leaves it with the event that it had. -/
theorem accounts_use (i : Nat) (how : StreamUse) :
    Accounts t (fun _ b => b = []) [] (Office.use i how : Program (Office S R W) Reply) := by
  intro o b o' sound admits
  dsimp only at admits
  split at admits
  · obtain ⟨rfl, rfl⟩ := Prod.mk.inj (Option.some.inj admits)
    exact ⟨[], [], [], .refl t o, rfl, Nat.zero_le 1, rfl⟩
  next slot stream found =>
  split at admits
  · next answer stream' w ends =>
    obtain ⟨rfl, rfl⟩ := Prod.mk.inj (Option.some.inj admits)
    obtain ⟨same, due⟩ := (stream.unseen_use slot.cache Occurrence.event? how).of_run ends
    have quiet : o.Moves t [] [] { o with world := w } :=
      moves_world t (same.trans (List.append_nil _).symm)
    have found' : ({ o with world := w } : Office S R W).stream? i = some (slot, stream) := found
    refine ⟨[], [], [], quiet.after (moves_put found' rfl ?_), rfl, Nat.zero_le 1, rfl⟩
    rintro _ ⟨rfl⟩
    exact due.trans (sound.due found)
  · cases admits

/-- What was taken away has its event before it, and its opening is marked. -/
theorem accounts_take (i : Nat) : Accounts t (fun taken b => match taken with
    | none => b = []
    | some (slot, stream) => b = [.ended i slot.opening] ∧ stream.onClose? = slot.opening.due?) []
    (Office.take i : Program (Office S R W) _) := by
  apply Accounts.change
  intro o sound
  split
  · exact ⟨[], [], [], .refl t o, rfl, Nat.zero_le 1, rfl⟩
  · next slot stream found =>
    refine ⟨[.ended i slot.opening], [], _, moves_put found rfl (by rintro _ ⟨⟩), rfl, Nat.zero_le 1, rfl, ?_⟩
    exact sound.due found

/-- A stream that was opened is in the next place, and the others stay where they are. -/
theorem streams_settle_iff {c : Cache S R W} {errand : Errand S} {outcome : Outcome S R W}
    {i : Nat} {slot : Slot S R W} :
    (Office.settle c t errand outcome o).2.streams[i]? = some slot ↔
      o.streams[i]? = some slot ∨ ∃ stream, outcome = .opened stream ∧
        i = o.streams.length ∧ slot = ⟨c, errand, some stream⟩ := by
  change (o.streams ++ outcome.slots c errand)[i]? = some slot ↔ _
  constructor
  · intro there
    rw [List.getElem?_append] at there
    split at there
    · exact .inl there
    · cases outcome with
      | answered | ended => simp [Outcome.slots] at there
      | opened stream =>
        obtain ⟨at_end, eq⟩ := List.getElem?_eq_some_iff.1 there
        simp only [Outcome.slots, List.length_singleton, List.getElem_singleton] at at_end eq
        exact .inr ⟨stream, rfl, by omega, eq.symm⟩
  · rintro (there | ⟨stream, rfl, rfl, rfl⟩)
    · obtain ⟨inside, _⟩ := List.getElem?_eq_some_iff.1 there
      rw [List.getElem?_append_left inside, there]
    · simp [Outcome.slots]

/-- What is noted of an errand, and the place of the stream that was opened. -/
theorem moves_settle (c : Cache S R W) {errand : Errand S} {outcome : Outcome S R W}
    (due : ∀ stream, outcome = .opened stream → stream.onClose? = errand.due?)
    (o : Office S R W) :
    o.Moves t [] [outcome.record t errand o.streams.length]
      (Office.settle c t errand outcome o).2 := by
  have keeps {i : Nat} {slot : Slot S R W} (there : o.streams[i]? = some slot) :
      (Office.settle c t errand outcome o).2.streams[i]? = some slot :=
    streams_settle_iff.2 (.inl there)
  constructor
  · exact (List.append_nil _).symm
  · rfl
  · intro e mem
    obtain rfl := List.mem_singleton.1 mem
    cases outcome <;> rfl
  · exact List.nodup_nil
  · intro i opening mem
    exact absurd mem List.not_mem_nil
  · intro i slot there
    exact ⟨slot, keeps there, rfl, fun gone =>
      (stream?_congr ((keeps there).trans there.symm)).trans gone⟩
  · intro i slot there gone
    obtain there₀ | ⟨stream', rfl, rfl, rfl⟩ := streams_settle_iff.1 there
    · exact .inr ⟨slot, there₀, rfl, (stream?_congr (there₀.trans there.symm)).trans gone⟩
    · cases (stream?_eq_some_iff.2 ⟨there, rfl⟩).symm.trans gone
  · intro sound
    constructor
    · intro i slot stream found
      obtain ⟨there, holds⟩ := stream?_eq_some_iff.1 found
      obtain there | ⟨stream', rfl, rfl, rfl⟩ := streams_settle_iff.1 there
      · exact sound.due (stream?_eq_some_iff.2 ⟨there, holds⟩)
      · obtain rfl := Option.some.inj holds
        exact due _ rfl
    · intro i slot there
      obtain there | ⟨stream', rfl, rfl, rfl⟩ := streams_settle_iff.1 there
      · obtain ⟨e, mem, opens⟩ := sound.opened there
        exact ⟨e, List.mem_append_left _ mem, opens⟩
      · exact ⟨_, List.mem_append_right _ (List.mem_singleton.2 rfl), rfl, rfl⟩

/-- An errand is settled: what the thread has done is what its record says. -/
theorem accounts_settle {c : Cache S R W} {errand : Errand S} {outcome : Outcome S R W}
    {begun : List (Mark S)} (marks : ∀ n, begun = (outcome.record t errand n).marks)
    (due : ∀ stream, outcome = .opened stream → stream.onClose? = errand.due?) :
    Accounts t (fun _ b => b = []) begun (Program.change (Office.settle c t errand outcome)) := by
  apply Accounts.change
  intro o sound
  refine ⟨[], [outcome.record t errand o.streams.length], [], moves_settle c due o, ?_,
    Nat.zero_le 1, rfl⟩
  rw [List.append_nil, marks o.streams.length]
  simp

/-! ## Errands and scripts -/

theorem accounts_program {errand : Errand S} (ofHandle : errand.isOfHandle = true)
    (c : Cache S R W) (t : Thread) :
    Accounts t (fun outcome b => (∀ n, b = (outcome.record t errand n).marks) ∧
      ∀ stream, outcome = .opened stream → stream.onClose? = errand.due?) []
      (errand.program c t) := by
  cases errand with
  | chore job =>
    apply (Accounts.act [] rfl (job.fires_action ofHandle c t)).bind
    rintro answer _ ⟨_, rfl, rfl⟩
    exact ⟨fun _ => rfl, by rintro _ ⟨⟩⟩
  | openInput r fire m =>
    apply (Accounts.act [] rfl (c.handle r).fires_openInput).bind
    rintro result _ ⟨_, rfl, rfl, due⟩
    obtain e | _ | input := result
    · refine ⟨fun _ => ?_, by rintro _ ⟨⟩⟩
      cases fire <;> rfl
    · refine ⟨fun _ => ?_, by rintro _ ⟨⟩⟩
      cases fire <;> rfl
    · refine ⟨fun _ => ?_, ?_⟩
      · cases fire <;> rfl
      · rintro _ ⟨rfl⟩
        exact due input rfl
  | openOutput r purpose fire m =>
    apply (Accounts.act [] rfl (c.handle r).fires_openOutput).bind
    rintro result _ ⟨_, rfl, rfl, due⟩
    obtain e | output := result
    · refine ⟨fun _ => ?_, by rintro _ ⟨⟩⟩
      cases fire <;> rfl
    · refine ⟨fun _ => ?_, ?_⟩
      · cases fire <;> rfl
      · rintro _ ⟨rfl⟩
        exact due output rfl
  | use i how =>
    apply (accounts_use i how).bind
    rintro answer _ rfl
    exact ⟨fun _ => rfl, by rintro _ ⟨⟩⟩
  | finish i dropped =>
    apply (accounts_take i).bind
    rintro (_ | ⟨slot, stream⟩) b taken
    · subst taken
      exact ⟨fun _ => rfl, by rintro _ ⟨⟩⟩
    · obtain ⟨rfl, due⟩ := taken
      refine (Accounts.act [.ended i slot.opening] rfl
        (stream.fires_finish slot.cache dropped)).bind ?_
      rintro answer _ ⟨_, rfl, rfl⟩
      refine ⟨fun _ => ?_, by rintro _ ⟨⟩⟩
      rw [due]
      rfl

theorem accounts_script {script : Script S R W} (ofHandles : script.IsOfHandles) (t : Thread) :
    Accounts t (fun _ b => b = []) [] (script.program t) := by
  induction script with
  | stop => exact rfl
  | ask c errand next ih =>
    obtain ⟨ofHandle, ofHandles⟩ := ofHandles
    apply (accounts_program ofHandle c t).bind
    rintro outcome begun ⟨marks, due⟩
    apply (accounts_settle marks due).bind
    rintro answer _ rfl
    exact ih answer (ofHandles answer)

/-! ## Runs -/

/-- The marks of one thread. -/
def marksOf (t : Thread) (log : List (Thread × Mark S)) : List (Mark S) :=
  (log.filter fun (u, _) => u = t).map fun (_, mark) => mark

/-- The errands of one thread. -/
def errandsOf (t : Thread) (o : Office S R W) : List (Record S) :=
  o.journal.filter fun e => e.thread = t

/-- A log of marks that tells the events since `w`, and is told by the journal but for
what each thread has begun with. -/
structure Logged (w : World S) (o : Office S R W) (log : List (Thread × Mark S))
    (begun : Thread → List (Mark S)) : Prop where
  events : o.world.events = w.events ++ log.filterMap fun (_, mark) => mark.event?
  /-- No stream ends twice. -/
  once : (log.filterMap fun (_, mark) => mark.stream?).Nodup
  sound : o.Sound
  /-- What has ended was a stream, and is gone, -/
  ended {u : Thread} {i : Nat} {opening : Errand S} : (u, .ended i opening) ∈ log →
    ∃ slot, o.streams[i]? = some slot ∧ slot.opening = opening ∧ o.stream? i = none
  /-- and nothing else is. -/
  vanished {i : Nat} {slot : Slot S R W} : o.streams[i]? = some slot → o.stream? i = none →
    ∃ u, (u, .ended i slot.opening) ∈ log
  /-- The marks of a thread are those of its errands, in order. -/
  errands (t : Thread) :
    marksOf t log = (o.errandsOf t).flatMap Record.marks ++ begun t
  /-- Of the errand that it is at, a thread has fired at most one event. -/
  short (t : Thread) : ((begun t).filterMap Mark.event?).length ≤ 1

theorem marksOf_append_self (t : Thread) (log : List (Thread × Mark S)) (marks : List (Mark S)) :
    marksOf t (log ++ marks.map (Prod.mk t)) = marksOf t log ++ marks := by
  simp [marksOf, List.filter_map, List.map_map, Function.comp_def]

theorem marksOf_append_of_ne {t u : Thread} (other : u ≠ t) (log : List (Thread × Mark S))
    (marks : List (Mark S)) : marksOf u (log ++ marks.map (Prod.mk t)) = marksOf u log := by
  simp [marksOf, List.filter_map, Function.comp_def, other.symm]

theorem Moves.errandsOf_self {marks : List (Mark S)} {records : List (Record S)}
    (moves : o.Moves t marks records o') : o'.errandsOf t = o.errandsOf t ++ records := by
  have mine : records.filter (fun e => e.thread = t) = records :=
    List.filter_eq_self.2 fun e mem => decide_eq_true (moves.mine e mem)
  rw [errandsOf, moves.journal, List.filter_append, mine, errandsOf]

theorem Moves.errandsOf_of_ne {marks : List (Mark S)} {records : List (Record S)}
    (moves : o.Moves t marks records o') {u : Thread} (other : u ≠ t) :
    o'.errandsOf u = o.errandsOf u := by
  have others : records.filter (fun e => e.thread = u) = [] := by
    rw [List.filter_eq_nil_iff]
    intro e mem same
    exact other ((of_decide_eq_true same).symm.trans (moves.mine e mem))
  rw [errandsOf, moves.journal, List.filter_append, others, List.append_nil, errandsOf]

/-- A stream that was ended before is gone, and one that is ended now was open. -/
theorem Logged.not_ended_again {w : World S} {log : List (Thread × Mark S)}
    {begun : Thread → List (Mark S)} (logged : Logged w o log begun) {marks : List (Mark S)}
    {records : List (Record S)} (moves : o.Moves t marks records o') {i : Nat}
    (before : i ∈ log.filterMap (fun (_, mark) => mark.stream?))
    (now : i ∈ marks.filterMap Mark.stream?) : False := by
  obtain ⟨⟨u, mark⟩, mem, eq⟩ := List.mem_filterMap.1 before
  obtain ⟨mark', mem', eq'⟩ := List.mem_filterMap.1 now
  cases mark with
  | fired => cases eq
  | ended j opening =>
    cases mark' with
    | fired => cases eq'
    | ended j' opening' =>
      cases eq
      cases eq'
      obtain ⟨_, _, _, gone⟩ := logged.ended mem
      obtain ⟨_, _, found, _⟩ := moves.ended mem'
      cases gone.symm.trans found

/-- One step of a thread. -/
theorem Logged.step {w : World S} {log : List (Thread × Mark S)} {begun : Thread → List (Mark S)}
    (logged : Logged w o log begun) {marks b : List (Mark S)} {records : List (Record S)}
    (moves : o.Moves t marks records o')
    (eq : begun t ++ marks = records.flatMap Record.marks ++ b)
    (short : (b.filterMap Mark.event?).length ≤ 1) :
    Logged w o' (log ++ marks.map (Prod.mk t)) fun u => if u = t then b else begun u := by
  constructor
  · rw [moves.events, logged.events, List.filterMap_append, List.filterMap_map, List.append_assoc]
    rfl
  · rw [List.filterMap_append, List.filterMap_map, List.nodup_append]
    refine ⟨logged.once, moves.once, ?_⟩
    rintro i before _ now rfl
    exact logged.not_ended_again moves before now
  · exact moves.sound logged.sound
  · intro u i opening mem
    obtain mem | mem := List.mem_append.1 mem
    · obtain ⟨slot, there, same, gone⟩ := logged.ended mem
      obtain ⟨slot', there', same', gone'⟩ := moves.gone there
      exact ⟨slot', there', same'.trans same, gone' gone⟩
    · obtain ⟨_, mem, eq⟩ := List.mem_map.1 mem
      obtain ⟨rfl, rfl⟩ := Prod.mk.inj eq
      obtain ⟨slot, stream, found, same, gone⟩ := moves.ended mem
      obtain ⟨slot', there', same', _⟩ := moves.gone (stream?_eq_some_iff.1 found).1
      exact ⟨slot', there', same'.trans same, gone⟩
  · intro i slot there gone
    obtain mem | ⟨slot₀, there₀, same, gone₀⟩ := moves.vanished there gone
    · exact ⟨t, List.mem_append_right _ (List.mem_map_of_mem mem)⟩
    · obtain ⟨u, mem⟩ := logged.vanished there₀ gone₀
      exact ⟨u, List.mem_append_left _ (same ▸ mem)⟩
  · intro u
    by_cases own : u = t
    · subst own
      rw [if_pos rfl, marksOf_append_self, logged.errands, moves.errandsOf_self,
        List.flatMap_append, List.append_assoc, List.append_assoc, eq]
    · rw [if_neg own, marksOf_append_of_ne own, logged.errands, moves.errandsOf_of_ne own]
  · intro u
    split
    · exact short
    · exact logged.short u

theorem Logged.start (w : World S) :
    Logged w ({ world := w } : Office S R W) [] fun _ => [] where
  events := (List.append_nil _).symm
  once := List.nodup_nil
  sound := ⟨nofun, nofun⟩
  ended := nofun
  vanished := nofun
  errands _ := rfl
  short _ := Nat.zero_le 1

/-- Whatever threads do in turns, is accounted for. -/
theorem Reached.logged {scripts : Thread → Script S R W}
    (ofHandles : ∀ t, (scripts t).IsOfHandles) {w : World S}
    {left : Thread → Program (Office S R W) Unit} (reached : Reached scripts w o left) :
    ∃ log begun, Logged w o log begun ∧
      ∀ t, Accounts t (fun _ b => b = []) (begun t) (left t) := by
  induction reached with
  | start => exact ⟨[], fun _ => [], .start w, fun t => accounts_script (ofHandles t) t⟩
  | @step o o' left t β b act next _ at_step admits ih =>
    obtain ⟨log, begun, logged, accounts⟩ := ih
    have mine := accounts t
    rw [at_step] at mine
    obtain ⟨marks, records, b', moves, eq, short, rest⟩ := mine o b o' logged.sound admits
    refine ⟨_, _, logged.step moves eq short, fun u => ?_⟩
    dsimp only
    split
    · next own =>
      subst own
      exact rest
    · exact accounts u

/-- A run of one script: all events are those of its errands. -/
theorem Accounts.of_run {post : α → List (Mark S) → Prop} {begun : List (Mark S)}
    (accounts : Accounts t post begun p) (sound : o.Sound) {v : α}
    (ends : p.run o = .finished v o') :
    ∃ marks records b, o'.world.events = o.world.events ++ marks.filterMap Mark.event? ∧
      o'.journal = o.journal ++ records ∧
      begun ++ marks = records.flatMap Record.marks ++ b ∧ post v b := by
  induction p generalizing o begun with
  | done v' =>
    obtain ⟨rfl, rfl⟩ := Program.Progress.finished.inj ends
    exact ⟨[], [], begun, (List.append_nil _).symm, (List.append_nil _).symm,
      List.append_nil _, accounts⟩
  | step act next ih =>
    rw [Program.run] at ends
    split at ends
    · cases ends
    · next b₁ o₁ admits =>
      obtain ⟨marks, records, b, moves, eq, _, rest⟩ := accounts o b₁ o₁ sound admits
      obtain ⟨marks', records', b', events, journal, eq', fits⟩ :=
        ih b₁ rest (moves.sound sound) ends
      refine ⟨marks ++ marks', records ++ records', b', ?_, ?_, ?_, fits⟩
      · rw [events, moves.events, List.filterMap_append, List.append_assoc]
      · rw [journal, moves.journal, List.append_assoc]
      · rw [← List.append_assoc, eq, List.append_assoc, eq', List.flatMap_append,
          List.append_assoc]

/-- Events are exact: threads take turns in any order on scripts of handles and streams,
with any store and any hooks. At any time all events since the start are those of the
errands in the journal, each in the order of its thread, and at most one for each thread,
of the errand that it is at. A stream that was opened on an errand fires when it ends, for
the first time, and never again. A run of one script fires the events of its errands. -/
theorem events_are_exact (scripts : Thread → Script S R W)
    (ofHandles : ∀ t, (scripts t).IsOfHandles) (w : World S) :
    (∀ (o : Office S R W) (left : Thread → Program (Office S R W) Unit),
      Reached scripts w o left → ∃ log begun, Logged w o log begun ∧
        ∀ t, left t = .done () → begun t = []) ∧
    ∀ (t : Thread) (o : Office S R W),
      ((scripts t).program t).run { world := w } = .finished () o →
      o.world.events = w.events ++ o.journal.flatMap Record.fires := by
  constructor
  · intro o left reached
    obtain ⟨log, begun, logged, accounts⟩ := reached.logged ofHandles
    refine ⟨log, begun, logged, fun t finished => ?_⟩
    have mine := accounts t
    rwa [finished] at mine
  · intro t o ends
    have sound : ({ world := w } : Office S R W).Sound := (Logged.start w).sound
    obtain ⟨marks, records, b, events, journal, eq, rfl⟩ :=
      (accounts_script (ofHandles t) t).of_run sound ends
    have settled : marks = records.flatMap Record.marks := by
      rwa [List.nil_append, List.append_nil] at eq
    rw [events, journal, settled, List.filterMap_flatMap]
    simp only [List.nil_append, Record.events_marks]

/-- A writer is closed, and dropped after that; what it has written is read, and then
deleted. -/
theorem closed_then_dropped_fires_once :
    let r : Resource := .ofText { name := "a", uri := "memory:a" } "r"
    let m : Metadata := .ofPairs [("by", "me")]
    let c : Cache Memory Bytes Memory.Writer := { backend := Memory.backend false }
    let script : Script Memory Bytes Memory.Writer :=
      .ask c (.openOutput r .upload true m) fun _ => .ask c (.use 0 (.write [120])) fun _ =>
      .ask c (.finish 0 false) fun _ => .ask c (.finish 0 true) fun _ =>
      .ask c (.openInput r true m) fun _ => .ask c (.finish 1 true) fun _ =>
      .ask c (.chore (.delete r true m)) fun _ => .stop
    script.IsOfHandles ∧ ∃ o left,
      (script.program 0).run { world := { storage := .empty } } = .finished () o ∧
      Reached (fun _ => script) { storage := .empty } o left ∧
      (∃ log begun, Logged { storage := .empty } o log begun ∧ begun 0 = []) ∧
      o.journal.flatMap Record.fires = [.storage r .upload m, .access r m, .deletion r m] ∧
      o.world.events = [.storage r .upload m, .access r m, .deletion r m] := by
  intro r m c script
  have ofHandles : script.IsOfHandles := by
    simp [script, Script.IsOfHandles, Errand.isOfHandle, Chore.isOfHandle]
  have goes : ((script.program 0).run { world := { storage := .empty } }).passes
      (fun _ o => decide (o.world.events = [.storage r .upload m, .access r m, .deletion r m])) =
        true := by
    decide +kernel
  obtain ⟨_, o, ends, fired⟩ := Program.Progress.exists_of_passes goes
  obtain ⟨left, reached, finished⟩ :=
    Reached.of_run (.start : Reached (fun _ => script) { storage := .empty } _ _) ends
  obtain ⟨inTurns, alone⟩ :=
    events_are_exact (fun _ => script) (fun _ => ofHandles) { storage := .empty }
  obtain ⟨log, begun, logged, settled⟩ := inTurns o left reached
  have told := alone 0 o ends
  refine ⟨ofHandles, o, left, ends, reached, ⟨log, begun, logged, settled 0 finished⟩, ?_,
    of_decide_eq_true fired⟩
  rw [of_decide_eq_true fired] at told
  exact told.symm

end Office
end ArtifactCache
