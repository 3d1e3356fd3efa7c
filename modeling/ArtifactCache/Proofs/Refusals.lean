import ArtifactCache.Proofs.FileFilling
import ArtifactCache.Proofs.Firing
import ArtifactCache.Proofs.Obedience

/-!
# Hooks that refuse

What is left where a hook refuses, whatever is done with handles and streams. For most
hooks that is what was there before, in any store. After the hook for writing, the resource
and what is linked to it have what the hook wrote, and the rest is spared
(`Backend.Replaces`).
-/
namespace ArtifactCache

open Program (Comes unseen_change)

/-! ## Errands -/

section
variable {S R W α : Type} {hooks : Hooks}

namespace Chore
variable {c : Cache S R W}

theorem obeys_of_unseen {p : Action S α} {k : α → Reply}
    (unasked : p.Unseen Occurrence.call? fun _ => True) :
    c.Obeys hooks (· = .failed ·) (do return k (← p)) :=
  .of_unseen (unasked.seq fun _ => trivial)

theorem obeys_of_obeys {p : Action S (Except Failure α)} {answer : α → Reply}
    (obeys : c.Obeys hooks (· = .error ·) p) :
    c.Obeys hooks (· = .failed ·) (do return Reply.ofResult answer (← p)) := by
  refine obeys.map _ ?_
  rintro _ e rfl
  rfl

theorem obeys_action (given : c.hooks? = some hooks) (t : Thread) {job : Chore S}
    (ofHandle : job.isOfHandle = true) : c.Obeys hooks (· = .failed ·) (job.action c t) := by
  cases job with
  | lock r => exact obeys_of_unseen Locks.unseen_lock
  | unlock r => exact obeys_of_unseen Locks.unseen_unlock
  | isLocked r => exact obeys_of_unseen (unseen_change fun _ => ⟨rfl, trivial⟩)
  | isFile r | isDirectory r | length r | isDated r => exact obeys_of_unseen (unseen_inspect _)
  | metaSibling r suffix =>
    exact obeys_of_unseen ((c.handle r).unseen_metaSibling suffix)
  | present r =>
    have obeys := (c.handle r).obeys_present given fun _ _ => False
    exact obeys.map _ fun _ _ => False.elim
  | touch r m =>
    have obeys := (c.handle r).obeys_touch given m fun _ _ => False
    exact obeys.map _ fun _ _ => False.elim
  | copyFrom target source =>
    exact obeys_of_obeys ((c.handle target).obeys_copyFrom t given (c.handle source))
  | delete r fire m => exact obeys_of_obeys ((c.handle r).obeys_delete t fire m given)
  | list r => exact obeys_of_obeys ((c.handle r).obeys_list given)
  | mkdirs r => exact obeys_of_obeys ((c.handle r).obeys_mkdirs given)
  | createFile r => exact obeys_of_obeys ((c.handle r).obeys_createFile t given)
  | _ => cases ofHandle

end Chore

namespace OpenStream
variable (c : Cache S R W)

theorem unasked_finish (dropped : Bool) (stream : OpenStream R W) :
    (stream.finish c dropped).Unseen Occurrence.call? fun _ => True := by
  cases stream with
  | input i => exact (i.unasked_close c).seq fun _ => trivial
  | output o =>
    cases dropped
    · exact (o.unasked_close c).seq fun _ => trivial
    · exact (o.unasked_drop c).seq fun _ => trivial

end OpenStream

/-- What the world does comes as far among streams. -/
theorem Office.comes_act {p : Action S α} {o : Office S R W} {ends : α → World S → Prop}
    {waits : World S → Prop} (comes : p.Comes o.world ends waits) :
    (Office.act p : Program (Office S R W) α).Comes o (fun v o' => ends v o'.world)
      fun o' => waits o'.world := by
  induction p generalizing o with
  | done v => exact comes
  | step act next ih =>
    unfold Comes Program.run at comes
    unfold Comes Office.act Program.within Program.run
    dsimp only
    cases acts : act o.world with
    | none =>
      rw [acts] at comes
      exact comes
    | some moved =>
      rw [acts] at comes
      exact ih moved.1 (o := { o with world := moved.2 }) comes

namespace Errand
variable {c : Cache S R W}

/-- Streams in use ask nothing. -/
theorem granted_use (i : Nat) (how : StreamUse) (o : Office S R W) :
    (Office.use i how : Program (Office S R W) Reply).Comes o
      (fun _ o' => hooks.Granted o.world o'.world) fun o' => hooks.Granted o.world o'.world := by
  unfold Office.use Program.attempt Comes Program.run
  dsimp only
  cases o.stream? i with
  | none => exact .of_same rfl
  | some found =>
    obtain ⟨slot, stream⟩ := found
    have used := stream.unseen_use slot.cache Occurrence.call? how
    dsimp only
    cases ran : (stream.use slot.cache how).run o.world with
    | waiting => exact .of_same rfl
    | finished reply world => exact .of_same (used.of_run ran).1

/-- Whatever is done with handles and streams, the hook that is asked is obeyed. -/
theorem obeys_program (given : c.hooks? = some hooks) (t : Thread) {errand : Errand S}
    (ofHandle : errand.isOfHandle = true) (o : Office S R W) :
    (errand.program c t).Comes o
      (fun outcome o' =>
        c.Obeyed hooks (fun e => outcome = .answered (.failed e)) o.world o'.world)
      fun o' => hooks.Granted o.world o'.world := by
  cases errand with
  | chore job =>
    apply (Office.comes_act (Chore.obeys_action given t ofHandle o.world)).bind
    rintro reply o' (granted | ⟨call, hook, fault, asked, refuses, rfl, spared⟩)
    · exact .inl granted
    · exact .inr ⟨call, hook, fault, asked, refuses, rfl, spared⟩
  | openInput r fire m =>
    apply (Office.comes_act ((c.handle r).obeys_openInput t fire m given o.world)).bind
    rintro result o' (granted | ⟨call, hook, fault, asked, refuses, rfl, spared⟩)
    · obtain e | _ | input := result
      all_goals exact .inl granted
    · exact .inr ⟨call, hook, fault, asked, refuses, rfl, spared⟩
  | openOutput r purpose fire m =>
    have opens := (c.handle r).obeys_openOutput t fire m given purpose o.world
    apply (Office.comes_act opens).bind
    rintro result o' (granted | ⟨call, hook, fault, asked, refuses, rfl, spared⟩)
    · cases result
      all_goals exact .inl granted
    · exact .inr ⟨call, hook, fault, asked, refuses, rfl, spared⟩
  | use i how =>
    exact (granted_use i how o).bind fun _ _ granted => .inl granted
  | finish i dropped =>
    have taken : (Office.take i : Program (Office S R W) _).Comes o
        (fun _ o' => o'.world = o.world) fun o' => hooks.Granted o.world o'.world := by
      refine (Program.prompt_change _).comes (Program.leads_change ?_)
      cases o.stream? i <;> rfl
    refine taken.bind ?_
    rintro (_ | ⟨slot, stream⟩) o₁ same
    all_goals have granted : hooks.Granted o.world o₁.world := .of_same (by rw [same])
    · exact .inl granted
    · have finished := granted.comes (stream.unasked_finish slot.cache dropped)
      exact (Office.comes_act finished).bind fun _ _ granted => .inl granted

end Errand

end

/-! ## What the hook for writing leaves -/

/-- The resources are files with these bytes now, and the others are what they were. -/
structure Backend.Replaces {S R W : Type} (b : Backend S R W) (these : Resource → Prop)
    (bytes : Bytes) (s s' : S) : Prop where
  replaced (q : Resource) : these q → b.isFile q s' = true ∧ b.content? q s' = some bytes
  spared (q : Resource) : ¬ these q → b.Keeps q s s'

/-- A writer replaces what it was opened for, and what is linked to that. -/
theorem Numbering.Puts.replaces {S R W : Type} {N : Numbering S W} {b : Backend S R W}
    {place : Address → Prop} {k : Nat} {r : Resource} {bytes : Bytes} {s s' : S}
    (serves : N.Serves b) (file : ∀ q s, b.isFile q s = (b.content? q s).isSome)
    (puts : N.Puts place k bytes s s') (here : place r.address) (takes : N.Takes r.address k s) :
    b.Replaces (fun q => place q.address ∨ N.Linked q.address r.address s) bytes s s' where
  replaced q shares := by
    have content : b.content? q s' = some bytes := by
      rw [serves.content]
      by_cases there : place q.address
      · exact puts.content there
      · have linked := (puts.linked_iff here takes there).2 (shares.resolve_left there)
        obtain ⟨_, same, same'⟩ := linked.content
        rw [same, ← same', puts.content here]
    exact ⟨by rw [file, content]; rfl, content⟩
  spared q apart := by
    have content : b.content? q s' = b.content? q s := by
      rw [serves.content, serves.content]
      exact (puts.confined here takes).content q.address (fun there => apart (.inl there))
        fun linked => apart (.inr linked)
    exact ⟨by rw [file, file, content], content⟩

theorem Memory.replaces {linking : Bool} {m m₁ : Memory} {r : Resource} {w : Writer}
    (sound : numbering.sound m) (opened : m.openWriter r = (.ok w, m₁)) (parts : List Part) :
    (backend linking).Replaces
      (fun q => q.same r = true ∨ numbering.Linked q.address r.address m) (Part.written parts) m
      ((backend linking).pour w parts m₁) := by
  have replaces := (puts_pour linking sound opened parts).replaces (serves linking)
    (fills linking).file rfl (takes sound r.address)
  simp only [Resource.same, decide_eq_true_eq]
  exact replaces

namespace Files
variable {f : Files} {home : List PathText} {d d' : Disk} {r : Resource} {w : Disk.Writer}

/-- A writer that is granted empties a file, or makes a new one. -/
theorem puts_openWriter (standing : f.Standing home d) (r : Resource) :
    ∀ w, (f.openWriter r d).1 = .ok w → ∃ k, f.numbering.Takes r.address k d ∧
      f.numbering.Puts (SamePlace · r.address) k [] d (f.openWriter r d).2 := by
  refine elim_withParent (P := fun outcome : Except Failure Disk.Writer × Disk =>
    ∀ w, outcome.1 = .ok w → ∃ k, f.numbering.Takes r.address k d ∧
      f.numbering.Puts (SamePlace · r.address) k [] d outcome.2)
    standing (fun e d₁ _ _ => nofun) fun d₁ standing₁ alike w opened => ?_
  rcases created : d₁.create (f.placeOf r) with ⟨fault | n, d₂⟩
  · rw [created] at opened
    cases opened
  · obtain ⟨_, puts, made⟩ := puts_create standing₁ created
    have takes := takes_of_create standing₁ made
    simp only [Numbering.Takes, alike.number, alike.used] at takes
    exact ⟨n, takes, puts.after alike⟩

theorem replaces (standing : f.Standing home d) (opened : f.openWriter r d = (.ok w, d'))
    (parts : List Part) :
    f.backend.Replaces
      (fun q => (f.placeOf q).same (f.placeOf r) = true ∨
        f.numbering.Linked q.address r.address d) (Part.written parts) d
      (f.backend.pour w parts d') := by
  have granted := f.serves.openWriter standing.orderly (congrArg Prod.fst opened)
  obtain ⟨k, takes, puts⟩ := puts_openWriter standing r w (congrArg Prod.fst opened)
  rw [opened] at puts
  rw [show (f.backend.openWriter r d).2 = d' from congrArg Prod.snd opened] at granted
  have filled := puts.pour rfl f.serves f.rewriting parts granted.1.sound granted.2
  simp only [← samePlace_iff]
  exact filled.replaces f.serves f.fills.file rfl takes

end Files

/-! ## The stores -/

section
variable {S R W : Type} (c : Cache S R W) (hooks : Hooks) (headed : HookCall → S → S → Prop)
  (t : Thread) (errand : Errand S) (o : Office S R W)

/-- Where a hook refuses, the errand fails with the failure of that hook, the locks are held
as before, and the store is as it was; only after the hook for writing the store is as `headed`
says. -/
structure Cache.Withdraws : Prop where
  waits {rest : Program (Office S R W) (Outcome S R W)} {o' : Office S R W} :
    (errand.program c t).run o = .waiting rest o' →
    ∃ calls, o'.world.asked = o.world.asked ++ calls ∧ ∀ call ∈ calls, hooks.veto? call = none
  ends {outcome : Outcome S R W} {o' : Office S R W} :
    (errand.program c t).run o = .finished outcome o' →
    ∃ calls, o'.world.asked = o.world.asked ++ calls ∧ ∀ call ∈ calls, ∀ hook fault,
      hooks.veto? call = some (hook, fault) →
      outcome = .answered (.failed (c.refusal call hook fault)) ∧
      Cache.Spared headed call hook o.world o'.world

variable {c} {hooks} {t} {errand} {o} {headed}

/-- An errand that is seen to ask a hook that refuses. -/
theorem Cache.Withdraws.of_asked (withdraws : c.Withdraws hooks headed t errand o)
    {call : HookCall} {hook : Hook} {fault : Fault}
    (refuses : hooks.veto? call = some (hook, fault))
    (asks : ((errand.program c t).run o).passes
      (fun _ o' => decide (o'.world.asked = o.world.asked ++ [call])) = true) :
    ∃ o', (errand.program c t).run o =
        .finished (.answered (.failed (c.refusal call hook fault))) o' ∧
      Spared headed call hook o.world o'.world := by
  obtain ⟨outcome, o', ends, asked⟩ := Program.Progress.exists_of_passes asks
  obtain ⟨calls, asked', refused⟩ := withdraws.ends ends
  obtain rfl := List.append_cancel_left (asked'.symm.trans (of_decide_eq_true asked))
  obtain ⟨rfl, spared⟩ := refused call List.mem_cons_self hook fault refuses
  exact ⟨o', ends, spared⟩

theorem Cache.Withdraws.of_asked_write (withdraws : c.Withdraws hooks headed t errand o)
    {call : HookCall} {fault : Fault} (refuses : hooks.veto? call = some (.write, fault))
    (asks : ((errand.program c t).run o).passes
      (fun _ o' => decide (o'.world.asked = o.world.asked ++ [call])) = true) :
    ∃ o', (errand.program c t).run o =
        .finished (.answered (.failed (c.refusal call .write fault))) o' ∧
      headed call o.world.storage o'.world.storage := by
  obtain ⟨o', ends, spared⟩ := withdraws.of_asked refuses asks
  have left := spared.storage
  rw [if_pos rfl] at left
  exact ⟨o', ends, left⟩

/-- Whatever a writer does to the store that is given what the hook wrote and is closed, is
what a refusal leaves. -/
theorem Cache.withdraws (given : c.hooks? = some hooks) (ofHandle : errand.isOfHandle = true)
    (le : ∀ call s', c.Headed hooks call o.world.storage s' → headed call o.world.storage s') :
    c.Withdraws hooks headed t errand o := by
  have comes := Errand.obeys_program given t ofHandle o
  unfold Comes at comes
  constructor
  · intro rest o' waits
    rw [waits] at comes
    exact comes
  · intro outcome o' ends
    rw [ends] at comes
    obtain ⟨calls, asked, pass⟩ | ⟨call, hook, fault, asked, refuses, fails, spared⟩ := comes
    · refine ⟨calls, asked, fun call mem hook fault refuses => ?_⟩
      cases (pass call mem).symm.trans refuses
    · refine ⟨[call], asked, fun call' mem hook' fault' refuses' => ?_⟩
      obtain rfl := List.mem_singleton.1 mem
      obtain ⟨rfl, rfl⟩ := Prod.mk.inj (Option.some.inj (refuses.symm.trans refuses'))
      refine ⟨fails, spared.holds, ?_⟩
      have left := spared.storage
      split at left
      · next write => rw [if_pos write]; exact le _ _ left
      · next other => rw [if_neg other]; exact left

end

/-- **Hooks that refuse.** Whatever is done with handles and streams, in any store, a hook
that refuses makes it fail, and changes nothing; only if it is the hook for writing, a writer
was opened, given what the hook wrote, and closed. In memory the resource and what is linked to
it have that then, and so they have on disk, as long as the root stands; every other file is
spared. -/
theorem refusals_change_nothing_but_writes (hooks : Hooks) :
    (∀ {S R W : Type} (c : Cache S R W) (t : Thread) (errand : Errand S) (o : Office S R W),
      c.hooks? = some hooks → errand.isOfHandle = true →
      c.Withdraws hooks (c.Headed hooks) t errand o) ∧
    (∀ (linking : Bool) (calls : List Call) (c : Cache Memory Bytes Memory.Writer) (t : Thread)
      (errand : Errand Memory) (o : Office Memory Bytes Memory.Writer),
      c.backend = Memory.backend linking → c.hooks? = some hooks → errand.isOfHandle = true →
      o.world.storage = (Usage.after c.backend .empty calls).store →
      c.Withdraws hooks (fun call m m' => c.backend.Replaces (fun q =>
        q.same call.resource = true ∨
          Memory.numbering.Linked q.address call.resource.address m)
        (StreamCall.bytes (hooks.heading call)) m m') t errand o) ∧
    ∀ (f : Files) (d : Disk) (calls : List Call) (c : Cache Disk Disk.Reader Disk.Writer)
      (t : Thread) (errand : Errand Disk) (o : Office Disk Disk.Reader Disk.Writer),
      d.Closed → d.Numbered → f.Rooted d calls →
      c.backend = f.backend → c.hooks? = some hooks → errand.isOfHandle = true →
      o.world.storage = (Usage.after c.backend d calls).store →
      c.Withdraws hooks (fun call d d' => c.backend.Replaces (fun q =>
        (f.placeOf q).same (f.placeOf call.resource) = true ∨
          f.numbering.Linked q.address call.resource.address d)
        (StreamCall.bytes (hooks.heading call)) d d') t errand o := by
  refine ⟨?_, ?_, ?_⟩
  · intro S R W c t errand o given ofHandle
    exact Cache.withdraws given ofHandle fun _ _ => id
  · intro linking calls c t errand o inside given ofHandle reached
    refine Cache.withdraws given ofHandle ?_
    rintro call _ ⟨stream, m₁, opened, rfl⟩
    rw [inside] at reached opened ⊢
    exact Memory.replaces (reached ▸ Memory.sound_after linking calls) opened _
  · intro f d calls c t errand o closed numbered rooted inside given ofHandle reached
    refine Cache.withdraws given ofHandle ?_
    rintro call _ ⟨stream, d₁, opened, rfl⟩
    rw [inside] at reached opened ⊢
    obtain ⟨home, standing, _⟩ := Files.standing_after closed numbered rooted
    exact Files.replaces (reached ▸ standing) opened _

/-- A file with an alias is refused to a writer, when the hook has written two bytes, and to who
wants to delete it. -/
theorem refused_writer_spares_the_other_file :
    let f : Files := { root := "/cache", linking := true }
    let l : Location := { name := "local", uri := "file:///srv/local" }
    let a : Resource := .ofText l "a"
    let b : Resource := .ofText l "b"
    let q : Resource := .ofText l "q"
    let no : Fault := .reported "no"
    let hooks : Hooks := { write := fun _ _ _ => .error no
                           header := fun _ _ _ => [.write [1], .flush, .write [2]]
                           delete := fun _ _ => .error no }
    let inMemory : Cache Memory Bytes Memory.Writer :=
      { backend := Memory.backend true, hooks? := some hooks }
    let onDisk : Cache Disk Disk.Reader Disk.Writer :=
      { backend := f.backend, hooks? := some hooks }
    let before : List Call := [.ask (.openWriter a), .write 0 [120], .close 0,
      .ask (.createAlias a b), .ask (.openWriter q), .write 0 [121], .close 0]
    let m := (Usage.after inMemory.backend .empty before).store
    let d := (Usage.after onDisk.backend {} before).store
    (∃ o', ((Errand.openOutput a .upload true ∅).program inMemory 0).run
        { world := { storage := m } } = .finished (.answered (.failed
          (.storage (.hook .write) (inMemory.backend.place a) no))) o' ∧
      inMemory.backend.content? b m = some [120] ∧
      inMemory.backend.content? b o'.world.storage = some [1, 2] ∧
      inMemory.backend.Keeps q m o'.world.storage) ∧
    (∃ o', ((Errand.openOutput a .upload true ∅).program onDisk 0).run
        { world := { storage := d } } = .finished (.answered (.failed
          (.storage (.hook .write) (onDisk.backend.place a) no))) o' ∧
      onDisk.backend.content? b d = some [120] ∧
      onDisk.backend.content? b o'.world.storage = some [1, 2] ∧
      onDisk.backend.Keeps q d o'.world.storage) ∧
    ∃ o', ((Errand.chore (.delete a true ∅)).program onDisk 0).run
        { world := { storage := d } } = .finished (.answered (.failed
          (.storage (.hook .delete) (onDisk.backend.place a) no))) o' ∧
      o'.world.storage = d := by
  intro f l a b q no hooks inMemory onDisk before m d
  obtain ⟨always, memory, disk⟩ := refusals_change_nothing_but_writes hooks
  have writing : hooks.veto? (.write .upload a ∅) = some (.write, no) := rfl
  have deleting : hooks.veto? (.delete a ∅) = some (.delete, no) := rfl
  have rooted : f.Rooted {} before := Files.rooted_of_isAbsolute (by decide) (by decide) _ _
  refine ⟨?_, ?_, ?_⟩
  · have withdraws := memory true before inMemory 0 (.openOutput a .upload true ∅)
      { world := { storage := m } } rfl rfl rfl (by dsimp only [m])
    obtain ⟨o', ends, replaces⟩ := withdraws.of_asked_write writing (by decide +kernel)
    dsimp only [HookCall.resource] at replaces
    have shares : Memory.numbering.Linked b.address a.address m :=
      ⟨0, by decide +kernel, by decide +kernel⟩
    have apart : Memory.numbering.number? q.address m ≠ Memory.numbering.number? a.address m := by
      decide +kernel
    refine ⟨o', ends, by decide +kernel, (replaces.replaced b (.inr shares)).2,
      replaces.spared q ?_⟩
    rintro (same | ⟨k, number, number'⟩)
    · exact absurd same (by decide +kernel)
    · exact apart (number.trans number'.symm)
  · have withdraws := disk f {} before onDisk 0 (.openOutput a .upload true ∅)
      { world := { storage := d } } Disk.closed_empty Disk.numbered_empty rooted rfl rfl rfl
      (by dsimp only [d])
    obtain ⟨o', ends, replaces⟩ := withdraws.of_asked_write writing (by decide +kernel)
    dsimp only [HookCall.resource] at replaces
    have shares : f.numbering.Linked b.address a.address d :=
      ⟨0, by decide +kernel, by decide +kernel⟩
    have apart : f.numbering.number? q.address d ≠ f.numbering.number? a.address d := by
      decide +kernel
    refine ⟨o', ends, by decide +kernel, (replaces.replaced b (.inr shares)).2,
      replaces.spared q ?_⟩
    rintro (same | ⟨k, number, number'⟩)
    · exact absurd same (by decide +kernel)
    · exact apart (number.trans number'.symm)
  · have withdraws := always onDisk 0 (.chore (.delete a true ∅))
      { world := { storage := d } } rfl rfl
    obtain ⟨o', ends, spared⟩ := withdraws.of_asked deleting (by decide +kernel)
    have same := spared.storage
    rw [if_neg (by decide)] at same
    exact ⟨o', ends, same⟩

/-- What is said of the other hooks is not true of the one for writing. -/
theorem refused_writer_leaves_an_empty_file :
    let r : Resource := .ofText { name := "local", uri := "file:///srv/local" } "r"
    let no : Fault := .reported "no"
    let hooks : Hooks := { write := fun _ _ _ => .error no }
    let c : Cache Memory Bytes Memory.Writer :=
      { backend := Memory.backend false, hooks? := some hooks }
    let m := (Usage.after c.backend .empty [.ask (.openWriter r), .write 0 [120], .close 0]).store
    ∃ o', ((Errand.openOutput r .upload true ∅).program c 0).run { world := { storage := m } } =
        .finished (.answered (.failed (.storage (.hook .write) (c.backend.place r) no))) o' ∧
      o'.world.asked = [.write .upload r ∅] ∧
      c.backend.content? r m = some [120] ∧ ¬ c.backend.Keeps r m o'.world.storage := by
  intro r no hooks c m
  have withdraws : c.Withdraws hooks (c.Headed hooks) 0 (.openOutput r .upload true ∅)
      { world := { storage := m } } := Cache.withdraws rfl rfl fun _ _ => id
  have writing : hooks.veto? (.write .upload r ∅) = some (.write, no) := rfl
  obtain ⟨o', ends, _⟩ := withdraws.of_asked writing (by decide +kernel)
  have left : (((Errand.openOutput r .upload true ∅).program c 0).run
      { world := { storage := m } }).passes (fun _ o' =>
        decide (o'.world.asked = [.write .upload r ∅] ∧
          c.backend.content? r o'.world.storage = some [])) = true := by
    decide +kernel
  rw [ends] at left
  obtain ⟨asked, nothing⟩ := of_decide_eq_true left
  refine ⟨o', ends, asked, by decide +kernel, fun keeps => ?_⟩
  have content : c.backend.content? r m = some [120] := by decide +kernel
  cases (nothing.symm.trans keeps.content).trans content

end ArtifactCache
