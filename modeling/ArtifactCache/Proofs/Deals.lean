import ArtifactCache.Proofs.Writes

/-!
What a store is to those who use it one deal at a time, be it a call or the
writing of a whole file. They see which resources are files, with what bytes, and
which of them are one file (`Contents`). `Contents.deal` tells what each deal
answers and makes of that, and `Numbering.Simulates.answers_eq` that a store that
follows it at each deal gives the same answers in the long run.
-/
namespace ArtifactCache

/-- Resources of which none is a root, and none is above another. -/
structure Resource.AreLevel (P : Resource → Prop) : Prop where
  below (r : Resource) : P r → r.isRoot = false
  apart (r q : Resource) : P r → P q → r.address.isAbove q.address = false

/-- What a writer is used for before it is dropped. -/
inductive Part
  | write (bytes : Bytes)
  | flush
  deriving DecidableEq

/-- All the bytes that are written. -/
def Part.written : List Part → Bytes
  | [] => []
  | .write bytes :: rest => bytes ++ written rest
  | .flush :: rest => written rest

/-- A call, or a file that is written from opening it to dropping the writer. -/
inductive Deal
  | write (r : Resource) (parts : List Part)
  | read (r : Resource)
  | isFile (r : Resource)
  | length (r : Resource)
  | delete (r : Resource)
  | createFile (r : Resource)
  | createAlias (source target : Resource)
  | copy (source target : Resource)
  deriving DecidableEq

inductive Answer
  | failed
  | done
  | truth (b : Bool)
  | content (bytes? : Option Bytes)
  | length (n : Nat)
  deriving DecidableEq

def Answer.ofOutcome : Except Failure Unit → Answer
  | .ok () => .done
  | .error _ => .failed

namespace Deal

def resources : Deal → List Resource
  | write r _ | read r | isFile r | length r | delete r | createFile r => [r]
  | createAlias source target | copy source target => [source, target]

/-- Nothing but files is copied, and nothing where aliases are links. -/
def IsFair (linking : Bool) (isFile : Resource → Bool) : Deal → Prop
  | copy source _ => linking = false ∧ isFile source = true
  | _ => True

end Deal

/-! ## Dealing with a store -/

namespace Backend
variable {S R W : Type} (b : Backend S R W)

/-- Writes the parts and drops the writer. -/
def pour (w : W) : List Part → S → S
  | [], s => b.closeWriter w s
  | .write bytes :: rest, s => pour (b.write w bytes s).1 rest (b.write w bytes s).2
  | .flush :: rest, s => pour (b.flush w s).1 rest (b.flush w s).2

/-- What the store answers, and the store behind it. -/
def deal (s : S) : Deal → Answer × S
  | .write r parts =>
    match b.openWriter r s with
    | (.error _, s) => (.failed, s)
    | (.ok w, s) => (.done, b.pour w parts s)
  | .read r =>
    match b.openReader r s with
    | .error _ => (.failed, s)
    | .ok none => (.content none, s)
    | .ok (some reader) => (.content (some (b.read reader none s).1), s)
  | .isFile r => (.truth (b.isFile r s), s)
  | .length r => (.length (b.length r s), s)
  | .delete r =>
    match b.delete r s with
    | (.error _, s) => (.failed, s)
    | (.ok there, s) => (.truth there, s)
  | .createFile r => (.ofOutcome (b.createFile r s).1, (b.createFile r s).2)
  | .createAlias source target =>
    (.ofOutcome (b.createAlias source target s).1.1, (b.createAlias source target s).2)
  | .copy source target => (.ofOutcome (b.copy source target s).1, (b.copy source target s).2)

/-- All that is answered to deals, one after the other. -/
def answers (s : S) : List Deal → List Answer
  | [] => []
  | deal :: rest => (b.deal s deal).1 :: answers (b.deal s deal).2 rest

/-- Each deal is fair when it is made. -/
def Fair (linking : Bool) (s : S) : List Deal → Prop
  | [] => True
  | deal :: rest => deal.IsFair linking (b.isFile · s) ∧ Fair linking (b.deal s deal).2 rest

end Backend

/-! ## What is seen of a store -/

/-- The bytes of each file, and which names are names of one file. -/
structure Contents where
  bytes? : Address → Option Bytes := fun _ => none
  linked : Address → Address → Bool := fun _ _ => false

namespace Contents
variable (c : Contents) {a : Address} {bytes : Bytes}

def isFile (r : Resource) : Bool := (c.bytes? r.address).isSome

/-- Bytes for the file of the name, which is made where it is missing. -/
def put (a : Address) (bytes : Bytes) : Contents where
  bytes? b := if b = a || c.linked b a then some bytes else c.bytes? b
  linked b d := c.linked b d || (b = a && d = a)

/-- The name is taken away. -/
def remove (a : Address) : Contents where
  bytes? b := if b = a then none else c.bytes? b
  linked b d := b ≠ a && d ≠ a && c.linked b d

/-- The name becomes one more of the source. -/
def join (source a : Address) : Contents where
  bytes? b := c.bytes? (if b = a then source else b)
  linked b d := c.linked (if b = a then source else b) (if d = a then source else d)

/-- A new file in place of that of the name. -/
def replace (a : Address) (bytes : Bytes) : Contents := (c.remove a).put a bytes

/-- No two names are of one file. -/
def IsUnlinked : Prop := ∀ a b, a ≠ b → c.linked a b = false

/-- The answer to a deal, and the contents behind it. -/
def deal (linking : Bool) : Deal → Answer × Contents
  | .write r parts => (.done, c.put r.address (Part.written parts))
  | .read r => (.content (c.bytes? r.address), c)
  | .isFile r => (.truth (c.isFile r), c)
  | .length r => (.length ((c.bytes? r.address).getD []).length, c)
  | .delete r => (.truth (c.isFile r), c.remove r.address)
  | .createFile r => (.done, if c.isFile r then c else c.put r.address [])
  | .createAlias source target =>
    (.done, match c.bytes? source.address with
      | none => c
      | some bytes =>
        if source.same target then c
        else if linking then c.join source.address target.address
        else c.replace target.address bytes)
  | .copy source target =>
    match c.bytes? source.address with
    | none => (.failed, c)
    | some bytes => (.done, if source.same target then c else c.replace target.address bytes)

def answers (linking : Bool) (c : Contents) : List Deal → List Answer
  | [] => []
  | deal :: rest => (c.deal linking deal).1 :: answers linking (c.deal linking deal).2 rest

def Fair (linking : Bool) (c : Contents) : List Deal → Prop
  | [] => True
  | deal :: rest => deal.IsFair linking c.isFile ∧ Fair linking (c.deal linking deal).2 rest

variable {c}

theorem isUnlinked_remove (unlinked : c.IsUnlinked) (a : Address) : (c.remove a).IsUnlinked := by
  intro b d ne
  simp [remove, unlinked b d ne]

theorem isUnlinked_put (unlinked : c.IsUnlinked) (a : Address) (bytes : Bytes) :
    (c.put a bytes).IsUnlinked := by
  intro b d ne
  have apart : ¬ (b = a ∧ d = a) := fun ⟨here, there⟩ => ne (here.trans there.symm)
  simpa [put, unlinked b d ne] using apart

/-- Where names are not linked, a new file is as good as the old one. -/
theorem put_eq_replace (unlinked : c.IsUnlinked) (a : Address) (bytes : Bytes) :
    c.put a bytes = c.replace a bytes := by
  have bytes_eq (b : Address) : (c.put a bytes).bytes? b = (c.replace a bytes).bytes? b := by
    by_cases here : b = a
    · simp [put, replace, here]
    · simp [put, replace, remove, here, unlinked b a here]
  have linked_eq (b d : Address) : (c.put a bytes).linked b d = (c.replace a bytes).linked b d := by
    by_cases same : b = d
    · by_cases here : d = a <;> simp [put, replace, remove, same, here]
    · simp [put, replace, remove, unlinked b d same]
  simp only [put, replace, mk.injEq] at bytes_eq linked_eq ⊢
  exact ⟨funext bytes_eq, funext fun b => funext (linked_eq b)⟩

/-- Without links, no deal makes one. -/
theorem isUnlinked_deal (unlinked : c.IsUnlinked) (deal : Deal) :
    (c.deal false deal).2.IsUnlinked := by
  have replaced (a : Address) (bytes : Bytes) : (c.replace a bytes).IsUnlinked :=
    isUnlinked_put (isUnlinked_remove unlinked a) a bytes
  cases deal with
  | read | isFile | length => exact unlinked
  | write r parts => exact isUnlinked_put unlinked _ _
  | delete r => exact isUnlinked_remove unlinked _
  | createFile r =>
    simp only [Contents.deal]
    split
    · exact unlinked
    · exact isUnlinked_put unlinked _ _
  | createAlias source target =>
    simp only [Contents.deal]
    split
    · exact unlinked
    split
    · exact unlinked
    · exact replaced _ _
  | copy source target =>
    simp only [Contents.deal]
    split
    · exact unlinked
    · dsimp only
      split
      · exact unlinked
      · exact replaced _ _

end Contents

/-! ## Stores that show such contents -/

namespace Numbering
variable {S R W : Type} (N : Numbering S W)

/-- What is seen of the resources. -/
structure Shows (P : Resource → Prop) (s : S) (c : Contents) : Prop where
  content (r : Resource) : P r → N.content? r.address s = c.bytes? r.address
  linked (r q : Resource) : P r → P q →
    (N.Linked r.address q.address s ↔ c.linked r.address q.address = true)

/-- Among the resources, the place is that of `a` alone. -/
def IsPlaceOf (P : Resource → Prop) (a : Address) (place : Address → Prop) : Prop :=
  ∀ q, P q → (place q.address ↔ q.address = a)

variable {N} {P : Resource → Prop} {place : Address → Prop} {r source : Resource} {k : Nat}
  {bytes : Bytes} {s s' : S} {c : Contents}

/-- Who is a file has a number, and its bytes. -/
theorem content?_eq_some_iff {a : Address} :
    N.content? a s = some bytes ↔ ∃ k, N.number? a s = some k ∧ N.bytes s k = bytes := by
  simp [content?]

namespace Shows

theorem alike (shows_ : N.Shows P s c) (alike : N.Alike s s') : N.Shows P s' c where
  content r mem := (alike.content r.address).trans (shows_.content r mem)
  linked r q mem mem' := alike.linked.trans (shows_.linked r q mem mem')

theorem put (shows_ : N.Shows P s c) (mem : P r) (only : IsPlaceOf P r.address place)
    (puts : N.Puts place k bytes s s') (takes : N.Takes r.address k s) :
    N.Shows P s' (c.put r.address bytes) := by
  have here : place r.address := (only r mem).2 rfl
  have elsewhere {q : Resource} (mem : P q) (ne : q.address ≠ r.address) : ¬ place q.address :=
    fun same => ne ((only q mem).1 same)
  have self : N.Linked r.address r.address s' :=
    ⟨k, puts.renames.here _ here, puts.renames.here _ here⟩
  constructor
  · intro q mem_q
    by_cases same : q.address = r.address
    · rw [same, puts.content here]
      simp [Contents.put]
    · have other := elsewhere mem_q same
      by_cases linked : N.Linked q.address r.address s
      · obtain ⟨bytes', content_q, content_r⟩ :=
          ((puts.linked_iff here takes other).2 linked).content
        rw [puts.content here] at content_r
        rw [content_q, ← content_r]
        simp [Contents.put, (shows_.linked q r mem_q mem).1 linked]
      · rw [(puts.confined here takes).content _ other linked, shows_.content q mem_q]
        simp [Contents.put, same, mt (shows_.linked q r mem_q mem).2 linked]
  · intro q t mem_q mem_t
    by_cases same : q.address = r.address <;> by_cases same' : t.address = r.address
    · simp [Contents.put, same, same', self]
    · have back : N.Linked r.address t.address s' ↔ N.Linked r.address t.address s :=
        ⟨fun linked => ((puts.linked_iff here takes (elsewhere mem_t same')).1 linked.symm).symm,
          fun linked => ((puts.linked_iff here takes (elsewhere mem_t same')).2 linked.symm).symm⟩
      rw [same, back, shows_.linked r t mem mem_t]
      simp [Contents.put, same']
    · rw [same', puts.linked_iff here takes (elsewhere mem_q same), shows_.linked q r mem_q mem]
      simp [Contents.put, same]
    · have kept : N.Linked q.address t.address s' ↔ N.Linked q.address t.address s := by
        simp only [Linked, puts.renames.elsewhere _ (elsewhere mem_q same),
          puts.renames.elsewhere _ (elsewhere mem_t same')]
      rw [kept, shows_.linked q t mem_q mem_t]
      simp [Contents.put, same]

/-- Only one place has another number, if any. -/
theorem number?_of_renames {k? : Option Nat} (only : IsPlaceOf P r.address place)
    (renames : N.Renames place k? s s') {q : Resource} (mem : P q) :
    N.number? q.address s' = if q.address = r.address then k? else N.number? q.address s := by
  split
  · next same => exact renames.here _ ((only q mem).2 same)
  · next other => exact renames.elsewhere _ fun here => other ((only q mem).1 here)

theorem remove (shows_ : N.Shows P s c) (only : IsPlaceOf P r.address place)
    (renames : N.Renames place none s s') (bytes : ∀ k, N.bytes s' k = N.bytes s k) :
    N.Shows P s' (c.remove r.address) := by
  have number {q : Resource} (mem : P q) := number?_of_renames only renames mem
  constructor
  · intro q mem
    rw [content?, number mem, funext bytes]
    by_cases same : q.address = r.address
    · simp [Contents.remove, same]
    · simpa [Contents.remove, same, content?] using shows_.content q mem
  · intro q t mem mem'
    rw [Linked, number mem, number mem']
    by_cases same : q.address = r.address
    · simp [Contents.remove, same]
    by_cases same' : t.address = r.address
    · simp [Contents.remove, same']
    · simpa [Contents.remove, same, same', Linked] using shows_.linked q t mem mem'

theorem join (shows_ : N.Shows P s c) (mem : P source) (only : IsPlaceOf P r.address place)
    (renames : N.Renames place (some k) s s') (number : N.number? source.address s = some k)
    (bytes : ∀ k, N.bytes s' k = N.bytes s k) :
    N.Shows P s' (c.join source.address r.address) := by
  have origin {q : Resource} (mem_q : P q) : ∃ q', P q' ∧
      q'.address = (if q.address = r.address then source.address else q.address) ∧
      N.number? q.address s' = N.number? q'.address s := by
    rw [number?_of_renames only renames mem_q]
    split
    · exact ⟨source, mem, rfl, number.symm⟩
    · exact ⟨q, mem_q, rfl, rfl⟩
  constructor
  · intro q mem_q
    obtain ⟨q', mem_q', eq, same⟩ := origin mem_q
    rw [content?, same, funext bytes]
    dsimp only [Contents.join]
    rw [← eq]
    exact shows_.content q' mem_q'
  · intro q t mem_q mem_t
    obtain ⟨q', mem_q', eq, same⟩ := origin mem_q
    obtain ⟨t', mem_t', eq', same'⟩ := origin mem_t
    rw [Linked, same, same']
    dsimp only [Contents.join]
    rw [← eq, ← eq']
    exact shows_.linked q' t' mem_q' mem_t'

theorem replace (shows_ : N.Shows P s c) (only : IsPlaceOf P r.address place)
    (puts : N.Puts place k bytes s s') (unused : ¬ N.Used k s) :
    N.Shows P s' (c.replace r.address bytes) := by
  have number {q : Resource} (mem : P q) := number?_of_renames only puts.renames mem
  have old {q : Resource} : N.number? q.address s ≠ some k := fun used => unused ⟨_, used⟩
  constructor
  · intro q mem
    by_cases same : q.address = r.address
    · rw [puts.content ((only q mem).2 same)]
      simp [Contents.replace, Contents.put, same]
    · rw [puts.content_of_ne (fun here => same ((only q mem).1 here)) old, shows_.content q mem]
      simp [Contents.replace, Contents.put, Contents.remove, same]
  · intro q t mem mem'
    rw [Linked, number mem, number mem']
    by_cases same : q.address = r.address <;> by_cases same' : t.address = r.address
    · simp [Contents.replace, Contents.put, same, same']
    · simpa [Contents.replace, Contents.put, Contents.remove, same, same'] using old
    · simpa [Contents.replace, Contents.put, Contents.remove, same, same'] using old
    · simpa [Contents.replace, Contents.put, Contents.remove, same, same', Linked] using
        shows_.linked q t mem mem'

end Shows

/-! ## Writing a whole file -/

/-- The bytes under the number may have changed, and nothing else. -/
structure Rewrites (N : Numbering S W) (k : Nat) (s s' : S) : Prop where
  number (a : Address) : N.number? a s' = N.number? a s
  rest (j : Nat) : j ≠ k → N.bytes s' j = N.bytes s j

/-- Using a writer changes nothing but its file. -/
structure Rewriting (N : Numbering S W) (b : Backend S R W) : Prop where
  write {a : Address} {w : W} {given : Bytes} {s : S} {k : Nat} (bytes : Bytes) :
    N.writing a w given s → N.number? a s = some k → N.Rewrites k s (b.write w bytes s).2
  flush {a : Address} {w : W} {given : Bytes} {s : S} {k : Nat} :
    N.writing a w given s → N.number? a s = some k → N.Rewrites k s (b.flush w s).2
  closeWriter {a : Address} {w : W} {given : Bytes} {s : S} {k : Nat} :
    N.writing a w given s → N.number? a s = some k → N.Rewrites k s (b.closeWriter w s)

theorem Rewrites.refl (k : Nat) (s : S) : N.Rewrites k s s := ⟨fun _ => rfl, fun _ _ => rfl⟩

theorem Rewrites.trans {s₁ : S} (first : N.Rewrites k s s₁) (second : N.Rewrites k s₁ s') :
    N.Rewrites k s s' :=
  ⟨fun a => (second.number a).trans (first.number a),
    fun j other => (second.rest j other).trans (first.rest j other)⟩

theorem Puts.rewrites {s₁ : S} (puts : N.Puts place k bytes s s₁) (rewrites : N.Rewrites k s₁ s') :
    N.Puts place k (N.bytes s' k) s s' where
  renames := ⟨fun a here => (rewrites.number a).trans (puts.renames.here a here),
    fun a other => (rewrites.number a).trans (puts.renames.elsewhere a other)⟩
  filled := rfl
  rest j other := (rewrites.rest j other).trans (puts.rest j other)

variable {b : Backend S R W} {a : Address} {w : W} {given : Bytes}

/-- A writer leaves all that it was given behind. -/
theorem rewrites_pour (serves : N.Serves b) (rewriting : N.Rewriting b) (parts : List Part)
    (sound : N.sound s) (writing : N.writing a w given s) (number : N.number? a s = some k) :
    N.sound (b.pour w parts s) ∧ N.Rewrites k s (b.pour w parts s) ∧
      N.bytes (b.pour w parts s) k = given ++ Part.written parts := by
  induction parts generalizing w given s with
  | nil =>
    obtain ⟨spares, content⟩ := serves.closeWriter sound writing
    have closed := rewriting.closeWriter writing number
    refine ⟨spares.sound, closed, ?_⟩
    rw [content?, closed.number, number] at content
    simpa [Backend.pour, Part.written] using content
  | cons part rest ih =>
    cases part with
    | write bytes =>
      obtain ⟨spares, writing'⟩ := serves.write bytes sound writing
      have written := rewriting.write bytes writing number
      obtain ⟨sound', rewrites, filled⟩ :=
        ih spares.sound writing' ((written.number a).trans number)
      refine ⟨sound', written.trans rewrites, ?_⟩
      rw [List.append_assoc] at filled
      exact filled
    | flush =>
      obtain ⟨spares, writing'⟩ := serves.flush sound writing
      have flushed := rewriting.flush writing number
      obtain ⟨sound', rewrites, filled⟩ :=
        ih spares.sound writing' ((flushed.number a).trans number)
      exact ⟨sound', flushed.trans rewrites, filled⟩

/-- A file that was opened and is written holds what was written. -/
theorem Puts.pour {s₁ : S} (puts : N.Puts place k [] s s₁) (here : place a) (serves : N.Serves b)
    (rewriting : N.Rewriting b) (parts : List Part) (sound : N.sound s₁)
    (writing : N.writing a w [] s₁) :
    N.Puts place k (Part.written parts) s (b.pour w parts s₁) := by
  obtain ⟨_, rewrites, filled⟩ :=
    rewrites_pour serves rewriting parts sound writing (puts.renames.here a here)
  rw [← List.nil_append (Part.written parts), ← filled]
  exact puts.rewrites rewrites

/-! ## Many deals -/

/-- The store does the deal as what is seen of it tells, and keeps `I`. -/
structure Does (N : Numbering S W) (b : Backend S R W) (linking : Bool) (P : Resource → Prop)
    (I : S → Prop) (s : S) (c : Contents) (deal : Deal) : Prop where
  answer : (b.deal s deal).1 = (c.deal linking deal).1
  keeps : I (b.deal s deal).2
  shows_ : N.Shows P (b.deal s deal).2 (c.deal linking deal).2

/-- So it does every fair deal with the resources. -/
def Simulates (N : Numbering S W) (b : Backend S R W) (linking : Bool) (P : Resource → Prop)
    (I : S → Prop) : Prop :=
  ∀ s c deal, I s → N.Shows P s c → (linking = false → c.IsUnlinked) →
    (∀ r ∈ deal.resources, P r) → deal.IsFair linking c.isFile → N.Does b linking P I s c deal

theorem Does.of_eq {linking : Bool} {I : S → Prop} {deal : Deal} (s' : S)
    (dealt : b.deal s deal = ((c.deal linking deal).1, s')) (keeps : I s')
    (shows_ : N.Shows P s' (c.deal linking deal).2) : N.Does b linking P I s c deal := by
  constructor
  · rw [dealt]
  · rwa [dealt]
  · rwa [dealt]

section
variable {linking : Bool} {I : S → Prop} (inv : I s) (shows_ : N.Shows P s c) (mem : P r)
include inv shows_ mem

/-- Whoever is let in reads what there is. -/
theorem does_read (serves : N.Serves b) {reader? : Option R}
    (granted : b.openReader r s = .ok reader?) : N.Does b linking P I s c (.read r) := by
  have content := serves.content r s
  rw [shows_.content r mem] at content
  apply Does.of_eq s
  · cases reader? <;> simp [Backend.deal, Contents.deal, ← content, Backend.content?, granted]
  · exact inv
  · exact shows_

theorem does_isFile (same : b.isFile r s = (N.content? r.address s).isSome) :
    N.Does b linking P I s c (.isFile r) := by
  rw [shows_.content r mem] at same
  exact .of_eq s (by rw [Backend.deal, same]; rfl) inv shows_

theorem does_length (same : b.length r s = ((N.content? r.address s).getD []).length) :
    N.Does b linking P I s c (.length r) := by
  rw [shows_.content r mem] at same
  exact .of_eq s (by rw [Backend.deal, same]; rfl) inv shows_

end

/-- Whether a deal is fair depends on what its resources are. -/
theorem isFair_iff {deal : Deal} {linking : Bool}
    (same : ∀ r s, b.isFile r s = (N.content? r.address s).isSome) (shows_ : N.Shows P s c)
    (mem : ∀ r ∈ deal.resources, P r) :
    deal.IsFair linking (b.isFile · s) ↔ deal.IsFair linking c.isFile := by
  cases deal with
  | copy source target =>
    have file : b.isFile source s = c.isFile source := by
      rw [same, shows_.content source (mem source (by simp [Deal.resources]))]
      rfl
    simp [Deal.IsFair, file]
  | _ => exact .rfl

/-- **A store that does each deal as it should answers as it should.** -/
theorem Simulates.answers_eq {linking : Bool} {I : S → Prop} (simulates : N.Simulates b linking P I)
    (same : ∀ r s, b.isFile r s = (N.content? r.address s).isSome) (inv : I s)
    (shows_ : N.Shows P s c) (unlinked : linking = false → c.IsUnlinked) {deals : List Deal}
    (mem : ∀ deal ∈ deals, ∀ r ∈ deal.resources, P r) :
    (b.Fair linking s deals ↔ c.Fair linking deals) ∧
      (c.Fair linking deals → b.answers s deals = c.answers linking deals) := by
  induction deals generalizing s c with
  | nil => exact ⟨.rfl, fun _ => rfl⟩
  | cons deal rest ih =>
    have first : deal.IsFair linking (b.isFile · s) ↔ deal.IsFair linking c.isFile :=
      isFair_iff same shows_ (mem deal List.mem_cons_self)
    by_cases fair : deal.IsFair linking c.isFile
    · obtain ⟨answer, inv', shows'⟩ :=
        simulates s c deal inv shows_ unlinked (mem deal List.mem_cons_self) fair
      have unlinked' (off : linking = false) : (c.deal linking deal).2.IsUnlinked := by
        subst off
        exact Contents.isUnlinked_deal (unlinked rfl) deal
      obtain ⟨fair_iff, answers⟩ :=
        ih inv' shows' unlinked' fun next later => mem next (List.mem_cons_of_mem _ later)
      refine ⟨and_congr first fair_iff, fun all => ?_⟩
      rw [Backend.answers, Contents.answers, answer, answers all.2]
    · exact ⟨iff_of_false (fun all => fair (first.1 all.1)) fun all => fair all.1,
        fun all => absurd all.1 fair⟩

end Numbering
end ArtifactCache
