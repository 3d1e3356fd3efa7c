import ArtifactCache.Proofs.Numbering
import ArtifactCache.Proofs.Upkeep

/-!
Files on disk by number: the number of a file is that of its body, and hard
links are names with one body (`Files.numbering`). A writer keeps the offset
behind what it has delivered, so what it delivers next goes to the end.
-/
namespace ArtifactCache

theorem Bytes.writeAt_length (content data : Bytes) :
    content.writeAt content.length data = content ++ data := by
  simp [Bytes.writeAt]

/-- Some resource with the address. -/
def Address.resource (a : Address) : Resource := ⟨{ name := "", uri := a.uri }, a.path⟩

namespace Disk
variable {d d' : Disk} {p : Place} {n : Nat} {path : List PathText}

/-- The body of the file at a place. -/
def number? (d : Disk) (p : Place) : Option Nat :=
  match d.stat p with
  | .ok (.file n) => some n
  | _ => none

theorem number?_eq_some_iff : d.number? p = some n ↔ d.stat p = .ok (.file n) := by
  unfold number?
  split <;> simp_all

theorem number?_eq_none_iff : d.number? p = none ↔ d.isFile p = false := by
  unfold number? isFile
  rcases d.stat p with _ | _ | _ <;> simp

theorem number?_eq_some_iff_exists : d.number? p = some n ↔ ∃ path, d.locate p = .ok path ∧
    d.node? path = some (.file n) ∧ p.wantsDirectory = false :=
  number?_eq_some_iff.trans stat_eq_file_iff

theorem contentOf_eq_map (d : Disk) (p : Place) : d.contentOf p = (d.number? p).map d.body := by
  unfold contentOf number?
  rcases d.stat p with _ | _ | _ <;> rfl

/-- A file that is still there has its number. -/
theorem number?_of_passable (passable : Passable d d')
    (there : ∀ path, d.locate p = .ok path → d.node? path = some (.file n) →
      d'.node? path = some (.file n))
    (number : d.number? p = some n) : d'.number? p = some n := by
  obtain ⟨path, found, node, plain⟩ := number?_eq_some_iff_exists.1 number
  exact number?_eq_some_iff_exists.2 ⟨path, passable.locate found, there path found node, plain⟩

theorem passable_setBody (d : Disk) (n : Nat) (bytes : Bytes) : Passable d (d.setBody n bytes) :=
  ⟨fun _ => id, rfl⟩

theorem number?_setBody (d : Disk) (n : Nat) (bytes : Bytes) (p : Place) :
    (d.setBody n bytes).number? p = d.number? p := by
  have there : Passable d (d.setBody n bytes) := passable_setBody d n bytes
  have back : Passable (d.setBody n bytes) d := ⟨fun _ => id, rfl⟩
  refine Option.ext fun k => ⟨number?_of_passable back fun _ _ => id, ?_⟩
  exact number?_of_passable there fun _ _ => id

theorem body_setBody (d : Disk) (n k : Nat) (bytes : Bytes) :
    (d.setBody n bytes).body k = if n = k then bytes else d.body k := by
  unfold body setBody
  rw [Table.get?_insert]
  split <;> rfl

/-- The numbers that are in use come before those that were never used. -/
def Numbered (d : Disk) : Prop := ∀ path n, d.node? path = some (.file n) → n < d.fresh

theorem numbered_empty : Numbered {} := by
  intro path n there
  rw [node?_empty] at there
  split at there <;> cases there

theorem Numbered.number? (numbered : d.Numbered) (number : d.number? p = some n) :
    n < d.fresh := by
  obtain ⟨path, _, node, _⟩ := number?_eq_some_iff_exists.1 number
  exact numbered path n node

/-- The disk with one more file, which is empty. -/
def addFile (d : Disk) (path : List PathText) : Disk :=
  { d.setNode path (.file d.fresh) with
    bodies := d.bodies.insert d.fresh [], fresh := d.fresh + 1 }

theorem node?_addFile (empty : d.node? path = none) (other : List PathText) :
    (d.addFile path).node? other =
      if path = other then some (.file d.fresh) else d.node? other :=
  node?_setNode d path other _ (ne_nil_of_node?_eq_none empty)

theorem body_addFile (d : Disk) (path : List PathText) (k : Nat) :
    (d.addFile path).body k = if d.fresh = k then [] else d.body k := by
  unfold body addFile
  rw [Table.get?_insert]
  split <;> rfl

theorem passable_addFile (empty : d.node? path = none) : Passable d (d.addFile path) where
  directory other there := by
    rw [node?_addFile empty, if_neg, there]
    rintro rfl
    cases empty.symm.trans there
  workingDirectory := rfl

/-- A file that is created is the one that was there, emptied, or a new one. -/
theorem of_create_eq_ok (created : (d.create p).1 = .ok n) :
    d.number? p = some n ∧ (d.create p).2 = d.setBody n [] ∨
      ∃ path, d.locate p = .ok path ∧ p.wantsDirectory = false ∧ d.node? path = none ∧
        n = d.fresh ∧ (d.create p).2 = (d.addFile path).setBody n [] := by
  cases plain : p.wantsDirectory with
  | true =>
    exfalso
    cases above : d.above p <;> simp [create, openForWriting, plain, above] at created
  | false =>
    cases found : d.locate p with
    | error fault => simp [create, openForWriting, plain, found] at created
    | ok path =>
      cases node : d.node? path with
      | none =>
        have eq : d.create p = (.ok d.fresh, (d.addFile path).setBody d.fresh []) := by
          simp [create, openForWriting, plain, found, node, addFile]
        rw [eq] at created ⊢
        obtain rfl := Except.ok.inj created
        exact .inr ⟨path, rfl, rfl, node, rfl, rfl⟩
      | some there =>
        cases there with
        | directory => simp [create, openForWriting, plain, found, node] at created
        | file k =>
          have eq : d.create p = (.ok k, d.setBody k []) := by
            simp [create, openForWriting, plain, found, node]
          rw [eq] at created ⊢
          obtain rfl := Except.ok.inj created
          exact .inl ⟨number?_eq_some_iff_exists.2 ⟨path, found, node, plain⟩, rfl⟩

end Disk

namespace Files
variable {f : Files} {d d' : Disk} {r : Resource} {a : Address} {w : Disk.Writer} {given : Bytes}

/-- The offset of a writer is the end of its file. What it has not delivered yet
is pending. -/
def numbering (f : Files) : Numbering Disk Disk.Writer where
  number? a d := d.number? (f.placeOf a.resource)
  bytes := Disk.body
  sound d := f.Sound d ∧ d.Numbered
  writing a w given d := d.number? (f.placeOf a.resource) = some w.body ∧
    w.offset = (d.body w.body).length ∧ d.body w.body ++ w.pending = given

theorem content?_numbering (f : Files) (r : Resource) (d : Disk) :
    f.numbering.content? r.address d = d.contentOf (f.placeOf r) :=
  (Disk.contentOf_eq_map _ _).symm

/-- Where one file is found, the root is, and growing makes no file appear. -/
theorem number?_of_grows (sound : f.Sound d) (grows : Disk.Grows d d') {q : Resource}
    (file : d.isFile (f.placeOf q) = true) (r : Resource) :
    d'.number? (f.placeOf r) = d.number? (f.placeOf r) := by
  have stands : f.Stands d := by
    have below := trail_ne_nil_of_isFile file
    obtain ⟨path, n, found, node, _⟩ := exists_of_isFile file
    obtain ⟨dir, root, rfl⟩ := locate_placeOf below found
    have there := sound.closed.above node (List.prefix_append dir q.trail) (by simpa using below)
    exact ⟨Place.stepsOf f.root, [], dir, by simp, by simp, root, there⟩
  refine Option.ext fun n => ?_
  rw [Disk.number?_eq_some_iff, Disk.number?_eq_some_iff]
  exact ⟨stat_file_of_grows sound.closed stands grows, grows.stat_file⟩

theorem spares_of_grows (sound : f.numbering.sound d) (sound' : f.Sound d')
    (grows : Disk.Grows d d') : f.numbering.Spares a d d' := by
  refine ⟨⟨sound', fun path n node => ?_⟩, fun b k number apart => ?_⟩
  · rw [grows.fresh]
    exact sound.2 path n (grows.file_back node)
  · have file : d.isFile (f.placeOf b.resource) = true :=
      Disk.isFile_iff.2 ⟨k, Disk.number?_eq_some_iff.1 number⟩
    have same (c : Address) :
        d'.number? (f.placeOf c.resource) = d.number? (f.placeOf c.resource) :=
      number?_of_grows sound.1 grows file c.resource
    exact ⟨(same b).trans number, fun now => apart ((same a).symm.trans now), grows.body k⟩

theorem spares_setBody (sound : f.numbering.sound d) {n : Nat} (bytes : Bytes)
    (number : d.number? (f.placeOf a.resource) = some n) :
    f.numbering.Spares a d (d.setBody n bytes) := by
  refine ⟨⟨sound.1.setBody n bytes, sound.2⟩, fun b k number_b apart => ?_⟩
  have other : n ≠ k := fun eq => apart (eq ▸ number)
  have same (c : Address) : (d.setBody n bytes).number? (f.placeOf c.resource) =
      d.number? (f.placeOf c.resource) := Disk.number?_setBody d n bytes _
  exact ⟨(same b).trans number_b, fun now => apart ((same a).symm.trans now),
    (Disk.body_setBody d n k bytes).trans (if_neg other)⟩

theorem spares_removeNode (sound : f.numbering.sound d) {path : List PathText} {n : Nat}
    (found : d.locate (f.placeOf a.resource) = .ok path) (node : d.node? path = some (.file n))
    (plain : (f.placeOf a.resource).wantsDirectory = false) :
    f.numbering.Spares a d (d.removeNode path) := by
  have number : d.number? (f.placeOf a.resource) = some n :=
    Disk.number?_eq_some_iff_exists.2 ⟨path, found, node, plain⟩
  have removed : d.removeFile (f.placeOf a.resource) = (.ok (), d.removeNode path) := by
    simp [Disk.removeFile, found, Disk.number?_eq_some_iff.1 number]
  have sound' := sound.1.removeFile (f.placeOf a.resource)
  rw [removed] at sound'
  refine ⟨⟨sound', fun other k there => ?_⟩, fun b k number_b apart => ⟨?_, ?_, rfl⟩⟩
  · exact sound.2 other k ((Disk.shrinks_removeNode d path).node other _ there)
  · refine Disk.number?_of_passable (Disk.passable_removeNode node)
      (fun other _ there => ?_) number_b
    rw [Disk.node?_removeNode, if_neg, there]
    rintro ⟨_, rfl⟩
    exact apart (Node.file.inj (Option.some.inj (node.symm.trans there)) ▸ number)
  · intro still
    obtain ⟨path', found', node', _⟩ := Disk.number?_eq_some_iff_exists.1 still
    obtain ⟨room, empty⟩ := room_of_removeNode found node
    obtain rfl : path' = path := Except.ok.inj (found'.symm.trans room)
    cases empty.symm.trans node'

theorem spares_addFile (sound : f.numbering.sound d) {path : List PathText}
    (found : d.locate (f.placeOf a.resource) = .ok path)
    (plain : (f.placeOf a.resource).wantsDirectory = false) (empty : d.node? path = none) :
    f.numbering.Spares a d (d.addFile path) ∧
      (d.addFile path).number? (f.placeOf a.resource) = some d.fresh := by
  have number : (d.addFile path).number? (f.placeOf a.resource) = some d.fresh :=
    Disk.number?_eq_some_iff_exists.2 ⟨path, (Disk.passable_addFile empty).locate found,
      by rw [Disk.node?_addFile empty, if_pos rfl], plain⟩
  have made := sound.1.setNode rfl found empty (.file d.fresh)
  refine ⟨⟨⟨⟨made.closed, made.begins⟩, fun other k there => ?_⟩, fun b k number_b apart => ?_⟩,
    number⟩
  · rw [Disk.node?_addFile empty] at there
    split at there
    · obtain rfl := Node.file.inj (Option.some.inj there)
      exact Nat.lt_succ_self _
    · exact Nat.lt_succ_of_lt (sound.2 other k there)
  · have other : d.fresh ≠ k := Nat.ne_of_gt (sound.2.number? number_b)
    refine ⟨?_, fun same => other (Option.some.inj (number.symm.trans same)), ?_⟩
    · refine Disk.number?_of_passable (Disk.passable_addFile empty)
        (fun path' _ there => ?_) number_b
      rw [Disk.node?_addFile empty, if_neg, there]
      rintro rfl
      cases empty.symm.trans there
    · exact (Disk.body_addFile d path k).trans (if_neg other)

/-- The file is there and empty, whether or not it was there before. -/
theorem spares_create (sound : f.numbering.sound d) {n : Nat}
    (created : d.create (f.placeOf r) = (.ok n, d')) :
    f.numbering.Spares r.address d d' ∧ d'.number? (f.placeOf r) = some n ∧ d'.body n = [] := by
  have emptied (d : Disk) : (d.setBody n []).body n = [] :=
    (Disk.body_setBody d n n []).trans (if_pos rfl)
  obtain ⟨number, eq⟩ | ⟨path, found, plain, empty, rfl, eq⟩ :=
    Disk.of_create_eq_ok (congrArg Prod.fst created)
  · obtain rfl := (congrArg Prod.snd created).symm.trans eq
    rw [Disk.number?_setBody]
    exact ⟨spares_setBody sound [] number, number, emptied d⟩
  · obtain rfl := (congrArg Prod.snd created).symm.trans eq
    obtain ⟨spares, number⟩ := spares_addFile (a := r.address) sound found plain empty
    rw [Disk.number?_setBody]
    exact ⟨spares.trans (spares_setBody spares.sound [] number), number, emptied _⟩

theorem spares_copyFile (sound : f.numbering.sound d) {source : Resource} {bytes : Bytes}
    (given : f.numbering.Source r.address source.address bytes d)
    (copied : d.copyFile (f.placeOf source) (f.placeOf r) = (.ok (), d')) :
    f.numbering.Spares r.address d d' ∧ f.numbering.content? r.address d' = some bytes := by
  obtain ⟨k, number, apart, rfl⟩ := given
  have stat : d.stat (f.placeOf source) = .ok (.file k) := Disk.number?_eq_some_iff.1 number
  unfold Disk.copyFile at copied
  rw [stat] at copied
  dsimp only at copied
  rcases created : d.create (f.placeOf r) with ⟨fault | m, d₁⟩
  · simp [created] at copied
  · rw [created] at copied
    obtain ⟨spares, made, _⟩ := spares_create sound created
    obtain ⟨_, _, same⟩ := spares.source source.address k number apart
    obtain ⟨_, rfl⟩ := Prod.mk.inj copied
    have number' := (Disk.number?_setBody d₁ m (d₁.body k) (f.placeOf r)).trans made
    refine ⟨spares.trans (spares_setBody spares.sound _ made), ?_⟩
    have content : (d₁.setBody m (d₁.body k)).body m = d.body k :=
      ((Disk.body_setBody d₁ m m _).trans (if_pos rfl)).trans same
    rw [content?_numbering, Disk.contentOf_eq_map, number', Option.map_some, content]
    rfl

/-! ## The calls -/

/-- What succeeds below a directory did so on a disk with that directory. -/
theorem of_withParent_eq_ok {α : Type} {activity : Activity} {go : Disk → Except Failure α × Disk}
    {v : α} (sound : f.Sound d) (went : (withParent activity (f.placeOf r) d go).1 = .ok v) :
    ∃ d₁, Disk.Grows d d₁ ∧ f.Sound d₁ ∧ withParent activity (f.placeOf r) d go = go d₁ := by
  unfold withParent at went ⊢
  split
  · exact ⟨d, .refl d, sound, rfl⟩
  next above parent =>
  rw [parent] at went
  dsimp only at went
  split
  · exact ⟨d, .refl d, sound, rfl⟩
  next missing =>
  rw [if_neg missing] at went
  have grows := Disk.grows_makeDirectories above d
  have made := sound.makeDirectories (Place.begins_of_parent? ⟨f.root, rfl, rfl⟩ parent)
  generalize d.makeDirectories above = outcome at grows made went ⊢
  obtain ⟨_ | _, d₁⟩ := outcome
  · cases went
  · exact ⟨d₁, grows, made, rfl⟩

theorem spares_openWriter (sound : f.numbering.sound d) (opened : (f.openWriter r d).1 = .ok w) :
    f.numbering.Spares r.address d (f.openWriter r d).2 ∧
      f.numbering.writing r.address w [] (f.openWriter r d).2 := by
  unfold openWriter at opened ⊢
  dsimp only at opened ⊢
  obtain ⟨d₁, grows, sound₁, went⟩ := of_withParent_eq_ok sound.1 opened
  rw [went] at opened ⊢
  have grown := spares_of_grows (a := r.address) sound sound₁ grows
  rcases created : d₁.create (f.placeOf r) with ⟨fault | n, d₂⟩
  · simp [created] at opened
  · simp only [created] at opened ⊢
    obtain rfl := Except.ok.inj opened
    obtain ⟨spares, number, empty⟩ := spares_create grown.sound created
    exact ⟨grown.trans spares, number, by simp [empty], by simp [empty]⟩

theorem spares_copy (sound : f.numbering.sound d) {source : Resource} {bytes : Bytes}
    (given : f.numbering.Source r.address source.address bytes d)
    (copied : (f.copy source r d).1 = .ok ()) :
    f.numbering.Spares r.address d (f.copy source r d).2 ∧
      f.numbering.content? r.address (f.copy source r d).2 = some bytes := by
  unfold copy at copied ⊢
  dsimp only at copied ⊢
  split
  · next same =>
    obtain ⟨k, number, apart, _⟩ := given
    have stat : d.stat (f.placeOf source) = .ok (.file k) := Disk.number?_eq_some_iff.1 number
    have below := trail_ne_nil_of_isFile (Disk.isFile_iff.2 ⟨k, stat⟩)
    exact absurd (Disk.number?_eq_some_iff.2 ((stat_congr same below).symm.trans stat)) apart
  next other =>
  rw [if_neg other] at copied
  obtain ⟨d₁, grows, sound₁, went⟩ := of_withParent_eq_ok sound.1 copied
  rw [went] at copied ⊢
  have grown := spares_of_grows (a := r.address) sound sound₁ grows
  have pour {d₂ : Disk} (spares : f.numbering.Spares r.address d d₂)
      (copied : (reporting .copy (f.placeOf source)
        (d₂.copyFile (f.placeOf source) (f.placeOf r))).1 = .ok ()) :
      f.numbering.Spares r.address d (d₂.copyFile (f.placeOf source) (f.placeOf r)).2 ∧
        f.numbering.content? r.address (d₂.copyFile (f.placeOf source) (f.placeOf r)).2 =
          some bytes := by
    rcases outcome : d₂.copyFile (f.placeOf source) (f.placeOf r) with ⟨fault | _, d₃⟩
    · simp [reporting, outcome] at copied
    · obtain ⟨poured, content⟩ := spares_copyFile spares.sound (spares.keeps given) outcome
      exact ⟨spares.trans poured, content⟩
  cases file : d₁.isFile (f.placeOf r) with
  | true =>
    obtain ⟨path, n, found, node, plain⟩ := exists_of_isFile file
    rw [replacing_of_isFile found file] at copied ⊢
    rw [snd_reporting]
    exact pour (grown.trans (spares_removeNode grown.sound found node plain)) copied
  | false =>
    rw [replacing_of_not_isFile file] at copied ⊢
    rw [snd_reporting]
    exact pour grown copied

/-- Delivered bytes go to the end of the file. -/
theorem deliver_of_writing (sound : f.numbering.sound d) (bytes : Bytes)
    (writing : f.numbering.writing a w given d) (nothing : w.pending = []) :
    f.numbering.Spares a d (w.deliver bytes d).2 ∧
      f.numbering.writing a (w.deliver bytes d).1 (given ++ bytes) (w.deliver bytes d).2 ∧
      (w.deliver bytes d).1.pending = [] := by
  obtain ⟨number, offset, rfl⟩ := writing
  unfold Disk.Writer.deliver
  split
  · next none_given =>
    rw [none_given, List.append_nil]
    exact ⟨.refl sound, ⟨number, offset, rfl⟩, nothing⟩
  · have written : (d.setBody w.body ((d.body w.body).writeAt w.offset bytes)).body w.body =
        d.body w.body ++ bytes := by
      rw [Disk.body_setBody, if_pos rfl, offset, Bytes.writeAt_length]
    refine ⟨spares_setBody sound _ number, ⟨?_, ?_, ?_⟩, nothing⟩
    · exact (Disk.number?_setBody _ _ _ _).trans number
    · rw [written, List.length_append, offset]
    · rw [written, nothing, List.append_nil, List.append_nil]

theorem flush_of_writing (sound : f.numbering.sound d) (writing : f.numbering.writing a w given d) :
    f.numbering.Spares a d (w.flush d).2 ∧
      f.numbering.writing a (w.flush d).1 given (w.flush d).2 ∧ (w.flush d).1.pending = [] := by
  obtain ⟨number, offset, rfl⟩ := writing
  have emptied : f.numbering.writing a { w with pending := [] } (d.body w.body) d :=
    ⟨number, offset, List.append_nil _⟩
  exact deliver_of_writing sound w.pending emptied rfl

theorem write_of_writing (sound : f.numbering.sound d) (bytes : Bytes)
    (writing : f.numbering.writing a w given d) :
    f.numbering.Spares a d (w.write bytes d).2 ∧
      f.numbering.writing a (w.write bytes d).1 (given ++ bytes) (w.write bytes d).2 := by
  have made_room : ∃ w₁ d₁,
      (if Disk.bufferSize < w.pending.length + bytes.length then w.flush d else (w, d)) = (w₁, d₁) ∧
        f.numbering.Spares a d d₁ ∧ f.numbering.writing a w₁ given d₁ ∧
        (Disk.bufferSize ≤ bytes.length → w₁.pending = []) := by
    split
    · obtain ⟨spares, writing, nothing⟩ := flush_of_writing sound writing
      exact ⟨_, _, rfl, spares, writing, fun _ => nothing⟩
    · next room =>
      refine ⟨w, d, rfl, .refl sound, writing, fun long => List.eq_nil_of_length_eq_zero ?_⟩
      omega
  obtain ⟨w₁, d₁, eq, spares, writing, nothing⟩ := made_room
  unfold Disk.Writer.write
  rw [eq]
  dsimp only
  split
  · next long =>
    obtain ⟨delivered, writing, _⟩ := deliver_of_writing spares.sound bytes writing (nothing long)
    exact ⟨spares.trans delivered, writing⟩
  · obtain ⟨number, offset, rfl⟩ := writing
    exact ⟨spares, number, offset, (List.append_assoc _ _ _).symm⟩

theorem content?_of_writing (writing : f.numbering.writing a w given d) (nothing : w.pending = []) :
    f.numbering.content? a d = some given := by
  obtain ⟨number, _, rfl⟩ := writing
  have found : f.numbering.number? a d = some w.body := number
  rw [Numbering.content?, found, nothing, List.append_nil]
  rfl

section
variable {α : Type} {activity : Activity} {p : Place} {e : Failure}
  {go : Disk → Except Failure α × Disk}

theorem isStorage_of_withParent (rest : ∀ d e, (go d).1 = .error e → e.IsStorage)
    (failed : (withParent activity p d go).1 = .error e) : e.IsStorage := by
  unfold withParent at failed
  split at failed
  · exact rest d e failed
  split at failed
  · exact rest d e failed
  split at failed
  · obtain rfl := Except.error.inj failed
    exact ⟨_, _, _, rfl⟩
  · exact rest _ e failed

theorem isStorage_of_replacing (rest : ∀ d e, (go d).1 = .error e → e.IsStorage)
    (failed : (replacing activity p d go).1 = .error e) : e.IsStorage := by
  unfold replacing at failed
  split at failed
  · split at failed
    · obtain rfl := Except.error.inj failed
      exact ⟨_, _, _, rfl⟩
    · exact rest _ e failed
  · exact rest d e failed

theorem isStorage_of_openWriter (failed : (f.openWriter r d).1 = .error e) : e.IsStorage := by
  refine isStorage_of_withParent (fun d e failed => ?_) failed
  split at failed
  · obtain rfl := Except.error.inj failed
    exact ⟨_, _, _, rfl⟩
  · cases failed

theorem isStorage_of_copy {source : Resource} (failed : (f.copy source r d).1 = .error e) :
    e.IsStorage := by
  unfold copy at failed
  dsimp only at failed
  split at failed
  · cases failed
  refine isStorage_of_withParent (fun d e failed => isStorage_of_replacing (fun d e failed => ?_)
    failed) failed
  unfold reporting at failed
  split at failed
  · cases failed
  · obtain rfl := Except.error.inj failed
    exact ⟨_, _, _, rfl⟩

end

theorem serves (f : Files) : f.numbering.Serves f.backend where
  content r d := (content?_backend f r d).trans (content?_numbering f r d).symm
  openWriter := spares_openWriter
  write bytes sound writing := write_of_writing sound bytes writing
  flush sound writing := by
    obtain ⟨spares, writing, _⟩ := flush_of_writing sound writing
    exact ⟨spares, writing⟩
  closeWriter sound writing := by
    obtain ⟨spares, writing, nothing⟩ := flush_of_writing sound writing
    exact ⟨spares, content?_of_writing writing nothing⟩
  copy sound given copied := spares_copy sound given copied
  openFailure := isStorage_of_openWriter
  copyFailure := isStorage_of_copy
  part {a w given d} writing := by
    obtain ⟨number, _, rfl⟩ := writing
    have found : f.numbering.number? a d = some w.body := number
    exact ⟨d.body w.body, by rw [Numbering.content?, found]; rfl, List.prefix_append _ _⟩
  stays {a w given d d'} stays writing := by
    obtain ⟨number, offset, rfl⟩ := writing
    have same : d'.body w.body = d.body w.body := stays.bytes w.body number
    exact ⟨stays.number.trans number, by rw [same, offset], by rw [same]⟩

end Files
end ArtifactCache
