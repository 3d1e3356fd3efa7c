import ArtifactCache.Proofs.FileNumbers
import ArtifactCache.Proofs.Home
import ArtifactCache.Proofs.Naming

/-!
What the calls of a store on disk do to the names of files. The names of a place
are the resources with one trail, and their number is that of the node below the
home of the store (`Standing.number?_iff`). A call renames as any store may
(`tells_perform`), as long as the root stands: removing a directory on a way that
leads up would take all files out of reach.
-/
namespace ArtifactCache

namespace Disk
variable {d : Disk} {p : Place}

/-- Opening for writing makes a file where there is none, and nothing else. -/
theorem openForWriting_cases (p : Place) (d : Disk) :
    (d.openForWriting p).2 = d ∨ ∃ path, d.locate p = .ok path ∧ p.wantsDirectory = false ∧
      d.node? path = none ∧ d.openForWriting p = (.ok d.fresh, d.addFile path) := by
  cases plain : p.wantsDirectory with
  | true =>
    refine .inl ?_
    cases above : d.above p <;> simp [openForWriting, plain, above]
  | false =>
    cases found : d.locate p with
    | error fault => exact .inl (by simp [openForWriting, plain, found])
    | ok path =>
      cases node : d.node? path with
      | none => exact .inr ⟨path, rfl, rfl, node, by simp [openForWriting, plain, found, node, addFile]⟩
      | some there =>
        refine .inl ?_
        cases there <;> simp [openForWriting, plain, found, node]

theorem fresh_removeDirectory (p : Place) (d : Disk) : (d.removeDirectory p).2.fresh = d.fresh := by
  unfold removeDirectory
  repeat' split
  all_goals rfl

end Disk

namespace Files
variable {f : Files} {d d' : Disk} {home : List PathText} {r source target : Resource} {call : Call}

/-- The addresses stand for one place on disk. -/
def SamePlace (a b : Address) : Prop := a.resource.trail = b.resource.trail

theorem samePlace_iff :
    SamePlace r.address source.address ↔ (f.placeOf r).same (f.placeOf source) = true :=
  same_iff.symm

theorem not_samePlace_iff :
    ¬ SamePlace r.address source.address ↔ (f.placeOf r).same (f.placeOf source) = false := by
  rw [samePlace_iff (f := f), Bool.not_eq_true]

theorem samePlace_of_same (same : r.same source = true) : SamePlace r.address source.address := by
  have eq : r.address = source.address := by simpa [Resource.same] using same
  rw [eq]
  rfl

theorem not_same_of_not_samePlace (other : ¬ SamePlace r.address source.address) :
    r.same source = false :=
  Bool.not_eq_true _ |>.mp fun same => other (samePlace_of_same same)

/-- A disk in order, on which the root stands. -/
structure Standing (f : Files) (home : List PathText) (d : Disk) : Prop where
  sound : f.Sound d
  numbered : d.Numbered
  stands : f.StandsAt home d

namespace Standing

theorem orderly (standing : f.Standing home d) : f.numbering.sound d :=
  ⟨standing.sound, standing.numbered⟩

/-- The number of a name is that of the node below the home. -/
theorem number?_iff (standing : f.Standing home d) {a : Address} {n : Nat} :
    f.numbering.number? a d = some n ↔
      f.IsReached a.resource ∧ d.node? (home ++ a.resource.trail) = some (.file n) := by
  have iff : f.numbering.number? a d = some n ↔ d.stat (f.placeOf a.resource) = .ok (.file n) :=
    Disk.number?_eq_some_iff
  rw [iff]
  constructor
  · intro stat
    have below := trail_ne_nil_of_isFile (Disk.isFile_iff.2 ⟨n, stat⟩)
    exact (stat_eq_ok_iff standing.stands standing.sound.closed below).1 stat
  · intro node
    exact (stat_eq_ok_iff standing.stands standing.sound.closed node.1.below).2 node

/-- The names of a place have one number. -/
theorem number?_congr (standing : f.Standing home d) {a b : Address} (same : SamePlace a b) :
    f.numbering.number? a d = f.numbering.number? b d := by
  have trails : a.resource.trail = b.resource.trail := same
  refine Option.ext fun n => ?_
  rw [standing.number?_iff, standing.number?_iff, trails]
  constructor
  · rintro ⟨reached, node⟩
    exact ⟨reached.congr same, node⟩
  · rintro ⟨reached, node⟩
    exact ⟨reached.congr same.symm, node⟩

/-- The way to the resource is where its node is. -/
theorem path_eq (standing : f.Standing home d) {path : List PathText}
    (found : d.locate (f.placeOf r) = .ok path) (plain : (f.placeOf r).wantsDirectory = false) :
    f.IsReached r ∧ path = home ++ r.trail := by
  have below := trail_ne_nil_of_plain (Disk.locate_eq_ok_iff.1 found).1 plain
  exact ⟨isReached_of_locate below found, path_of_locate standing.stands below found⟩

theorem number?_of_empty (standing : f.Standing home d) {path : List PathText}
    (found : d.locate (f.placeOf r) = .ok path) (plain : (f.placeOf r).wantsDirectory = false)
    (empty : d.node? path = none) : f.numbering.number? r.address d = none := by
  obtain ⟨_, rfl⟩ := standing.path_eq found plain
  refine Option.eq_none_iff_forall_ne_some.2 fun n number => ?_
  cases empty.symm.trans (standing.number?_iff.1 number).2

theorem not_used_fresh (standing : f.Standing home d) : ¬ f.numbering.Used d.fresh d := by
  rintro ⟨a, number⟩
  obtain ⟨_, node⟩ := standing.number?_iff.1 number
  exact Nat.lt_irrefl _ (standing.numbered _ _ node)

/-- Where the same files are, they have the same names. -/
theorem alike (standing : f.Standing home d) (standing' : f.Standing home d')
    (nodes : ∀ path n, d'.node? path = some (.file n) ↔ d.node? path = some (.file n))
    (bodies : ∀ k, d'.body k = d.body k) : f.numbering.Alike d d' := by
  refine ⟨fun a => Option.ext fun n => ?_, bodies⟩
  rw [standing.number?_iff, standing'.number?_iff, nodes]

/-- Where there is no file, none is to be taken away. -/
theorem renames_of_missing (standing : f.Standing home d) (missing : d.isFile (f.placeOf r) = false) :
    f.numbering.Renames (SamePlace · r.address) none d d := by
  constructor
  · intro a here
    exact (standing.number?_congr here).trans (Disk.number?_eq_none_iff.2 missing)
  · intro a _
    rfl

/-- A change of one node renames the place of its resource. -/
theorem renames (standing : f.Standing home d) (standing' : f.Standing home d')
    (reached : f.IsReached r) {k? : Option Nat}
    (here : d'.node? (home ++ r.trail) = k?.map .file)
    (elsewhere : ∀ path, path ≠ home ++ r.trail → d'.node? path = d.node? path) :
    f.numbering.Renames (SamePlace · r.address) k? d d' := by
  constructor
  · intro a same
    have trails : a.resource.trail = r.trail := same
    refine Option.ext fun n => ?_
    rw [standing'.number?_iff, trails, here]
    have reached : f.IsReached a.resource := reached.congr trails.symm
    cases k? <;> simp [reached]
  · intro a other
    refine Option.ext fun n => ?_
    rw [standing.number?_iff, standing'.number?_iff, elsewhere]
    exact fun same => other (List.append_cancel_left same)

end Standing

/-! ## Changes of the disk -/

theorem standing_grows (standing : f.Standing home d) (grows : Disk.Grows d d')
    (sound : f.Sound d') : f.Standing home d' ∧ f.numbering.Alike d d' := by
  have standing' : f.Standing home d' := by
    refine ⟨sound, fun path n node => ?_, standing.stands.passable grows.passable⟩
    rw [grows.fresh]
    exact standing.numbered path n (grows.file_back node)
  exact ⟨standing', standing.alike standing'
    (fun path n => ⟨grows.file_back, grows.node_of_some⟩) grows.body⟩

theorem standing_setBody (standing : f.Standing home d) (n : Nat) (bytes : Bytes) :
    f.Standing home (d.setBody n bytes) :=
  ⟨standing.sound.setBody n bytes, standing.numbered,
    standing.stands.passable (Disk.passable_setBody d n bytes)⟩

/-- The file of the resource gets other bytes. -/
theorem puts_setBody (standing : f.Standing home d) {n : Nat} (bytes : Bytes)
    (number : f.numbering.number? r.address d = some n) :
    f.numbering.Puts (SamePlace · r.address) n bytes d (d.setBody n bytes) := by
  have same (a : Address) :
      f.numbering.number? a (d.setBody n bytes) = f.numbering.number? a d :=
    Disk.number?_setBody d n bytes _
  have body (k : Nat) : f.numbering.bytes (d.setBody n bytes) k =
      if n = k then bytes else d.body k := Disk.body_setBody d n k bytes
  refine ⟨⟨fun a here => ?_, fun a _ => same a⟩, ?_, fun k other => ?_⟩
  · rw [same, standing.number?_congr here, number]
  · rw [body, if_pos rfl]
  · rw [body, if_neg other.symm]
    rfl

theorem standing_removeNode (standing : f.Standing home d) {path : List PathText} {n : Nat}
    (found : d.locate (f.placeOf r) = .ok path) (node : d.node? path = some (.file n))
    (plain : (f.placeOf r).wantsDirectory = false) :
    f.Standing home (d.removeNode path) ∧
      f.numbering.Renames (SamePlace · r.address) none d (d.removeNode path) := by
  have sound := (spares_removeNode (a := r.address) standing.orderly found node plain).sound
  have standing' : f.Standing home (d.removeNode path) :=
    ⟨sound.1, sound.2, standing.stands.passable (Disk.passable_removeNode node)⟩
  obtain ⟨reached, rfl⟩ := standing.path_eq found plain
  refine ⟨standing', standing.renames standing' reached ?_ fun path other => ?_⟩
  · rw [Disk.node?_removeNode, if_pos ⟨by simp [reached.below], rfl⟩]
    rfl
  · rw [Disk.node?_removeNode, if_neg fun same => other same.2.symm]

theorem standing_addFile (standing : f.Standing home d) {path : List PathText}
    (found : d.locate (f.placeOf r) = .ok path) (plain : (f.placeOf r).wantsDirectory = false)
    (empty : d.node? path = none) :
    f.Standing home (d.addFile path) ∧
      f.numbering.Puts (SamePlace · r.address) d.fresh [] d (d.addFile path) := by
  have sound := (spares_addFile (a := r.address) standing.orderly found plain empty).1.sound
  have standing' : f.Standing home (d.addFile path) :=
    ⟨sound.1, sound.2, standing.stands.passable (Disk.passable_addFile empty)⟩
  have body (k : Nat) : f.numbering.bytes (d.addFile path) k =
      if d.fresh = k then [] else d.body k := Disk.body_addFile d path k
  obtain ⟨reached, rfl⟩ := standing.path_eq found plain
  refine ⟨standing', standing.renames standing' reached ?_ fun path other => ?_, ?_,
    fun k other => ?_⟩
  · rw [Disk.node?_addFile empty, if_pos rfl]
    rfl
  · rw [Disk.node?_addFile empty, if_neg other.symm]
  · rw [body, if_pos rfl]
  · rw [body, if_neg other.symm]
    rfl

theorem standing_setFile (standing : f.Standing home d) {path : List PathText} {n : Nat}
    (found : d.locate (f.placeOf r) = .ok path) (plain : (f.placeOf r).wantsDirectory = false)
    (empty : d.node? path = none) (old : n < d.fresh) :
    f.Standing home (d.setNode path (.file n)) ∧
      f.numbering.Renames (SamePlace · r.address) (some n) d (d.setNode path (.file n)) := by
  have nodes (other : List PathText) : (d.setNode path (.file n)).node? other =
      if path = other then some (.file n) else d.node? other :=
    Disk.node?_setNode d path other _ (Disk.ne_nil_of_node?_eq_none empty)
  have passable : Disk.Passable d (d.setNode path (.file n)) := by
    refine ⟨fun other there => ?_, rfl⟩
    rw [nodes, if_neg, there]
    rintro rfl
    cases empty.symm.trans there
  have numbered : (d.setNode path (.file n)).Numbered := by
    intro other k there
    rw [nodes] at there
    split at there
    · obtain rfl := Node.file.inj (Option.some.inj there)
      exact old
    · exact standing.numbered other k there
  have standing' : f.Standing home (d.setNode path (.file n)) :=
    ⟨standing.sound.setNode rfl found empty _, numbered, standing.stands.passable passable⟩
  obtain ⟨reached, rfl⟩ := standing.path_eq found plain
  refine ⟨standing', standing.renames standing' reached ?_ fun path other => ?_⟩
  · rw [nodes, if_pos rfl]
    rfl
  · rw [nodes, if_neg other.symm]

/-! ## Parts of the calls -/

/-- What goes on below a directory does so on a disk with the same files. -/
theorem standing_withParent {α : Type} (standing : f.Standing home d) (activity : Activity)
    (r : Resource) (go : Disk → Except Failure α × Disk) :
    ∃ d₁, f.Standing home d₁ ∧ Disk.Grows d d₁ ∧ f.numbering.Alike d d₁ ∧
      ((∃ e, withParent activity (f.placeOf r) d go = (.error e, d₁)) ∨
        withParent activity (f.placeOf r) d go = go d₁) := by
  unfold withParent
  split
  · exact ⟨d, standing, .refl d, .refl d, .inr rfl⟩
  next above parent =>
  split
  · exact ⟨d, standing, .refl d, .refl d, .inr rfl⟩
  have grows := Disk.grows_makeDirectories above d
  have sound := standing.sound.makeDirectories (Place.begins_of_parent? ⟨f.root, rfl, rfl⟩ parent)
  generalize d.makeDirectories above = outcome at grows sound ⊢
  obtain ⟨standing, alike⟩ := standing_grows standing grows sound
  obtain ⟨_ | _, d₁⟩ := outcome
  · exact ⟨d₁, standing, grows, alike, .inl ⟨_, rfl⟩⟩
  · exact ⟨d₁, standing, grows, alike, .inr rfl⟩

/-- A file that is created was there before, or is a new one. -/
theorem puts_create (standing : f.Standing home d) {n : Nat}
    (created : d.create (f.placeOf r) = (.ok n, d')) :
    f.Standing home d' ∧ f.numbering.Puts (SamePlace · r.address) n [] d d' ∧
      (f.numbering.number? r.address d = some n ∨
        f.numbering.number? r.address d = none ∧ n = d.fresh) := by
  obtain ⟨number, eq⟩ | ⟨path, found, plain, empty, rfl, eq⟩ :=
    Disk.of_create_eq_ok (congrArg Prod.fst created)
  · obtain rfl := (congrArg Prod.snd created).symm.trans eq
    exact ⟨standing_setBody standing n [], puts_setBody standing [] number, .inl number⟩
  · obtain rfl := (congrArg Prod.snd created).symm.trans eq
    obtain ⟨standing', puts⟩ := standing_addFile standing found plain empty
    have number : f.numbering.number? r.address (d.addFile path) = some d.fresh :=
      puts.renames.here _ rfl
    refine ⟨standing_setBody standing' _ [], puts.trans (puts_setBody standing' [] number),
      .inr ⟨standing.number?_of_empty found plain empty, rfl⟩⟩

theorem same_of_create {p : Place} {fault : Fault} (failed : d.create p = (.error fault, d')) :
    d' = d := by
  have same : (d.create p).2 = d := Disk.create_of_error (congrArg Prod.fst failed)
  rwa [failed] at same

/-- Copying a file to a place puts its bytes there, or does nothing. A file that
is copied to itself is emptied. -/
theorem puts_copyFile (standing : f.Standing home d) (p : Place) (r : Resource) :
    (∃ fault, d.copyFile p (f.placeOf r) = (.error fault, d)) ∨
      ∃ k n d', d.stat p = .ok (.file n) ∧ d.copyFile p (f.placeOf r) = (.ok (), d') ∧
        f.Standing home d' ∧
        f.numbering.Puts (SamePlace · r.address) k (if n = k then [] else d.body n) d d' ∧
        (f.numbering.number? r.address d = some k ∨
          f.numbering.number? r.address d = none ∧ k = d.fresh) := by
  unfold Disk.copyFile
  cases stat : d.stat p with
  | error fault => exact .inl ⟨fault, rfl⟩
  | ok there =>
    cases there with
    | directory => exact .inl ⟨_, rfl⟩
    | file n =>
      rcases created : d.create (f.placeOf r) with ⟨fault | m, d'⟩
      · obtain rfl := same_of_create created
        exact .inl ⟨fault, rfl⟩
      · obtain ⟨standing', puts, made⟩ := puts_create standing created
        refine .inr ⟨m, n, _, rfl, rfl, standing_setBody standing' m _, ?_, made⟩
        have content : d'.body n = if n = m then [] else d.body n := by
          split
          · next eq => exact eq ▸ puts.filled
          · next other => exact puts.rest n other
        rw [← content]
        exact puts.trans (puts_setBody standing' _ (puts.renames.here _ rfl))

/-! ## The calls -/

/-- What a call does to the names, and that the root still stands. -/
abbrev Tells (f : Files) (home : List PathText) (call : Call) (d d' : Disk) : Prop :=
  f.Standing home d' ∧ f.numbering.Renaming SamePlace d d' call

theorem tells_self (standing : f.Standing home d) : f.Tells home call d d :=
  ⟨standing, .still fun _ => rfl⟩

theorem Tells.after {d₁ : Disk} (alike : f.numbering.Alike d d₁)
    (tells : f.Tells home call d₁ d') : f.Tells home call d d' :=
  ⟨tells.1, tells.2.after alike.number⟩

theorem tells_withParent {α : Type} {activity : Activity} {go : Disk → Except Failure α × Disk}
    (standing : f.Standing home d)
    (tells : ∀ d, f.Standing home d → f.Tells home call d (go d).2) :
    f.Tells home call d (withParent activity (f.placeOf r) d go).2 := by
  obtain ⟨d₁, standing₁, _, alike, ⟨e, stopped⟩ | went⟩ :=
    standing_withParent standing activity r go
  · rw [stopped]
    exact .after alike (tells_self standing₁)
  · rw [went]
    exact .after alike (tells d₁ standing₁)

/-- A new file where there was none. -/
theorem tells_of_puts {k : Nat} (standing : f.Standing home d) (standing' : f.Standing home d')
    {bytes : Bytes} (puts : f.numbering.Puts (SamePlace · r.address) k bytes d d')
    (made : f.numbering.number? r.address d = some k ∨
      f.numbering.number? r.address d = none ∧ k = d.fresh) : f.Tells home call d d' := by
  refine ⟨standing', ?_⟩
  obtain old | ⟨missing, rfl⟩ := made
  · refine .still fun a => ?_
    by_cases here : SamePlace a r.address
    · rw [puts.renames.here a here, standing.number?_congr here, old]
    · exact puts.renames.elsewhere a here
  · exact .create r d.fresh standing.not_used_fresh
      (fun a here => (standing.number?_congr here).trans missing) puts.renames

theorem tells_openWriter (standing : f.Standing home d) (r : Resource) :
    f.Tells home call d (f.openWriter r d).2 := by
  refine tells_withParent standing fun d standing => ?_
  rcases created : d.create (f.placeOf r) with ⟨fault | n, d'⟩
  · obtain rfl := same_of_create created
    exact tells_self standing
  · obtain ⟨standing', puts, made⟩ := puts_create standing created
    exact tells_of_puts standing standing' puts made

theorem tells_createFile (standing : f.Standing home d) (r : Resource) :
    f.Tells home call d (f.createFile r d).2 := by
  refine tells_withParent standing fun d standing => ?_
  have opened : f.Tells home call d (d.openForWriting (f.placeOf r)).2 := by
    obtain same | ⟨path, found, plain, empty, eq⟩ := Disk.openForWriting_cases (f.placeOf r) d
    · rw [same]
      exact tells_self standing
    · rw [eq]
      obtain ⟨standing', puts⟩ := standing_addFile standing found plain empty
      exact tells_of_puts standing standing' puts
        (.inr ⟨standing.number?_of_empty found plain empty, rfl⟩)
  generalize d.openForWriting (f.placeOf r) = outcome at opened ⊢
  split <;> exact opened

/-- What is left to do after the file of a place was taken away. -/
theorem Tells.behind {d₁ : Disk} (standing : f.Standing home d)
    (displaced : call.displaced? = some r)
    (removed : f.numbering.Renames (SamePlace · r.address) none d d₁) (fresh : d₁.fresh = d.fresh)
    (made : f.Standing home d') (placed : d' = d₁ ∨
      (∃ k bytes, f.numbering.Puts (SamePlace · r.address) k bytes d₁ d' ∧ k = d₁.fresh) ∨
      call.aliased? = some r ∧ ∃ k, f.numbering.Renames (SamePlace · r.address) (some k) d₁ d') :
    f.Tells home call d d' := by
  refine ⟨made, ?_⟩
  obtain rfl | ⟨k, bytes, puts, rfl⟩ | ⟨aliased, k, renames⟩ := placed
  · exact .remove r displaced removed
  · exact .replace r _ displaced (fresh ▸ standing.not_used_fresh) (removed.trans puts.renames)
  · exact .link r k aliased (removed.trans renames)

theorem tells_copy (standing : f.Standing home d) (source target : Resource) :
    f.Tells home (.ask (.copy source target)) d (f.copy source target d).2 := by
  unfold copy
  dsimp only
  split
  · exact tells_self standing
  refine tells_withParent standing fun d standing => ?_
  cases file : d.isFile (f.placeOf target) with
  | false =>
    rw [replacing_of_not_isFile file, snd_reporting]
    obtain ⟨fault, failed⟩ | ⟨k, n, d', _, copied, standing', puts, made⟩ :=
      puts_copyFile standing (f.placeOf source) target
    · rw [failed]
      exact tells_self standing
    · rw [copied]
      exact tells_of_puts standing standing' puts made
  | true =>
    obtain ⟨path, n, found, node, plain⟩ := exists_of_isFile file
    rw [replacing_of_isFile found file, snd_reporting]
    obtain ⟨standing₁, removed⟩ := standing_removeNode standing found node plain
    have missing := removed.here target.address rfl
    obtain ⟨fault, failed⟩ | ⟨k, m, d', _, copied, standing', puts, old | ⟨_, new⟩⟩ :=
      puts_copyFile standing₁ (f.placeOf source) target
    · rw [failed]
      exact .behind standing rfl removed rfl standing₁ (.inl rfl)
    · cases missing.symm.trans old
    · rw [copied]
      exact .behind standing rfl removed rfl standing' (.inr (.inl ⟨k, _, puts, new⟩))

/-- A link is made, or nothing is done. -/
theorem standing_link (standing : f.Standing home d) (source target : Resource) :
    (∃ fault, d.link (f.placeOf source) (f.placeOf target) = (.error fault, d)) ∨
      ∃ n d', f.numbering.number? source.address d = some n ∧
        d.link (f.placeOf source) (f.placeOf target) = (.ok (), d') ∧ f.Standing home d' ∧
        (∀ k, d'.body k = d.body k) ∧
        f.numbering.Renames (SamePlace · target.address) (some n) d d' := by
  cases stat : d.stat (f.placeOf source) with
  | error fault => exact .inl ⟨fault, by simp [Disk.link, stat]⟩
  | ok there =>
    cases there with
    | directory =>
      refine .inl ⟨.notRegular, ?_⟩
      cases d.locate (f.placeOf target) <;> simp [Disk.link, stat]
    | file n =>
      have number : f.numbering.number? source.address d = some n :=
        Disk.number?_eq_some_iff.2 stat
      cases found : d.locate (f.placeOf target) with
      | error fault => exact .inl ⟨fault, by simp [Disk.link, stat, found]⟩
      | ok path =>
        cases node : d.node? path with
        | some _ => exact .inl ⟨.alreadyExists, by simp [Disk.link, stat, found, node]⟩
        | none =>
          cases plain : (f.placeOf target).wantsDirectory with
          | true => exact .inl ⟨.notFound, by simp [Disk.link, stat, found, node, plain]⟩
          | false =>
            have old : n < d.fresh := standing.numbered.number? number
            obtain ⟨standing', renames⟩ := standing_setFile standing found plain node old
            exact .inr ⟨n, _, number, by simp [Disk.link, stat, found, node, plain], standing',
              fun _ => rfl, renames⟩

theorem tells_createAlias (standing : f.Standing home d) (source target : Resource) :
    f.Tells home (.ask (.createAlias source target)) d (f.createAlias source target d).2 := by
  unfold createAlias
  dsimp only
  split
  · exact tells_self standing
  split
  · obtain ⟨standing', copied⟩ := tells_copy standing source target
    exact ⟨standing', copied.of_copy⟩
  obtain ⟨d₁, standing₁, _, alike, ⟨e, stopped⟩ | went⟩ :=
    standing_withParent standing .createAlias target fun d =>
      replacing .createAlias (f.placeOf target) d fun d => (Except.ok (), d)
  · rw [stopped]
    exact .after alike (tells_self standing₁)
  rw [went]
  refine .after alike ?_
  cases file : d₁.isFile (f.placeOf target) with
  | false =>
    rw [replacing_of_not_isFile file]
    dsimp only
    rw [snd_reporting]
    obtain ⟨fault, failed⟩ | ⟨n, d', _, linked, standing', _, renames⟩ :=
      standing_link standing₁ source target
    · rw [failed]
      exact tells_self standing₁
    · rw [linked]
      exact ⟨standing', .link target n rfl renames⟩
  | true =>
    obtain ⟨path, n, found, node, plain⟩ := exists_of_isFile file
    rw [replacing_of_isFile found file]
    dsimp only
    rw [snd_reporting]
    obtain ⟨standing₂, removed⟩ := standing_removeNode standing₁ found node plain
    obtain ⟨fault, failed⟩ | ⟨k, d', _, linked, standing', _, renames⟩ :=
      standing_link standing₂ source target
    · rw [failed]
      exact .behind standing₁ rfl removed rfl standing₂ (.inl rfl)
    · rw [linked]
      exact .behind standing₁ rfl removed rfl standing' (.inr (.inr ⟨rfl, k, renames⟩))

theorem tells_mkdirs (standing : f.Standing home d) (r : Resource) :
    f.Tells home call d (f.mkdirs r d).2 := by
  have sound := sound_mkdirs standing.sound r
  rw [mkdirs, snd_reporting] at sound ⊢
  obtain ⟨standing', alike⟩ := standing_grows standing (Disk.grows_makeDirectories _ d) sound
  exact ⟨standing', .still alike.number⟩

/-- Removing a directory takes no file from its place, if the root still stands. -/
theorem standing_removeDirectory (standing : f.Standing home d) {p : Place}
    (sound : f.Sound (d.removeDirectory p).2) (stands : f.Stands (d.removeDirectory p).2) :
    f.Standing home (d.removeDirectory p).2 ∧
      f.numbering.Alike d (d.removeDirectory p).2 := by
  have shrinks := Disk.shrinks_removeDirectory p d
  have files : ∀ path n, (d.removeDirectory p).2.node? path = some (.file n) ↔
      d.node? path = some (.file n) := by
    refine fun path n => ⟨shrinks.node path _, fun node => ?_⟩
    unfold Disk.removeDirectory
    split
    · exact node
    next gone found =>
    split
    · exact node
    · exact node
    next stat =>
    split
    · obtain ⟨gone', found', directory⟩ := Disk.stat_eq_directory_iff.1 stat
      obtain rfl : gone' = gone := Except.ok.inj (found'.symm.trans found)
      rw [Disk.node?_removeNode, if_neg, node]
      rintro ⟨_, rfl⟩
      cases directory.symm.trans node
    · exact node
  have bodies : (d.removeDirectory p).2.bodies = d.bodies := by
    unfold Disk.removeDirectory
    repeat' split
    all_goals rfl
  obtain ⟨home', stands'⟩ := stands_iff.1 stands
  obtain rfl : home' = home := (stands'.passable shrinks.passable).unique standing.stands
  have standing' : f.Standing home' (d.removeDirectory p).2 := by
    refine ⟨sound, fun path n node => ?_, stands'⟩
    rw [Disk.fresh_removeDirectory]
    exact standing.numbered path n ((files path n).1 node)
  refine ⟨standing', standing.alike standing' files fun k => ?_⟩
  rw [Disk.body, Disk.body, bodies]

/-- A deletion takes away the file of the resource, or touches no file. -/
theorem delete_cases (standing : f.Standing home d) (r : Resource)
    (sound : f.Sound (f.delete r d).2) (stands : f.Stands (f.delete r d).2) :
    (f.Standing home (f.delete r d).2 ∧ f.numbering.Alike d (f.delete r d).2 ∧
      (f.delete r d).2.fresh = d.fresh) ∨
    ∃ path n, d.locate (f.placeOf r) = .ok path ∧ d.node? path = some (.file n) ∧
      (f.placeOf r).wantsDirectory = false ∧ (f.delete r d).2 = d.removeNode path := by
  have whole : (f.delete r d).2 = (if d.isDirectory (f.placeOf r) then
      d.removeDirectory (f.placeOf r) else d.removeFile (f.placeOf r)).2 := by
    unfold delete
    dsimp only
    split <;> simp_all
  rw [whole] at sound stands ⊢
  split at sound
  · next directory =>
    rw [if_pos directory] at stands ⊢
    obtain ⟨standing', alike⟩ := standing_removeDirectory standing sound stands
    exact .inl ⟨standing', alike, Disk.fresh_removeDirectory _ d⟩
  · next other =>
    rw [if_neg other]
    unfold Disk.removeFile
    split
    · exact .inl ⟨standing, .refl d, rfl⟩
    next path found =>
    split
    · exact .inl ⟨standing, .refl d, rfl⟩
    · exact .inl ⟨standing, .refl d, rfl⟩
    next n stat =>
    obtain ⟨path', found', node, plain⟩ := Disk.stat_eq_file_iff.1 stat
    obtain rfl : path' = path := Except.ok.inj (found'.symm.trans found)
    exact .inr ⟨path', n, found, node, plain, rfl⟩

theorem tells_delete (standing : f.Standing home d) (r : Resource)
    (sound : f.Sound (f.delete r d).2) (stands : f.Stands (f.delete r d).2) :
    f.Tells home (.ask (.delete r)) d (f.delete r d).2 := by
  obtain ⟨standing', alike, _⟩ | ⟨path, n, found, node, plain, removed⟩ :=
    delete_cases standing r sound stands
  · exact ⟨standing', .still alike.number⟩
  · rw [removed]
    obtain ⟨standing', gone⟩ := standing_removeNode standing found node plain
    exact ⟨standing', .remove r rfl gone⟩

theorem tells_run (standing : f.Standing home d) (q : Request)
    (sound : f.Sound (q.run f.backend d).2) (stands : f.Stands (q.run f.backend d).2) :
    f.Tells home (.ask q) d (q.run f.backend d).2 := by
  cases q <;> simp only [Request.run, Request.snd_keeping] at sound stands ⊢
  case openWriter r => exact tells_openWriter standing r
  case copy source target => exact tells_copy standing source target
  case delete r => exact tells_delete standing r sound stands
  case mkdirs r => exact tells_mkdirs standing r
  case createFile r => exact tells_createFile standing r
  case createAlias source target => exact tells_createAlias standing source target

theorem Tells.setBody (tells : f.Tells home call d d') (n : Nat) (bytes : Bytes) :
    f.Tells home call d (d'.setBody n bytes) :=
  ⟨standing_setBody tells.1 n bytes, tells.2.before fun _ => Disk.number?_setBody d' n bytes _⟩

/-- What one call does on disk, as long as the root stands. -/
theorem tells_perform {u : Usage Disk Disk.Writer} (standing : f.Standing home u.store)
    (call : Call) (sound : f.Sound (u.perform f.backend call).store)
    (stands : f.Stands (u.perform f.backend call).store) :
    f.Tells home call u.store (u.perform f.backend call).store := by
  cases call with
  | ask q =>
    rw [Usage.store_perform_ask] at sound stands ⊢
    exact tells_run standing q sound stands
  | write i bytes =>
    unfold Usage.perform
    dsimp only
    split
    · exact tells_self standing
    · exact Disk.Writer.keeps_write (fun _ bytes tells => tells.setBody _ bytes) bytes
        (tells_self standing)
  | flush i =>
    unfold Usage.perform
    dsimp only
    split
    · exact tells_self standing
    · exact Disk.Writer.keeps_flush (fun _ bytes tells => tells.setBody _ bytes)
        (tells_self standing)
  | close i =>
    unfold Usage.perform
    dsimp only
    split
    · exact tells_self standing
    · exact Disk.Writer.keeps_flush (fun _ bytes tells => tells.setBody _ bytes)
        (tells_self standing)

/-! ## Runs -/

/-- The root stands all along. -/
structure Rooted (f : Files) (d : Disk) (calls : List Call) : Prop where
  home : f.HasHome d calls
  stands (done : List Call) : done <+: calls → f.Stands (Usage.after f.backend d done).store

/-- An absolute root that does not lead up stands on every disk. -/
theorem rooted_of_isAbsolute (absolute : (PathText.text f.root).isAbsolute = true)
    (forward : ∀ name ∈ Place.stepsOf (.text f.root), name ≠ .text "..") (d : Disk)
    (calls : List Call) : f.Rooted d calls where
  home := hasHome_of_isAbsolute absolute d calls
  stands done _ := by
    refine stands_of_forward forward ?_
    simp [Disk.start, Place.isAbsolute, absolute, Disk.node?]

theorem Rooted.anti {calls done : List Call} (rooted : f.Rooted d calls) (le : done <+: calls) :
    f.Rooted d done :=
  ⟨fun more le' => rooted.home more (le'.trans le), fun more le' => rooted.stands more (le'.trans le)⟩

/-- While the root stands, every state is in order and renames as it may. -/
theorem standing_after (closed : d.Closed) (numbered : d.Numbered) {calls : List Call}
    (rooted : f.Rooted d calls) :
    ∃ home, f.Standing home (Usage.after f.backend d calls).store ∧
      ∀ done call, done ++ [call] <+: calls →
        f.numbering.Renaming SamePlace (Usage.after f.backend d done).store
          (Usage.after f.backend d (done ++ [call])).store call := by
  induction calls using List.reverseRecOn with
  | nil =>
    obtain ⟨home, stands⟩ := stands_iff.1 (rooted.stands [] List.prefix_rfl)
    refine ⟨home, ⟨⟨closed, rooted.home [] List.prefix_rfl⟩, numbered, stands⟩, ?_⟩
    intro done call le
    simp at le
  | append_singleton calls call ih =>
    obtain ⟨home, standing, renamed⟩ := ih (rooted.anti (List.prefix_append _ _))
    have sound : f.Sound (Usage.after f.backend d (calls ++ [call])).store :=
      ⟨closed_after closed rooted.home, rooted.home _ List.prefix_rfl⟩
    have stands := rooted.stands _ List.prefix_rfl
    rw [Usage.after_append_singleton] at sound stands ⊢
    obtain ⟨standing', last⟩ := tells_perform standing call sound stands
    refine ⟨home, standing', fun done next le => ?_⟩
    obtain eq | le := List.prefix_concat_iff.1 le
    · obtain ⟨rfl, last_eq⟩ := List.append_inj' eq rfl
      obtain rfl := List.singleton_inj.1 last_eq
      rwa [Usage.after_append_singleton]
    · exact renamed done next le

theorem tracks (closed : d.Closed) (numbered : d.Numbered) {calls later : List Call}
    (rooted : f.Rooted d (calls ++ later)) :
    f.numbering.Tracks SamePlace f.backend (Usage.after f.backend d calls) later := by
  obtain ⟨_, _, renamed⟩ := standing_after closed numbered rooted
  intro done call le
  have step := renamed (calls ++ done) call (by
    rw [List.append_assoc]
    exact (List.prefix_append_right_inj calls).2 le)
  rw [List.append_assoc] at step
  simpa only [Usage.after, List.foldl_append] using step

end Files
end ArtifactCache
