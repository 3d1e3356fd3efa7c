import ArtifactCache.Proofs.Room

/-!
Deals with the store on disk. Where there is room for all resources, each deal finds
the directory above its resource, or makes it, and does what is seen of it
(`Files.simulates`).
-/
namespace ArtifactCache

namespace Files
variable {f : Files} {P : Resource → Prop} {home : List PathText} {d d' d₁ : Disk}
  {r source : Resource} {c : Contents} {w : Disk.Writer}

/-! ## Writers -/

theorem rewrites_setBody {n : Nat} (rewrites : f.numbering.Rewrites n d d') (bytes : Bytes) :
    f.numbering.Rewrites n d (d'.setBody n bytes) := by
  refine rewrites.trans ⟨fun a => Disk.number?_setBody d' n bytes _, fun j other => ?_⟩
  exact (Disk.body_setBody d' n j bytes).trans (if_neg other.symm)

theorem rewriting (f : Files) : f.numbering.Rewriting f.backend := by
  have write {w : Disk.Writer} {d : Disk} (bytes : Bytes) :
      f.numbering.Rewrites w.body d (w.write bytes d).2 :=
    w.keeps_write (Q := f.numbering.Rewrites w.body d)
      (fun _ bytes rewrites => rewrites_setBody rewrites bytes) bytes (.refl w.body d)
  have flush {w : Disk.Writer} {d : Disk} : f.numbering.Rewrites w.body d (w.flush d).2 :=
    w.keeps_flush (fun _ bytes rewrites => rewrites_setBody rewrites bytes) (.refl w.body d)
  constructor
  · intro a w given d k bytes writing number
    obtain rfl := Option.some.inj (writing.1.symm.trans number)
    exact write bytes
  · intro a w given d k writing number
    obtain rfl := Option.some.inj (writing.1.symm.trans number)
    exact flush
  · intro a w given d k writing number
    obtain rfl := Option.some.inj (writing.1.symm.trans number)
    exact flush

namespace Roomy

theorem pour (roomy : f.Roomy home P d) (w : Disk.Writer) (parts : List Part) :
    f.Roomy home P (f.backend.pour w parts d) := by
  have flush (w : Disk.Writer) {d : Disk} (roomy : f.Roomy home P d) :
      f.Roomy home P (w.flush d).2 :=
    w.keeps_flush (fun _ bytes roomy => roomy.setBody w.body bytes) roomy
  induction parts generalizing w d with
  | nil => exact flush w roomy
  | cons part rest ih =>
    cases part with
    | write bytes =>
      exact ih (w.keeps_write (fun _ bytes roomy => roomy.setBody w.body bytes) bytes roomy) _
    | flush => exact ih (flush w roomy) _

/-- A file is opened, or a new one is made. -/
theorem opens (roomy : f.Roomy home P d) (admits : f.Admits P) (mem : P r)
    (found : d.locate (f.placeOf r) = .ok (home ++ r.trail)) :
    (∃ n, f.numbering.number? r.address d = some n ∧
      d.openForWriting (f.placeOf r) = (.ok n, d)) ∨
    d.node? (home ++ r.trail) = none ∧
      d.openForWriting (f.placeOf r) = (.ok d.fresh, d.addFile (home ++ r.trail)) := by
  have plain := admits.plain mem
  cases node : d.node? (home ++ r.trail) with
  | none => exact .inr ⟨rfl, by simp [Disk.openForWriting, plain, found, node, Disk.addFile]⟩
  | some there =>
    cases there with
    | directory => exact absurd node (roomy.free r mem)
    | file n =>
      have number : f.numbering.number? r.address d = some n :=
        Disk.number?_eq_some_iff_exists.2 ⟨_, found, node, plain⟩
      exact .inl ⟨n, number, by simp [Disk.openForWriting, plain, found, node]⟩

theorem addFile (roomy : f.Roomy home P d) (admits : f.Admits P) (mem : P r)
    (found : d.locate (f.placeOf r) = .ok (home ++ r.trail))
    (empty : d.node? (home ++ r.trail) = none) :
    f.Roomy home P (d.addFile (home ++ r.trail)) := by
  obtain ⟨standing, _⟩ := standing_addFile roomy.standing found (admits.plain mem) empty
  have alters := Disk.alters_setNode (n := d.fresh) empty
  exact roomy.alters admits mem standing ⟨alters.here, alters.elsewhere⟩

/-- A file can be created. -/
theorem creates (roomy : f.Roomy home P d) (admits : f.Admits P) (mem : P r)
    (found : d.locate (f.placeOf r) = .ok (home ++ r.trail)) :
    ∃ n d', d.create (f.placeOf r) = (.ok n, d') ∧ f.Roomy home P d' ∧
      f.numbering.Puts (SamePlace · r.address) n [] d d' ∧ f.numbering.Takes r.address n d := by
  have created : ∃ n d', d.create (f.placeOf r) = (.ok n, d') ∧ f.Roomy home P d' := by
    obtain ⟨n, _, opened⟩ | ⟨empty, opened⟩ := roomy.opens admits mem found
    · exact ⟨n, _, by rw [Disk.create, opened], roomy.setBody n []⟩
    · exact ⟨_, _, by rw [Disk.create, opened],
        (roomy.addFile admits mem found empty).setBody _ []⟩
  obtain ⟨n, d', eq, roomy'⟩ := created
  obtain ⟨_, puts, made⟩ := puts_create roomy.standing eq
  exact ⟨n, d', eq, roomy', puts, takes_of_create roomy.standing made⟩

/-- What takes the place of a file goes on where there is none. -/
theorem replaces (roomy : f.Roomy home P d) (admits : f.Admits P) (mem : P r)
    (found : d.locate (f.placeOf r) = .ok (home ++ r.trail)) {α : Type} (activity : Activity)
    (go : Disk → Except Failure α × Disk) :
    ∃ d₁, replacing activity (f.placeOf r) d go = go d₁ ∧ f.Roomy home P d₁ ∧
      d₁.locate (f.placeOf r) = .ok (home ++ r.trail) ∧ d₁.node? (home ++ r.trail) = none ∧
      f.numbering.Renames (SamePlace · r.address) none d d₁ ∧ d₁.bodies = d.bodies := by
  have plain := admits.plain mem
  cases node : d.node? (home ++ r.trail) with
  | none =>
    have missing : d.isFile (f.placeOf r) = false := by
      simp [Disk.isFile, Disk.stat_of_locate found, node]
    exact ⟨d, replacing_of_not_isFile missing, roomy, found, node,
      roomy.standing.renames_of_missing missing, rfl⟩
  | some there =>
    cases there with
    | directory => exact absurd node (roomy.free r mem)
    | file n =>
      have file : d.isFile (f.placeOf r) = true :=
        Disk.isFile_iff.2 ⟨n, Disk.stat_eq_file_iff.2 ⟨_, found, node, plain⟩⟩
      obtain ⟨standing₁, gone⟩ := standing_removeNode roomy.standing found node plain
      obtain ⟨found₁, empty⟩ := room_of_removeNode found node
      exact ⟨_, replacing_of_isFile found file,
        roomy.alters admits mem standing₁ (Disk.alters_removeNode d _), found₁, empty, gone, rfl⟩

/-- A file is to be put at the place of a resource, from a source at another place. -/
theorem prepares (roomy : f.Roomy home P d) (admits : f.Admits P) (mem : P r) {n : Nat}
    (other : ¬ SamePlace source.address r.address)
    (number : f.numbering.number? source.address d = some n) {α : Type} (activity : Activity)
    (go : Disk → Except Failure α × Disk) :
    ∃ d₂, (withParent activity (f.placeOf r) d fun d => replacing activity (f.placeOf r) d go) =
        go d₂ ∧ f.Roomy home P d₂ ∧ d₂.locate (f.placeOf r) = .ok (home ++ r.trail) ∧
      d₂.node? (home ++ r.trail) = none ∧ d₂.stat (f.placeOf source) = .ok (.file n) ∧
      f.numbering.Renames (SamePlace · r.address) none d d₂ ∧ ∀ k, d₂.body k = d.body k := by
  obtain ⟨d₁, went, roomy₁, alike, found₁⟩ := roomy.enters admits mem
  obtain ⟨d₂, went', roomy₂, found₂, empty, gone, bodies⟩ :=
    roomy₁.replaces admits mem found₁ activity go
  have renames := gone.after alike.number
  refine ⟨d₂, (went activity _).trans went', roomy₂, found₂, empty, ?_, renames, fun k => ?_⟩
  · exact Disk.number?_eq_some_iff.1 ((renames.elsewhere _ other).trans number)
  · have same : d₁.body k = d.body k := alike.bytes k
    rw [← same, Disk.body, bodies]
    rfl

/-- A file can be copied to the place of a resource. -/
theorem copies (roomy : f.Roomy home P d) (admits : f.Admits P) (mem : P r)
    (other : ¬ SamePlace source.address r.address) (file : d.isFile (f.placeOf source) = true) :
    ∃ d', f.copy source r d = (.ok (), d') ∧ f.Roomy home P d' := by
  obtain ⟨n, stat⟩ := Disk.isFile_iff.1 file
  have apart : (f.placeOf source).same (f.placeOf r) = false := not_samePlace_iff.1 other
  obtain ⟨d₂, went, roomy₂, found, empty, there, _⟩ := roomy.prepares admits mem other
    (Disk.number?_eq_some_iff.2 stat) .copy fun d =>
      reporting .copy (f.placeOf source) (d.copyFile (f.placeOf source) (f.placeOf r))
  obtain ⟨m, d₃, created, roomy₃, _⟩ := roomy₂.creates admits mem found
  refine ⟨_, ?_, roomy₃.setBody m (d₃.body n)⟩
  rw [copy, if_neg (by simp [apart])]
  refine went.trans ?_
  simp [Disk.copyFile, there, created, reporting]

/-- A file can be given the place of a resource as another name. -/
theorem links (roomy : f.Roomy home P d) (admits : f.Admits P) (mem : P r)
    (linking : f.linking = true) (other : ¬ SamePlace source.address r.address)
    (file : d.isFile (f.placeOf source) = true) :
    ∃ n lines d', f.createAlias source r d = ((.ok (), lines), d') ∧ f.Roomy home P d' ∧
      f.numbering.number? source.address d = some n ∧
      f.numbering.Renames (SamePlace · r.address) (some n) d d' ∧ ∀ k, d'.body k = d.body k := by
  obtain ⟨n, stat⟩ := Disk.isFile_iff.1 file
  have number : f.numbering.number? source.address d = some n := Disk.number?_eq_some_iff.2 stat
  have different : source.same r = false := not_same_of_not_samePlace other
  have plain := admits.plain mem
  obtain ⟨d₂, went, roomy₂, found, empty, there, gone, bodies⟩ :=
    roomy.prepares admits mem other number .createAlias fun d => (.ok (), d)
  have linked : d₂.link (f.placeOf source) (f.placeOf r) =
      (.ok (), d₂.setNode (home ++ r.trail) (.file n)) := by
    simp [Disk.link, there, found, empty, plain]
  have old : n < d₂.fresh :=
    roomy₂.standing.numbered.number? (Disk.number?_eq_some_iff.2 there)
  obtain ⟨standing, renames⟩ := standing_setFile roomy₂.standing found plain empty old
  obtain ⟨lines, aliased⟩ : ∃ lines, f.createAlias source r d =
      ((.ok (), lines), d₂.setNode (home ++ r.trail) (.file n)) := by
    simp [createAlias, different, file, linking, went, linked, reporting]
  have roomy' := roomy₂.alters admits mem standing (Disk.alters_setNode empty)
  exact ⟨n, lines, _, aliased, roomy', number, gone.trans renames, bodies⟩

end Roomy

/-! ## The deals -/

theorem isFile_eq_content? (r : Resource) (d : Disk) :
    d.isFile (f.placeOf r) = (f.numbering.content? r.address d).isSome := by
  rw [content?_numbering, Disk.contentOf_isSome]

/-- What is no directory is as long as its content. -/
theorem length_eq_content? {r : Resource} {d : Disk} (other : d.isDirectory (f.placeOf r) = false) :
    f.length r d = ((f.numbering.content? r.address d).getD []).length := by
  unfold Disk.isDirectory at other
  rw [content?_numbering, length, Disk.contentOf]
  cases stat : d.stat (f.placeOf r) with
  | error => rfl
  | ok found =>
    cases found with
    | file => rfl
    | directory => simp [stat] at other

theorem isFile_of_shows (shows_ : f.numbering.Shows P d c) (mem : P r) :
    d.isFile (f.placeOf r) = c.isFile r := by
  rw [isFile_eq_content?, shows_.content r mem]
  rfl

/-- A copy is a new file with the bytes of the source. -/
theorem shows_copy (roomy : f.Roomy home P d) (shows_ : f.numbering.Shows P d c)
    (admits : f.Admits P) (mem : P r) (mem' : P source)
    (other : ¬ SamePlace source.address r.address) {bytes : Bytes}
    (content : c.bytes? source.address = some bytes) (copied : (f.copy source r d).1 = .ok ()) :
    f.numbering.Shows P (f.copy source r d).2 (c.replace r.address bytes) := by
  obtain ⟨n, k, number, unused, puts⟩ := puts_copy roomy.standing other copied
  have held := (shows_.content source mem').trans content
  rw [Numbering.content?, number] at held
  obtain rfl : d.body n = bytes := Option.some.inj held
  exact shows_.replace (admits.isPlaceOf mem) puts unused

section
variable (roomy : f.Roomy home P d) (shows_ : f.numbering.Shows P d c) (admits : f.Admits P)
include roomy shows_ admits

theorem does_read (mem : P r) :
    f.numbering.Does f.backend f.linking P (f.Roomy home P) d c (.read r) := by
  obtain missing | ⟨n, there⟩ := roomy.stat_cases admits mem
  · have granted : f.backend.openReader r d = .ok none := by simp [backend, openReader, missing]
    exact Numbering.does_read roomy shows_ mem f.serves granted
  · have granted : f.backend.openReader r d = .ok (some { body := n }) := by
      simp [backend, openReader, there]
    exact Numbering.does_read roomy shows_ mem f.serves granted

theorem does_write (mem : P r) (parts : List Part) :
    f.numbering.Does f.backend f.linking P (f.Roomy home P) d c (.write r parts) := by
  obtain ⟨d₁, went, roomy₁, alike, found⟩ := roomy.enters admits mem
  obtain ⟨n, d₂, created, roomy₂, puts, takes⟩ := roomy₁.creates admits mem found
  have opened : f.openWriter r d = (.ok { body := n }, d₂) := by
    rw [openWriter, went, created]
  have granted : (f.backend.openWriter r d).1 = .ok { body := n } := congrArg Prod.fst opened
  have after : (f.backend.openWriter r d).2 = d₂ := congrArg Prod.snd opened
  obtain ⟨spares, writing⟩ := f.serves.openWriter roomy.standing.orderly granted
  rw [after] at spares writing
  apply Numbering.Does.of_eq (f.backend.pour { body := n } parts d₂)
  · simp only [Backend.deal, backend, opened, Contents.deal]
  · exact roomy₂.pour _ parts
  · have written := puts.pour rfl f.serves f.rewriting parts spares.sound writing
    exact (shows_.alike alike).put mem (admits.isPlaceOf mem) written takes

theorem does_delete (mem : P r) :
    f.numbering.Does f.backend f.linking P (f.Roomy home P) d c (.delete r) := by
  have file := isFile_of_shows shows_ mem
  obtain missing | ⟨n, there⟩ := roomy.stat_cases admits mem
  · have nothing : d.isFile (f.placeOf r) = false := by simp [Disk.isFile, missing]
    apply Numbering.Does.of_eq d
    · simp [Backend.deal, backend, delete_of_notFound missing, Contents.deal, ← file, nothing]
    · exact roomy
    · exact shows_.remove (admits.isPlaceOf mem) (roomy.standing.renames_of_missing nothing)
        fun _ => rfl
  · obtain ⟨path, found, node, plain⟩ := Disk.stat_eq_file_iff.1 there
    obtain ⟨standing', gone⟩ := standing_removeNode roomy.standing found node plain
    obtain ⟨_, rfl⟩ := roomy.standing.path_eq found plain
    have present : d.isFile (f.placeOf r) = true := by simp [Disk.isFile, there]
    apply Numbering.Does.of_eq (d.removeNode (home ++ r.trail))
    · simp [Backend.deal, backend, delete, Disk.isDirectory, Disk.removeFile, there, found,
        Contents.deal, ← file, present]
    · exact roomy.alters admits mem standing' (Disk.alters_removeNode d _)
    · exact shows_.remove (admits.isPlaceOf mem) gone fun _ => rfl

theorem does_createFile (mem : P r) :
    f.numbering.Does f.backend f.linking P (f.Roomy home P) d c (.createFile r) := by
  obtain ⟨d₁, went, roomy₁, alike, found⟩ := roomy.enters admits mem
  have shows₁ := shows_.alike alike
  have file := isFile_of_shows shows₁ mem
  obtain ⟨n, number, opened⟩ | ⟨empty, opened⟩ := roomy₁.opens admits mem found
  · have there : d₁.isFile (f.placeOf r) = true :=
      Disk.isFile_iff.2 ⟨n, Disk.number?_eq_some_iff.1 number⟩
    have created : f.createFile r d = (.ok (), d₁) := by
      rw [createFile, went, opened]
    apply Numbering.Does.of_eq d₁
    · simp [Backend.deal, backend, created, Contents.deal, Answer.ofOutcome]
    · exact roomy₁
    · simpa [Contents.deal, ← file, there] using shows₁
  · have missing : d₁.isFile (f.placeOf r) = false := by
      simp [Disk.isFile, Disk.stat_of_locate found, empty]
    have created : f.createFile r d = (.ok (), d₁.addFile (home ++ r.trail)) := by
      rw [createFile, went, opened]
    obtain ⟨_, puts⟩ := standing_addFile roomy₁.standing found (admits.plain mem) empty
    have takes : f.numbering.Takes r.address d₁.fresh d₁ :=
      .inr ⟨Disk.number?_eq_none_iff.2 missing, roomy₁.standing.not_used_fresh⟩
    apply Numbering.Does.of_eq (d₁.addFile (home ++ r.trail))
    · simp [Backend.deal, backend, created, Contents.deal, Answer.ofOutcome]
    · exact roomy₁.addFile admits mem found empty
    · simpa [Contents.deal, ← file, missing] using
        shows₁.put mem (admits.isPlaceOf mem) puts takes

theorem does_copy (mem : P r) (mem' : P source) (file : c.isFile source = true) :
    f.numbering.Does f.backend f.linking P (f.Roomy home P) d c (.copy source r) := by
  obtain ⟨bytes, content⟩ := Option.isSome_iff_exists.1 file
  cases same : source.same r with
  | true =>
    have place : (f.placeOf source).same (f.placeOf r) = true :=
      samePlace_iff.1 (samePlace_of_same same)
    apply Numbering.Does.of_eq d
    · simp [Backend.deal, backend, copy, place, Contents.deal, content, Answer.ofOutcome]
    · exact roomy
    · simpa [Contents.deal, content, same] using shows_
  | false =>
    have other := admits.not_samePlace mem' mem same
    obtain ⟨d', copied, roomy'⟩ := roomy.copies admits mem other
      ((isFile_of_shows shows_ mem').trans file)
    have shows' := shows_copy roomy shows_ admits mem mem' other content (congrArg Prod.fst copied)
    rw [copied] at shows'
    apply Numbering.Does.of_eq d'
    · simp [Backend.deal, backend, copied, Contents.deal, content, Answer.ofOutcome]
    · exact roomy'
    · simpa [Contents.deal, content, same] using shows'

theorem does_createAlias (mem : P r) (mem' : P source) :
    f.numbering.Does f.backend f.linking P (f.Roomy home P) d c (.createAlias source r) := by
  have file := isFile_of_shows shows_ mem'
  cases content : c.bytes? source.address with
  | none =>
    have missing : d.isFile (f.placeOf source) = false := by simp [file, Contents.isFile, content]
    apply Numbering.Does.of_eq d
    · simp [Backend.deal, backend, createAlias, Contents.deal, missing, Answer.ofOutcome]
    · exact roomy
    · simpa [Contents.deal, content] using shows_
  | some bytes =>
    have there : d.isFile (f.placeOf source) = true := by simp [file, Contents.isFile, content]
    cases same : source.same r with
    | true =>
      apply Numbering.Does.of_eq d
      · simp [Backend.deal, backend, createAlias, Contents.deal, same, Answer.ofOutcome]
      · exact roomy
      · simpa [Contents.deal, content, same] using shows_
    | false =>
      have other := admits.not_samePlace mem' mem same
      cases linking : f.linking with
      | false =>
        obtain ⟨d', copied, roomy'⟩ := roomy.copies admits mem other there
        have shows' := shows_copy roomy shows_ admits mem mem' other content (congrArg Prod.fst copied)
        rw [copied] at shows'
        apply Numbering.Does.of_eq d'
        · simp [Backend.deal, backend, createAlias, same, there, linking, copied, Contents.deal,
            Answer.ofOutcome]
        · exact roomy'
        · simpa [Contents.deal, content, same] using shows'
      | true =>
        obtain ⟨n, lines, d', linked, roomy', number, renames, bodies⟩ :=
          roomy.links admits mem linking other there
        apply Numbering.Does.of_eq d'
        · simp [Backend.deal, backend, linked, Contents.deal, Answer.ofOutcome]
        · exact roomy'
        · simpa [Contents.deal, content, same] using
            shows_.join mem' (admits.isPlaceOf mem) renames number bodies

end

/-- **Deals on disk.** -/
theorem simulates (admits : f.Admits P) (home : List PathText) :
    f.numbering.Simulates f.backend f.linking P (f.Roomy home P) := by
  intro d c deal roomy shows_ _ mem fair
  cases deal with
  | write r parts => exact does_write roomy shows_ admits (mem r (.head _)) parts
  | read r => exact does_read roomy shows_ admits (mem r (.head _))
  | isFile r =>
    exact Numbering.does_isFile roomy shows_ (mem r (.head _)) (isFile_eq_content? r d)
  | length r =>
    refine Numbering.does_length roomy shows_ (mem r (.head _)) (length_eq_content? ?_)
    obtain missing | ⟨n, there⟩ := roomy.stat_cases admits (mem r (.head _))
    · simp [Disk.isDirectory, missing]
    · simp [Disk.isDirectory, there]
  | delete r => exact does_delete roomy shows_ admits (mem r (.head _))
  | createFile r => exact does_createFile roomy shows_ admits (mem r (.head _))
  | createAlias source target =>
    exact does_createAlias roomy shows_ admits (mem target (.tail _ (.head _)))
      (mem source (.head _))
  | copy source target =>
    exact does_copy roomy shows_ admits (mem target (.tail _ (.head _))) (mem source (.head _))
      fair.2

end Files
end ArtifactCache
