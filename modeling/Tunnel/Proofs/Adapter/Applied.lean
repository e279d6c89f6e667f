import Tunnel.Proofs.Adapter.Course

/-!
# What an adapter remembers

An adapter remembers a configuration exactly while it is open and the driver
has taken the image of the document that was applied last (`Reflects`).  So
unless images are handed over past the adapter, what it remembers is what the
image that the driver took last was compiled from.
-/

namespace Tunnel.Adapter

/-- The last deed that applied a document. -/
def lastApplication? (deeds : List Deed) : Option Deed :=
  (deeds.filter (·.operation.document?.isSome)).getLast?

/-- The last image that a driver took for a handle. -/
def lastTaken? (handle : Handle) (calls : List Driver.Event) :
    Option (List UInt8) :=
  (calls.filterMap (·.taken? handle)).getLast?

/-- A document was applied, and the driver took its image for the handle. -/
def Deed.Installs (handle : Handle) (config : Config) (deed : Deed) : Prop :=
  ∃ document image, deed.operation = .apply document ∧
    Config.parse document = .ok config ∧
    Image.compile config = .ok image ∧
    .configured handle image (.ok ()) ∈ deed.calls

section Last

variable {handle : Handle} {deeds : List Deed} {deed : Deed}
  {calls later : List Driver.Event}

theorem lastApplication?_concat :
    lastApplication? (deeds ++ [deed]) =
      if deed.operation.document?.isSome then some deed
      else lastApplication? deeds := by
  unfold lastApplication?
  rw [List.filter_append, List.filter_singleton]
  cases deed.operation.document?.isSome with
  | false => exact congrArg _ (List.append_nil _)
  | true => exact List.getLast?_concat

theorem mem_of_lastApplication? (last : lastApplication? deeds = some deed) :
    deed ∈ deeds :=
  List.mem_of_mem_filter (List.mem_of_getLast? last)

theorem lastTaken?_append_of_none
    (nothing : ∀ call ∈ later, call.taken? handle = none) :
    lastTaken? handle (calls ++ later) = lastTaken? handle calls := by
  unfold lastTaken?
  rw [List.filterMap_append, List.filterMap_eq_nil_iff.2 nothing,
    List.append_nil]

theorem lastTaken?_append_taken (image : List UInt8)
    (raised : Except Error Unit) :
    lastTaken? handle (calls ++
        [.configured handle image (.ok ()), .stateSet handle .up raised]) =
      some image := by
  unfold lastTaken?
  rw [List.filterMap_append]
  simp [Driver.Event.taken?]

end Last

/--
After some deeds an adapter is closed or has the handle still, and remembers
a configuration exactly if it is open and the last application has installed
it; then its image is the one that the driver took last.
-/
structure Reflects (handle : Handle) (deeds : List Deed) (adapter : Adapter) :
    Prop where
  held : adapter.handle = none ∨ adapter.handle = some handle
  shut : adapter.handle = none ↔ ∃ deed ∈ deeds, deed.operation = .close
  applied : ∀ config, adapter.applied = some config ↔
    adapter.handle ≠ none ∧ ∃ deed, lastApplication? deeds = some deed ∧
      deed.Installs handle config
  image : ∀ config, adapter.applied = some config → ∃ image,
    Image.compile config = .ok image ∧
      lastTaken? handle (deeds.flatMap Deed.calls) = some image

section Reflects

variable {handle : Handle} {deeds : List Deed} {deed : Deed}
  {start before adapter : Adapter}

theorem reflects_nil (has : start.handle = some handle)
    (fresh : start.applied = none) : Reflects handle [] start where
  held := Or.inr has
  shut := by simp [has]
  applied config := by simp [fresh, lastApplication?]
  image config remembered := by
    rw [fresh] at remembered
    cases remembered

/-- A deed on a closed adapter, or one that closes it. -/
theorem Reflects.closed (shut : deed.left.handle = none)
    (forgets : deed.left.applied = none)
    (closes : ∃ other ∈ deeds ++ [deed], other.operation = .close) :
    Reflects handle (deeds ++ [deed]) deed.left where
  held := Or.inl shut
  shut := iff_of_true shut closes
  applied config := by simp [shut, forgets]
  image config remembered := by
    rw [forgets] at remembered
    cases remembered

theorem exists_close_concat (stays : deed.operation ≠ .close) :
    (∃ other ∈ deeds ++ [deed], other.operation = .close) ↔
      ∃ other ∈ deeds, other.operation = .close := by
  simp [or_and_right, exists_or, stays]

/-- A deed that applies no document to an open adapter and keeps it. -/
theorem Reflects.kept (reflects : Reflects handle deeds before)
    (stays : deed.operation ≠ .close)
    (plain : deed.operation.document? = none)
    (nothing : ∀ call ∈ deed.calls, call.taken? handle = none)
    (same : deed.left = before) :
    Reflects handle (deeds ++ [deed]) deed.left where
  held := same ▸ reflects.held
  shut := by rw [exists_close_concat stays, same, reflects.shut]
  applied config := by
    rw [same, lastApplication?_concat, plain]
    exact reflects.applied config
  image config remembered := by
    rw [List.flatMap_append, List.flatMap_singleton,
      lastTaken?_append_of_none nothing]
    exact reflects.image config (same ▸ remembered)

/-- An application to an open adapter that installs nothing. -/
theorem Reflects.forgotten (reflects : Reflects handle deeds before)
    (has : deed.left.handle = some handle)
    (same : before.handle = some handle)
    (forgets : deed.left.applied = none) {document : String}
    (applies : deed.operation = .apply document)
    (nothing : ∀ image, .configured handle image (.ok ()) ∉ deed.calls) :
    Reflects handle (deeds ++ [deed]) deed.left where
  held := Or.inr has
  shut := by
    rw [exists_close_concat (applies ▸ Operation.noConfusion), has, ← same,
      reflects.shut]
  applied config := by
    rw [forgets, lastApplication?_concat, applies]
    refine iff_of_false nofun ?_
    rintro ⟨-, _, last, _, image, -, -, -, taken⟩
    cases last
    exact nothing image taken
  image config remembered := by
    rw [forgets] at remembered
    cases remembered

/-- An application to an open adapter whose image the driver takes. -/
theorem Reflects.installed (reflects : Reflects handle deeds before)
    (same : before.handle = some handle) {document : String}
    {config : Config} {image : List UInt8} {raised : Except Error Unit}
    (ready : prepare document = .ok (config, image))
    (has : deed.left.handle = some handle)
    (remembers : deed.left.applied = some config)
    (applies : deed.operation = .apply document)
    (calls : deed.calls =
      [.configured handle image (.ok ()), .stateSet handle .up raised]) :
    Reflects handle (deeds ++ [deed]) deed.left where
  held := Or.inr has
  shut := by
    rw [exists_close_concat (applies ▸ Operation.noConfusion), has, ← same,
      reflects.shut]
  applied other := by
    obtain ⟨read, compiled⟩ := prepare_eq_ok_iff.1 ready
    rw [remembers, has, lastApplication?_concat, applies]
    constructor
    · rintro ⟨⟩
      exact ⟨nofun, deed, rfl, document, image, applies, read, compiled,
        calls ▸ List.mem_cons_self⟩
    · rintro ⟨-, _, last, _, _, again, found, -, -⟩
      cases last
      cases applies.symm.trans again
      rw [read] at found
      cases found
      rfl
  image other remembered := by
    cases remembers.symm.trans remembered
    obtain ⟨-, compiled⟩ := prepare_eq_ok_iff.1 ready
    refine ⟨image, compiled, ?_⟩
    rw [List.flatMap_append, List.flatMap_singleton, calls]
    exact lastTaken?_append_taken image raised

/-- One more deed, unless it hands an image over past the adapter. -/
theorem Reflects.step (reflects : Reflects handle deeds before)
    (effect : Effect before deed)
    (direct : ∀ image, deed.operation ≠ .setConfiguration image) :
    Reflects handle (deeds ++ [deed]) deed.left := by
  have own : ∀ {other}, before.handle = some other → other = handle := by
    intro other has
    rcases reflects.held with shut | held
    · cases shut.symm.trans has
    · cases held.symm.trans has
      rfl
  cases effect with
  | refused shut =>
      obtain ⟨other, member, closes⟩ := reflects.shut.1 shut
      have forgets : before.applied = none :=
        Option.eq_none_iff_forall_not_mem.2 fun config remembered =>
          ((reflects.applied config).1 remembered).1 shut
      exact .closed shut forgets
        ⟨other, List.mem_append_left _ member, closes⟩
  | asked has stays plain uses takes =>
      cases own has
      refine reflects.kept stays plain (fun call member => ?_) rfl
      cases taken : call.taken? handle with
      | none => rfl
      | some image => exact absurd (takes call member image taken) (direct image)
  | unready has unready =>
      cases own has
      exact reflects.forgotten has has rfl rfl nofun
  | declined has ready =>
      cases own has
      refine reflects.forgotten has has rfl rfl fun image taken => ?_
      cases List.mem_singleton.1 taken
  | taken has ready =>
      cases own has
      exact reflects.installed has ready has rfl rfl rfl
  | released has =>
      exact .closed rfl rfl
        ⟨_, List.mem_append_right _ List.mem_cons_self, rfl⟩

/-- So do all deeds of a course. -/
theorem Course.reflects (course : Course start deeds adapter)
    (has : start.handle = some handle) (fresh : start.applied = none)
    (direct : ∀ deed ∈ deeds, ∀ image,
      deed.operation ≠ .setConfiguration image) :
    Reflects handle deeds adapter := by
  induction course with
  | begun => exact reflects_nil has fresh
  | step _ effect ih =>
      obtain ⟨earlier, last⟩ := List.forall_mem_append.1 direct
      exact (ih earlier).step effect (List.forall_mem_singleton.1 last)

/-- What was installed was applied well, but for bringing the adapter up. -/
theorem Effect.answer_of_installs (effect : Effect before deed)
    {config : Config} (installs : deed.Installs handle config) :
    ∃ document result, deed.operation = .apply document ∧
      Config.parse document = .ok config ∧
      deed.answer = .applied result ∧
      (result = .ok config ∨ ∃ error, result = .error (.notBroughtUp error)) := by
  obtain ⟨document, image, applies, read, -, taken⟩ := installs
  cases effect with
  | refused | unready => cases taken
  | asked _ _ plain =>
      cases applies
      cases plain
  | declined => cases List.mem_singleton.1 taken
  | @taken _ _ _ raised _ _ ready =>
      cases applies
      obtain ⟨found, -⟩ := prepare_eq_ok_iff.1 ready
      rw [read] at found
      cases found
      refine ⟨document, _, rfl, read, rfl, ?_⟩
      cases raised with
      | error error => exact Or.inr ⟨error, rfl⟩
      | ok _ => exact Or.inl rfl
  | released => cases applies

end Reflects

/--
Whatever is done with an adapter that was created or opened, unless images are
handed over past it, and whatever the driver answers: what the adapter
remembers was read from the document that was applied last, that application
failed at most in bringing the adapter up, and the image that the driver took
last for the handle was compiled from it.  Nothing is remembered before an
application of this kind, after one that failed otherwise, and once the
adapter is closed; in all other cases something is.
-/
theorem applied_reflects {World : Type} (driver : Driver (StateM World))
    (origin : Origin) (start : World) (operations : List Operation)
    (direct : ∀ image, .setConfiguration image ∉ operations)
    {adapter : Adapter}
    (found : ((origin.acquire (driver.recorded id)).run
      { world := start, journal := [] }).1 = .ok adapter) :
    let acquired := ((origin.acquire (driver.recorded id)).run
      { world := start, journal := [] }).2
    let result := ((adapter.work driver operations).run acquired.world).1
    let deeds := result.1
    let left := result.2
    deeds.map Deed.operation = operations ∧
      ∃ handle, acquired.journal = [origin.call (.ok handle)] ∧
        (∀ config, left.applied = some config →
          (∃ image, Image.compile config = .ok image ∧
            lastTaken? handle (deeds.flatMap Deed.calls) = some image) ∧
          ∃ deed document answer, lastApplication? deeds = some deed ∧
            deed.operation = .apply document ∧
            Config.parse document = .ok config ∧
            deed.answer = .applied answer ∧ HasTaken answer) ∧
        ((∀ deed ∈ deeds, ∀ answer, deed.answer = .applied answer →
          ¬HasTaken answer) → left.applied = none) ∧
        (∀ deed answer, lastApplication? deeds = some deed →
          deed.answer = .applied answer → ¬HasTaken answer →
          left.applied = none) ∧
        (.close ∈ operations → left.applied = none) ∧
        (∀ config, .close ∉ operations →
          (∃ deed, lastApplication? deeds = some deed ∧
            deed.Installs handle config) →
          left.applied = some config) := by
  intro acquired result deeds left
  obtain ⟨calls, grown, given⟩ :=
    yields_acquire driver origin { world := start, journal := [] }
  obtain ⟨handle, has, fresh, rfl⟩ := given adapter found
  obtain ⟨course, all⟩ := course_work driver adapter operations acquired.world
  have past : ∀ deed ∈ deeds, ∀ image,
      deed.operation ≠ .setConfiguration image := by
    intro deed member image same
    have performed : deed.operation ∈ deeds.map Deed.operation :=
      List.mem_map_of_mem member
    rw [all, same] at performed
    exact direct image performed
  have reflects : Reflects handle deeds left :=
    course.reflects has fresh past
  have shut : left.handle = none ↔ .close ∈ operations := by
    rw [reflects.shut, ← all, List.mem_map]
  have known : ∀ config, left.applied = some config →
      ∃ deed document answer, lastApplication? deeds = some deed ∧
        deed.operation = .apply document ∧
        Config.parse document = .ok config ∧
        deed.answer = .applied answer ∧ HasTaken answer := by
    intro config remembered
    obtain ⟨-, deed, last, installs⟩ :=
      (reflects.applied config).1 remembered
    obtain ⟨before, effect⟩ :=
      course.effect_of_mem (mem_of_lastApplication? last)
    obtain ⟨document, answer, applies, read, answers, ends⟩ :=
      effect.answer_of_installs installs
    exact ⟨deed, document, answer, last, applies, read, answers,
      ends.imp_left fun same => ⟨config, same⟩⟩
  refine ⟨all, handle, grown,
    fun config remembered => ⟨reflects.image config remembered,
      known config remembered⟩,
    fun never => ?_, fun deed answer last answers failed => ?_,
    fun closes => ?_, fun config stays installed => ?_⟩
  · refine Option.eq_none_iff_forall_ne_some.2 fun config remembered => ?_
    obtain ⟨deed, _, answer, last, -, -, answers, taken⟩ :=
      known config remembered
    exact never deed (mem_of_lastApplication? last) answer answers taken
  · refine Option.eq_none_iff_forall_ne_some.2 fun config remembered => ?_
    obtain ⟨other, _, _, same, -, -, again, taken⟩ := known config remembered
    cases last.symm.trans same
    cases answers.symm.trans again
    exact failed taken
  · refine Option.eq_none_iff_forall_ne_some.2 fun config remembered => ?_
    exact ((reflects.applied config).1 remembered).1 (shut.2 closes)
  · exact (reflects.applied config).2 ⟨mt shut.1 stays, installed⟩

/-- An adapter to which a document was applied, and that was looked at then. -/
theorem applied_reflects_keeper :
    let acquired := ((Origin.created "wg0" "WireGuard").acquire
      (keeper.recorded id)).run { world := none, journal := [] }
    let result := (((ofHandle "wg0" ⟨1⟩).work keeper
      [.apply "", .state]).run none).1
    (∀ image, Operation.setConfiguration image ∉ [.apply "", .state]) ∧
      acquired.1 = .ok (ofHandle "wg0" ⟨1⟩) ∧
      result.2.applied = some {} ∧
      ∃ image, Image.compile {} = .ok image ∧
        lastTaken? ⟨1⟩ (result.1.flatMap Deed.calls) = some image := by
  intro acquired result
  have direct : ∀ image,
      Operation.setConfiguration image ∉ [.apply "", .state] := by
    simp
  have found : acquired.1 = .ok (ofHandle "wg0" ⟨1⟩) := rfl
  have remembered : result.2.applied = some {} := rfl
  obtain ⟨-, handle, given, agrees, -⟩ :=
    applied_reflects keeper (.created "wg0" "WireGuard") none
      [.apply "", .state] direct found
  obtain rfl : (⟨1⟩ : Handle) = handle := by cases given; rfl
  exact ⟨direct, found, remembered, (agrees {} remembered).1⟩

end Tunnel.Adapter
