import Tunnel.Proofs.Adapter.Readings
import Tunnel.Proofs.Outcome

/-!
# What is done with an adapter

An adapter that was created or opened is worked with by operations in a row,
whatever its driver answers.  Each of them is a deed: an operation with its
answer, the calls of the driver that it took, and the adapter that it left.
`Effect` lists what a deed can be, so what is said of a whole course of deeds
is shown for one deed at a time.

An adapter that goes away is closed, as if `close` were its last operation.
-/

namespace Tunnel

namespace Driver.Event

/-- The handle that a call uses, if it neither gives nor closes it. -/
def user? : Driver.Event → Option Handle
  | stateSet handle _ _ | stateRead handle _ | configured handle _ _
  | configurationRead handle _ _ | identified handle _
  | loggingSet handle _ _ => some handle
  | created _ _ _ | opened _ _ | closed _ => none

/-- The image that a driver takes for a handle. -/
def taken? (handle : Handle) : Driver.Event → Option (List UInt8)
  | configured other image (.ok ()) =>
      if other = handle then some image else none
  | _ => none

end Driver.Event

namespace Adapter

/-! ## Applying a document -/

/-- A document is fit to be applied if it can be read and compiled. -/
theorem prepare_eq_ok_iff {document : String} {config : Config}
    {image : List UInt8} :
    prepare document = .ok (config, image) ↔
      Config.parse document = .ok config ∧
        Image.compile config = .ok image := by
  unfold prepare
  rw [bind_eq_ok_iff]
  constructor
  · rintro ⟨parsed, read, rest⟩
    obtain ⟨compiled, written, same⟩ := bind_eq_ok_iff.1 rest
    cases same
    exact ⟨read, written⟩
  · rintro ⟨read, written⟩
    exact ⟨config, read, bind_eq_ok_iff.2 ⟨image, written, rfl⟩⟩

/-- An application went well, or it is only that the adapter is not up. -/
def HasTaken (result : Except Error Config) : Prop :=
  (∃ config, result = .ok config) ∨
    ∃ error, result = .error (.notBroughtUp error)

section Apply

variable {World : Type} {driver : Driver (StateM World)} {adapter : Adapter}
  {handle : Handle} {document : String} {config : Config}
  {image : List UInt8}

/-- A document that is not fit never reaches the driver. -/
theorem run_apply_unready {error : Error}
    (has : adapter.handle = some handle)
    (unready : prepare document = .error error) (world : World) :
    (adapter.apply driver document).run world =
      ((.error error, { adapter with applied := none }), world) := by
  unfold apply
  rw [has]
  dsimp only
  rw [unready]
  rfl

/-- The driver does not take the image. -/
theorem run_apply_declined {error : Error} {world : World}
    (has : adapter.handle = some handle)
    (ready : prepare document = .ok (config, image))
    (declines : ((driver.setConfiguration handle image).run world).1 =
      .error error) :
    (adapter.apply driver document).run world =
      ((.error (error.withContext s!"configuring adapter {adapter.name}"),
          { adapter with applied := none }),
        ((driver.setConfiguration handle image).run world).2) := by
  unfold apply
  rw [has]
  dsimp only
  rw [ready]
  dsimp only
  rw [run_bind, declines]
  rfl

/-- The driver takes the image and is told to bring the adapter up. -/
theorem run_apply_taken {world : World}
    (has : adapter.handle = some handle)
    (ready : prepare document = .ok (config, image))
    (takes : ((driver.setConfiguration handle image).run world).1 = .ok ()) :
    let raised := (driver.setState handle .up).run
      ((driver.setConfiguration handle image).run world).2
    (adapter.apply driver document).run world =
      (((raised.1.mapError .notBroughtUp).map fun _ => config,
          { adapter with applied := some config }), raised.2) := by
  unfold apply
  rw [has]
  dsimp only
  rw [ready]
  dsimp only
  rw [run_bind, takes]
  dsimp only
  rw [run_bind]
  cases ((driver.setState handle .up).run
    ((driver.setConfiguration handle image).run world).2).1 <;> rfl

end Apply

/-! ## Operations -/

/-- How an adapter comes to be. -/
inductive Origin
  | created (name tunnelType : String)
  | opened (name : String)

/-- What can be done with an adapter. -/
inductive Operation
  | setState (state : AdapterState)
  | state
  | setConfiguration (image : List UInt8)
  | configuration
  | identifier
  | setLogging (state : LogState)
  | apply (document : String)
  | close

/-- What an operation answers. -/
inductive Answer
  | done (result : Except Error Unit)
  | state (result : Except Error AdapterState)
  | configuration (result : Except Error Image.Decoded)
  | identifier (result : Except Error InterfaceId)
  | applied (result : Except Error Config)
  | closed

/-- The document that an operation applies. -/
def Operation.document? : Operation → Option String
  | .apply document => some document
  | _ => none

/-- What an operation answers on an adapter that has been closed. -/
def Operation.refusal : Operation → Answer
  | .setState _ | .setConfiguration _ | .setLogging _ =>
      .done (.error .invalidHandle)
  | .state => .state (.error .invalidHandle)
  | .configuration => .configuration (.error .invalidHandle)
  | .identifier => .identifier (.error .invalidHandle)
  | .apply _ => .applied (.error .invalidHandle)
  | .close => .closed

section Perform

variable {m : Type → Type} [Monad m]

/-- Ask a driver for an adapter. -/
def Origin.acquire (driver : Driver m) : Origin → m (Except Error Adapter)
  | .created name tunnelType => Adapter.create driver name tunnelType
  | .opened name => Adapter.openExisting driver name

/-- The call that a driver gets for this. -/
def Origin.call (answer : Except Error Handle) : Origin → Driver.Event
  | .created name tunnelType => .created name tunnelType answer
  | .opened name => .opened name answer

/-- One operation, with the adapter that it leaves. -/
def perform (driver : Driver m) (adapter : Adapter) :
    Operation → m (Answer × Adapter)
  | .setState state => do
      let result ← adapter.setState driver state
      return (.done result, adapter)
  | .state => do
      let result ← Adapter.state driver adapter
      return (.state result, adapter)
  | .setConfiguration image => do
      let result ← adapter.setConfiguration driver image
      return (.done result, adapter)
  | .configuration => do
      let result ← adapter.configuration driver
      return (.configuration result, adapter)
  | .identifier => do
      let result ← adapter.identifier driver
      return (.identifier result, adapter)
  | .setLogging state => do
      let result ← adapter.setLogging driver state
      return (.done result, adapter)
  | .apply document => do
      let (result, adapter) ← adapter.apply driver document
      return (.applied result, adapter)
  | .close => do
      let adapter ← adapter.close driver
      return (.closed, adapter)

end Perform

/-! ## Deeds -/

/-- An operation with what came of it. -/
structure Deed where
  operation : Operation
  answer : Answer
  /-- The calls of the driver that it took, in order. -/
  calls : List Driver.Event
  /-- The adapter afterwards. -/
  left : Adapter

section Working

variable {World : Type}

/-- Perform an operation, and listen to what the driver is asked. -/
def deed (driver : Driver (StateM World)) (adapter : Adapter)
    (operation : Operation) : StateM World Deed := fun world =>
  let ((answer, left), after) :=
    (adapter.perform (driver.recorded id) operation).run
      { world, journal := [] }
  ({ operation, answer, calls := after.journal, left }, after.world)

/-- Operations in a row, with the adapter that they leave. -/
def work (driver : Driver (StateM World)) (adapter : Adapter) :
    List Operation → StateM World (List Deed × Adapter)
  | [] => return ([], adapter)
  | operation :: rest => do
      let deed ← adapter.deed driver operation
      let (later, left) ← deed.left.work driver rest
      return (deed :: later, left)

/-- What a deed on an adapter can be. -/
inductive Effect (before : Adapter) : Deed → Prop
  /-- The adapter has been closed. -/
  | refused {operation} (shut : before.handle = none) :
      Effect before ⟨operation, operation.refusal, [], before⟩
  /-- The driver is asked something that leaves the adapter as it is. -/
  | asked {operation answer calls handle}
      (has : before.handle = some handle)
      (stays : operation ≠ .close) (plain : operation.document? = none)
      (uses : ∀ call ∈ calls, call.user? = some handle)
      (takes : ∀ call ∈ calls, ∀ image, call.taken? handle = some image →
        operation = .setConfiguration image) :
      Effect before ⟨operation, answer, calls, before⟩
  /-- A document is not fit to be handed to the driver. -/
  | unready {document error handle} (has : before.handle = some handle)
      (unready : prepare document = .error error) :
      Effect before
        ⟨.apply document, .applied (.error error), [],
          { before with applied := none }⟩
  /-- The driver does not take the image of a document. -/
  | declined {document config image error handle}
      (has : before.handle = some handle)
      (ready : prepare document = .ok (config, image)) :
      Effect before
        ⟨.apply document,
          .applied (.error
            (error.withContext s!"configuring adapter {before.name}")),
          [.configured handle image (.error error)],
          { before with applied := none }⟩
  /-- The driver takes the image, whether or not the adapter comes up. -/
  | taken {document config image raised handle}
      (has : before.handle = some handle)
      (ready : prepare document = .ok (config, image)) :
      Effect before
        ⟨.apply document,
          .applied ((raised.mapError .notBroughtUp).map fun _ => config),
          [.configured handle image (.ok ()), .stateSet handle .up raised],
          { before with applied := some config }⟩
  | released {handle} (has : before.handle = some handle) :
      Effect before
        ⟨.close, .closed, [.closed handle],
          { before with handle := none, applied := none }⟩

section Asking

variable {driver : Driver (StateM World)} {adapter : Adapter}
  {handle : Handle}

/-- An operation that asks for its answer and keeps the adapter. -/
theorem yields_asked {α : Type} {operation : Operation}
    {action :
      Handle → StateM (Recorded World Driver.Event) (Except Error α)}
    (wrap : Except Error α → Answer)
    (refuses : operation.refusal = wrap (.error .invalidHandle))
    (stays : operation ≠ .close) (plain : operation.document? = none)
    (asks : ∀ handle, Yields (action handle) fun _ calls =>
      ∀ call ∈ calls, call.user? = some handle ∧
        ∀ image, call.taken? handle = some image →
          operation = .setConfiguration image) :
    Yields (do
        let result ← adapter.withHandle action
        return (wrap result, adapter))
      fun result calls =>
        Effect adapter ⟨operation, result.1, calls, result.2⟩ := by
  unfold withHandle
  split
  · next handle has =>
      refine (asks handle).bind fun result calls uses => yields_pure ?_
      rw [List.append_nil]
      exact .asked has stays plain (fun call member => (uses call member).1)
        fun call member => (uses call member).2
  · next shut =>
      refine yields_pure ?_
      show Effect adapter ⟨operation, wrap (.error .invalidHandle), [], _⟩
      rw [← refuses]
      exact .refused shut

/-- An operation that is one call of the driver. -/
theorem yields_single {α : Type} {operation : Operation}
    {event : α → Driver.Event} {asked : StateM World α}
    (uses : ∀ answer, (event answer).user? = some handle)
    (takes : ∀ answer image, (event answer).taken? handle = some image →
      operation = .setConfiguration image) :
    Yields (record event asked) fun _ calls =>
      ∀ call ∈ calls, call.user? = some handle ∧
        ∀ image, call.taken? handle = some image →
          operation = .setConfiguration image := by
  refine (yields_record event asked).mono ?_
  rintro answer _ rfl call member
  obtain rfl := List.mem_singleton.1 member
  exact ⟨uses answer, takes answer⟩

/-- Applying a document. -/
theorem yields_apply (document : String) :
    Yields (adapter.apply (driver.recorded id) document)
      fun result calls => Effect adapter
        ⟨.apply document, .applied result.1, calls, result.2⟩ := by
  unfold apply
  split
  · next shut => exact yields_pure (.refused shut)
  · next handle has =>
      split
      · next error unready => exact yields_pure (.unready has unready)
      · next config image ready =>
          refine (yields_record _
            (driver.setConfiguration handle image)).bind ?_
          rintro taken _ rfl
          cases taken with
          | error error => exact yields_pure (.declined has ready)
          | ok _ =>
              refine (yields_record _ (driver.setState handle .up)).bind ?_
              rintro raised _ rfl
              cases raised with
              | error error =>
                  exact yields_pure
                    (@Effect.taken adapter document config image
                      (.error error) handle has ready)
              | ok _ =>
                  exact yields_pure
                    (@Effect.taken adapter document config image
                      (.ok ()) handle has ready)

/-- Closing an adapter. -/
theorem yields_close :
    Yields (adapter.close (driver.recorded id))
      fun left calls => Effect adapter ⟨.close, .closed, calls, left⟩ := by
  unfold close
  split
  · next shut => exact yields_pure (.refused shut)
  · next handle has =>
      refine (yields_record (fun _ => Driver.Event.closed handle)
        (driver.close handle)).bind ?_
      rintro _ _ rfl
      exact yields_pure (.released has)

/-- Every operation has one of the listed effects. -/
theorem yields_perform (driver : Driver (StateM World))
    (adapter : Adapter) (operation : Operation) :
    Yields (adapter.perform (driver.recorded id) operation)
      fun result calls =>
        Effect adapter ⟨operation, result.1, calls, result.2⟩ := by
  cases operation with
  | setState state =>
      exact yields_asked .done rfl Operation.noConfusion rfl fun handle =>
        yields_single (fun _ => rfl) fun _ _ => nofun
  | state =>
      exact yields_asked .state rfl Operation.noConfusion rfl fun handle =>
        yields_single (fun _ => rfl) fun _ _ => nofun
  | setConfiguration image =>
      refine yields_asked .done rfl Operation.noConfusion rfl fun handle =>
        yields_single (fun _ => rfl) ?_
      rintro (error | _) other took
      · cases took
      · simp only [Driver.Event.taken?, if_pos] at took
        cases took
        rfl
  | configuration =>
      refine yields_asked .configuration rfl Operation.noConfusion rfl
        fun handle => (yields_readBack driver handle readLimit _).mono ?_
      rintro result _ ⟨readings, rfl, -, -⟩ call member
      obtain ⟨reading, -, rfl⟩ := List.mem_map.1 member
      exact ⟨rfl, fun _ => nofun⟩
  | identifier =>
      exact yields_asked .identifier rfl Operation.noConfusion rfl
        fun handle => yields_single (fun _ => rfl) fun _ _ => nofun
  | setLogging state =>
      exact yields_asked .done rfl Operation.noConfusion rfl fun handle =>
        yields_single (fun _ => rfl) fun _ _ => nofun
  | apply document =>
      refine (yields_apply document).bind ?_
      rintro ⟨result, left⟩ calls effect
      refine yields_pure ?_
      rw [List.append_nil]
      exact effect
  | close =>
      refine yields_close.bind fun left calls effect => yields_pure ?_
      rw [List.append_nil]
      exact effect

/-- An adapter comes with the handle that the driver gave for it. -/
theorem yields_adopt {event : Except Error Handle → Driver.Event}
    {asked : StateM World (Except Error Handle)} (name context : String) :
    Yields (do
        match ← record event asked with
        | .ok handle => return Except.ok (ofHandle name handle)
        | .error error => return .error (error.withContext context))
      fun found calls => ∀ adapter, found = .ok adapter → ∃ handle,
        adapter.handle = some handle ∧ adapter.applied = none ∧
          calls = [event (.ok handle)] := by
  refine (yields_record event asked).bind ?_
  rintro (error | handle) _ rfl
  · exact yields_pure nofun
  · refine yields_pure ?_
    rintro adapter ⟨⟩
    exact ⟨handle, rfl, rfl, rfl⟩

theorem yields_acquire (driver : Driver (StateM World)) (origin : Origin) :
    Yields (origin.acquire (driver.recorded id)) fun found calls =>
      ∀ adapter, found = .ok adapter → ∃ handle,
        adapter.handle = some handle ∧ adapter.applied = none ∧
          calls = [origin.call (.ok handle)] := by
  cases origin with
  | created name tunnelType =>
      exact yields_adopt name s!"creating adapter {name}"
  | opened name => exact yields_adopt name s!"opening adapter {name}"

end Asking

theorem effect_deed (driver : Driver (StateM World)) (adapter : Adapter)
    (operation : Operation) (world : World) :
    Effect adapter ((adapter.deed driver operation).run world).1 := by
  obtain ⟨calls, grown, effect⟩ :=
    yields_perform driver adapter operation { world, journal := [] }
  rw [List.nil_append] at grown
  rw [← grown] at effect
  exact effect

/-! ## Courses -/

/-- Deeds in a row from an adapter on, and the adapter that they leave. -/
inductive Course (start : Adapter) : List Deed → Adapter → Prop
  | begun : Course start [] start
  | step {deeds before deed} (course : Course start deeds before)
      (effect : Effect before deed) :
      Course start (deeds ++ [deed]) deed.left

theorem Course.effect_of_mem {start adapter : Adapter}
    {deeds : List Deed} {deed : Deed} (course : Course start deeds adapter)
    (member : deed ∈ deeds) : ∃ before, Effect before deed := by
  induction course with
  | begun => cases member
  | step _ effect ih =>
      rcases List.mem_append.1 member with earlier | last
      · exact ih earlier
      · exact ⟨_, List.mem_singleton.1 last ▸ effect⟩

/-- Operations that are performed in a row continue a course. -/
theorem Course.work {start adapter : Adapter} {deeds : List Deed}
    (course : Course start deeds adapter)
    (driver : Driver (StateM World)) (operations : List Operation)
    (world : World) :
    let result := ((adapter.work driver operations).run world).1
    Course start (deeds ++ result.1) result.2 ∧
      result.1.map Deed.operation = operations := by
  induction operations generalizing deeds adapter world with
  | nil =>
      rw [Adapter.work]
      refine ⟨?_, rfl⟩
      show Course start (deeds ++ []) adapter
      rw [List.append_nil]
      exact course
  | cons operation rest ih =>
      rw [Adapter.work, run_bind]
      have effect := effect_deed driver adapter operation world
      have same : ((adapter.deed driver operation).run world).1.operation =
          operation := rfl
      generalize (adapter.deed driver operation).run world = done at effect same ⊢
      obtain ⟨onward, others⟩ := ih (course.step effect) done.2
      rw [List.append_assoc] at onward
      refine ⟨onward, ?_⟩
      show done.1.operation :: _ = _
      rw [same]
      exact congrArg _ others

/-- What is done with an adapter from the start is a course. -/
theorem course_work (driver : Driver (StateM World)) (adapter : Adapter)
    (operations : List Operation) (world : World) :
    let result := ((adapter.work driver operations).run world).1
    Course adapter result.1 result.2 ∧
      result.1.map Deed.operation = operations :=
  Course.begun.work driver operations world

end Working

/-! ## A driver for trying -/

/-- A driver of one adapter, which keeps the image that it took last. -/
def keeper : Driver (StateM (Option (List UInt8))) where
  create _ _ := return .ok ⟨1⟩
  openExisting _ := return .ok ⟨1⟩
  close _ := return ()
  setState _ _ := return .ok ()
  state _ := return .ok .up
  setConfiguration _ image := fun _ => (.ok (), some image)
  configuration _ buffer := fun kept =>
    match kept with
    | none => ((.error (.ofErrno Errno.noEntry), []), kept)
    | some image =>
        if buffer.length < image.length then
          ((.error (.bufferTooSmall image.length buffer.length), []), kept)
        else ((.ok image.length, image), kept)
  identifier _ := return .ok ⟨1⟩
  setLogging _ _ := return .ok ()

end Adapter

end Tunnel
