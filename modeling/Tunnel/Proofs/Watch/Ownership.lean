import Tunnel.Proofs.Watch.Run

/-!
# Who owns a consumer

A consumer is known by its handle, its place among all consumers.  The shared
state holds one handle at most.  A stop that empties the watched set takes the
handle out and hands it over to be torn down; a start that finds the stored
consumer finished puts the handle of a new consumer in its place.

Handles are neither lost nor doubled by this: what is stored, what was handed
over and what was replaced are together the handles of all consumers there
ever were, each once (`Run.handles`).  A consumer that was replaced had
finished and never runs again, so that a consumer at work is either stored or
was handed over.
-/

namespace Tunnel

namespace Observer

open Watch

/-- There is a consumer with this handle, and it has a property. -/
def has (observer : Observer) (property : Consumer → Bool) (handle : Nat) :
    Bool :=
  observer.consumers[handle]?.any property

def isRunning (observer : Observer) (handle : Nat) : Bool :=
  observer.has Consumer.isRunning handle

def isReleased (observer : Observer) (handle : Nat) : Bool :=
  observer.has (·.released) handle

/-- What is stored is the handle of a consumer. -/
def StoresKnown (observer : Observer) : Prop :=
  ∀ handle, observer.stored = some handle →
    handle < observer.consumers.length

section Handles

variable {observer : Observer} {property : Consumer → Bool}
  {index handle : Nat}

theorem isSubscribed_of_stored (stored : observer.stored = some handle) :
    observer.isSubscribed = observer.isRunning handle := by
  unfold isSubscribed
  rw [stored]
  rfl

theorem lt_of_has (holds : observer.has property handle = true) :
    handle < observer.consumers.length := by
  obtain ⟨consumer, found, -⟩ := (Option.any_eq_true _ _).1 holds
  exact (List.getElem?_eq_some_iff.1 found).1

theorem has_of_length_le (outside : observer.consumers.length ≤ handle) :
    observer.has property handle = false :=
  Bool.eq_false_iff.2 fun holds => Nat.not_lt_of_le outside (lt_of_has holds)

theorem has_of_getElem? {consumer : Consumer}
    (found : observer.consumers[handle]? = some consumer) :
    observer.has property handle = property consumer := by
  unfold has
  rw [found]
  rfl

theorem has_setConsumer {before after : Consumer}
    (found : observer.consumers[index]? = some before) :
    (observer.setConsumer index after).has property handle =
      if index = handle then property after
      else observer.has property handle := by
  unfold has setConsumer
  split
  · next same =>
      cases same
      rw [List.getElem?_set_self (List.getElem?_eq_some_iff.1 found).1]
      rfl
  · next other => rw [List.getElem?_set_ne other]

/-- A section of one consumer does not bring another one to life. -/
theorem isRunning_setConsumer {before after : Consumer}
    (found : observer.consumers[index]? = some before)
    (busy : before.isRunning = true)
    (running : (observer.setConsumer index after).isRunning handle = true) :
    observer.isRunning handle = true := by
  rw [isRunning, has_setConsumer found] at running
  split at running
  · next same =>
      cases same
      exact (has_of_getElem? found).trans busy
  · exact running

theorem isReleased_setConsumer {before after : Consumer}
    (found : observer.consumers[index]? = some before)
    (kept : after.released = before.released) :
    (observer.setConsumer index after).isReleased handle =
      observer.isReleased handle := by
  rw [isReleased, has_setConsumer found]
  split
  · next same =>
      cases same
      rw [isReleased, has_of_getElem? found]
      exact kept
  · rfl

theorem has_spawn {source : Nat} :
    (observer.spawn source).has property handle =
      if handle = observer.consumers.length then
        property { subscription := { source } }
      else observer.has property handle := by
  unfold has spawn
  dsimp only
  split
  · next last =>
      rw [last, List.getElem?_concat_length]
      rfl
  · next other =>
      rcases Nat.lt_or_gt_of_ne other with inside | outside
      · rw [List.getElem?_append_left inside]
      · rw [List.getElem?_eq_none (Nat.le_of_lt outside),
          List.getElem?_eq_none (by simp; omega)]

theorem has_enlist {interface : InterfaceId} :
    (observer.enlist interface).has property handle =
      observer.has property handle := by
  unfold has
  rw [enlist_consumers]

theorem has_publish {interface : InterfaceId} {status : OperStatus} :
    (observer.publish interface status).has property handle =
      observer.has property handle := by
  unfold has
  rw [publish_consumers]

theorem has_notify {change : InterfaceChange}
    (blind : ∀ consumer, property (consumer.deliver change) =
      property consumer) :
    { observer with
        consumers :=
          observer.consumers.map (Consumer.deliver change) }.has
        property handle =
      observer.has property handle := by
  unfold has
  dsimp only
  rw [List.getElem?_map]
  cases observer.consumers[handle]? with
  | none => rfl
  | some consumer => exact blind consumer

theorem has_withdrawAll :
    observer.withdrawAll.has property handle =
      if observer.stored = some handle then
        observer.has (fun consumer =>
          property { consumer with released := true }) handle
      else observer.has property handle := by
  unfold has withdrawAll release
  cases observer.stored with
  | none => simp
  | some index =>
      simp only [List.getElem?_modify, Option.some.injEq]
      cases observer.consumers[handle]? with
      | none => split <;> rfl
      | some consumer => split <;> rfl

theorem length_withdrawAll :
    observer.withdrawAll.consumers.length = observer.consumers.length := by
  unfold withdrawAll release
  split
  · rfl
  · exact List.length_modify _ _ _

/-- Taking a consumer over does not end it. -/
theorem isRunning_withdrawAll :
    observer.withdrawAll.isRunning handle = observer.isRunning handle := by
  unfold isRunning
  rw [has_withdrawAll]
  split <;> rfl

theorem isReleased_withdrawAll (known : observer.StoresKnown) :
    observer.withdrawAll.isReleased handle = true ↔
      observer.isReleased handle = true ∨
        observer.stored = some handle := by
  unfold isReleased
  rw [has_withdrawAll]
  split
  · next stored =>
      have found := List.getElem?_eq_getElem (known handle stored)
      rw [has_of_getElem? found]
      exact iff_of_true rfl (Or.inr stored)
  · next other => exact (or_iff_left other).symm

end Handles

end Observer

namespace Watch

/-! ## Handles in a history -/

def Action.isStart : Action → Bool
  | .enrol _ _ => true
  | _ => false

def Action.isStop : Action → Bool
  | .withdraw _ => true
  | .withdrawAll => true
  | _ => false

namespace Transition

/-- The handle that a stop takes out in order to tear its consumer down. -/
def handedOver? (transition : Transition) : Option Nat :=
  if transition.action.isStop ∧ transition.after.stored = none then
    transition.before.stored
  else none

/-- The handle in whose place a start puts another one. -/
def replaced? (transition : Transition) : Option Nat :=
  if transition.action.isStart ∧
      transition.after.stored ≠ transition.before.stored then
    transition.before.stored
  else none

section Handles

variable {transition : Transition}

theorem handedOver?_of_kept
    (kept : transition.after.stored = transition.before.stored) :
    transition.handedOver? = none := by
  unfold handedOver?
  split
  · next both => rw [← kept, both.2]
  · rfl

theorem handedOver?_of_not_stop (calm : transition.action.isStop = false) :
    transition.handedOver? = none :=
  if_neg fun both => Bool.noConfusion (calm.symm.trans both.1)

/-- A stop that empties the watched set takes out whatever is stored. -/
theorem handedOver?_of_stop (stop : transition.action.isStop = true)
    (emptied : transition.after = transition.before.withdrawAll) :
    transition.handedOver? = transition.before.stored := by
  unfold handedOver?
  rw [emptied]
  exact if_pos ⟨stop, Observer.release_stored _⟩

theorem replaced?_of_kept
    (kept : transition.after.stored = transition.before.stored) :
    transition.replaced? = none := by
  unfold replaced?
  rw [if_neg fun both => both.2 kept]

theorem replaced?_of_not_start
    (calm : transition.action.isStart = false) :
    transition.replaced? = none :=
  if_neg fun both => Bool.noConfusion (calm.symm.trans both.1)

theorem replaced?_eq_some_iff {handle : Nat} :
    transition.replaced? = some handle ↔
      transition.action.isStart = true ∧
        transition.after.stored ≠ transition.before.stored ∧
        transition.before.stored = some handle := by
  unfold replaced?
  rw [Option.ite_none_right_eq_some, and_assoc]

end Handles

end Transition

/-- All handles that stops took out, in order. -/
def handedOver (history : List Transition) : List Nat :=
  history.filterMap Transition.handedOver?

/-- All handles in whose place starts have put others, in order. -/
def replaced (history : List Transition) : List Nat :=
  history.filterMap Transition.replaced?

section Histories

variable {history : List Transition} {transition : Transition}

theorem filterMap_concat {α β : Type} (choose : α → Option β) (list : List α)
    (last : α) :
    (list ++ [last]).filterMap choose =
      list.filterMap choose ++ (choose last).toList := by
  rw [List.filterMap_append]
  cases chosen : choose last with
  | none => rw [List.filterMap_cons_none chosen]; rfl
  | some value => rw [List.filterMap_cons_some chosen]; rfl

theorem handedOver_concat :
    handedOver (history ++ [transition]) =
      handedOver history ++ transition.handedOver?.toList :=
  filterMap_concat _ history transition

theorem replaced_concat :
    replaced (history ++ [transition]) =
      replaced history ++ transition.replaced?.toList :=
  filterMap_concat _ history transition

end Histories

/-! ## Effects -/

section Effects

variable {before after : Observer} {action : Action} {handle : Nat}

/-- A consumer is stored exactly while something is watched. -/
theorem Effect.stored_iff (effect : Effect before action after)
    (held : before.stored.isSome = true ↔ before.watched ≠ []) :
    after.stored.isSome = true ↔ after.watched ≠ [] := by
  cases effect with
  | joined subscribed _ =>
      refine iff_of_true ?_ before.enlist_watched_ne_nil
      obtain ⟨index, -, stored, -⟩ := before.isSubscribed_iff.1 subscribed
      rw [Observer.enlist_stored, stored]
      rfl
  | spawned _ =>
      refine iff_of_true ?_ (before.spawn _).enlist_watched_ne_nil
      rw [Observer.enlist_stored]
      rfl
  | withdrawn member others =>
      exact iff_of_true (held.2 (List.ne_nil_of_mem member)) others
  | emptied _ => simp [Observer.withdrawAll]
  | withdrawAll => simp [Observer.withdrawAll]
  | startPublishes _ =>
      rw [Observer.publish_stored, Observer.publish_watched]
      exact held
  | publish _ _ =>
      rw [Observer.publish_stored, Observer.publish_watched]
      exact held
  | _ => exact held

/-- A consumer that has finished does not run again. -/
theorem Effect.isRunning_before (effect : Effect before action after)
    (bound : handle < before.consumers.length)
    (running : after.isRunning handle = true) :
    before.isRunning handle = true := by
  unfold Observer.isRunning at running
  cases effect with
  | joined _ _ =>
      rw [Observer.has_enlist] at running
      exact running
  | spawned _ =>
      rw [Observer.has_enlist, Observer.has_spawn,
        if_neg (Nat.ne_of_lt bound)] at running
      exact running
  | startPublishes _ =>
      rw [Observer.has_publish] at running
      exact running
  | emptied _ => exact Observer.isRunning_withdrawAll ▸ running
  | withdrawAll => exact Observer.isRunning_withdrawAll ▸ running
  | notify =>
      rw [Observer.has_notify fun consumer => ?_] at running
      · exact running
      · unfold Consumer.isRunning
        rw [Consumer.deliver_phase]
  | progress _ found busy _ =>
      exact Observer.isRunning_setConsumer found busy running
  | publish found stands =>
      rw [Observer.has_publish] at running
      have busy := isRunning_of_phase stands Phase.noConfusion
      exact Observer.isRunning_setConsumer found busy running
  | _ => exact running

theorem isReleased_of_kept
    (calm : (Transition.mk before action after).handedOver? = none)
    (released : after.isReleased handle = before.isReleased handle) :
    after.isReleased handle = true ↔
      before.isReleased handle = true ∨
        (Transition.mk before action after).handedOver? = some handle := by
  rw [released, calm]
  simp

theorem isReleased_of_stop (stop : action.isStop = true)
    (known : before.StoresKnown) :
    before.withdrawAll.isReleased handle = true ↔
      before.isReleased handle = true ∨
        (Transition.mk before action before.withdrawAll).handedOver? =
          some handle := by
  rw [Transition.handedOver?_of_stop stop rfl]
  exact Observer.isReleased_withdrawAll known

/-- A consumer may be ended once it was handed over, and not before. -/
theorem Effect.isReleased_iff (effect : Effect before action after)
    (known : before.StoresKnown) :
    after.isReleased handle = true ↔
      before.isReleased handle = true ∨
        (Transition.mk before action after).handedOver? = some handle := by
  cases effect with
  | joined _ _ =>
      exact isReleased_of_kept (Transition.handedOver?_of_not_stop rfl)
        Observer.has_enlist
  | spawned _ =>
      refine isReleased_of_kept (Transition.handedOver?_of_not_stop rfl)
        (Observer.has_enlist.trans (Observer.has_spawn.trans ?_))
      split
      · next last =>
          exact (Observer.has_of_length_le (Nat.le_of_eq last.symm)).symm
      · rfl
  | startPublishes _ =>
      exact isReleased_of_kept (Transition.handedOver?_of_not_stop rfl)
        Observer.has_publish
  | emptied _ => exact isReleased_of_stop rfl known
  | withdrawAll => exact isReleased_of_stop rfl known
  | notify =>
      exact isReleased_of_kept (Transition.handedOver?_of_not_stop rfl)
        (Observer.has_notify (Consumer.deliver_released _))
  | progress _ found _ kept =>
      exact isReleased_of_kept (Transition.handedOver?_of_kept rfl)
        (Observer.isReleased_setConsumer found kept)
  | publish found _ =>
      exact isReleased_of_kept (Transition.handedOver?_of_not_stop rfl)
        (Observer.has_publish.trans
          (Observer.isReleased_setConsumer found rfl))
  | _ => exact isReleased_of_kept (Transition.handedOver?_of_kept rfl) rfl

/-- Only a consumer that has finished is replaced. -/
theorem Effect.isRunning_of_replaced (effect : Effect before action after)
    (replaced :
      (Transition.mk before action after).replaced? = some handle) :
    before.isRunning handle = false := by
  obtain ⟨start, moved, stored⟩ :=
    Transition.replaced?_eq_some_iff.1 replaced
  cases effect with
  | joined _ _ => exact absurd (before.enlist_stored _) moved
  | spawned unsubscribed =>
      rw [← Observer.isSubscribed_of_stored stored]
      exact unsubscribed
  | emptied _ => cases start
  | withdrawAll => cases start
  | startPublishes _ => cases start
  | publish _ _ => cases start
  | _ => exact absurd rfl moved

/-- Handles are moved, and what comes in are those of new consumers. -/
def Transition.Accounts (transition : Transition) : Prop :=
  ∃ spawned,
    List.range transition.after.consumers.length =
      List.range transition.before.consumers.length ++ spawned ∧
    (transition.after.stored.toList ++
      (transition.handedOver?.toList ++ transition.replaced?.toList)).Perm
      (transition.before.stored.toList ++ spawned)

theorem accounts_of_kept (stored : after.stored = before.stored)
    (length : after.consumers.length = before.consumers.length) :
    (Transition.mk before action after).Accounts := by
  refine ⟨[], by rw [length, List.append_nil], ?_⟩
  rw [Transition.handedOver?_of_kept stored,
    Transition.replaced?_of_kept stored, stored]
  exact List.Perm.refl _

theorem accounts_of_stop (stop : action.isStop = true)
    (start : action.isStart = false) :
    (Transition.mk before action before.withdrawAll).Accounts := by
  refine ⟨[], by rw [Observer.length_withdrawAll, List.append_nil], ?_⟩
  rw [Transition.handedOver?_of_stop stop rfl,
    Transition.replaced?_of_not_start start]
  have emptied : before.withdrawAll.stored = none := Observer.release_stored _
  dsimp only
  rw [emptied]
  exact List.Perm.refl _

/-- The handle of a new consumer takes the place of the stored one. -/
theorem accounts_of_spawn {interface : InterfaceId} {source : Nat}
    (known : before.StoresKnown) :
    (Transition.mk before (.enrol interface (.ok source))
      ((before.spawn source).enlist interface)).Accounts := by
  have stored : ((before.spawn source).enlist interface).stored =
      some before.consumers.length := Observer.enlist_stored _ _
  have fresh : some before.consumers.length ≠ before.stored :=
    fun same => Nat.lt_irrefl _ (known _ same.symm)
  refine ⟨[before.consumers.length], ?_, ?_⟩
  · dsimp only
    rw [Observer.enlist_consumers, Observer.spawn, List.length_append]
    exact List.range_succ
  · rw [Transition.handedOver?_of_not_stop rfl]
    unfold Transition.replaced?
    dsimp only
    rw [stored, if_pos ⟨rfl, fresh⟩]
    exact List.perm_append_comm

theorem Effect.accounts (effect : Effect before action after)
    (known : before.StoresKnown) :
    (Transition.mk before action after).Accounts := by
  cases effect with
  | joined _ _ =>
      exact accounts_of_kept (before.enlist_stored _)
        (congrArg List.length (before.enlist_consumers _))
  | spawned _ => exact accounts_of_spawn known
  | emptied _ => exact accounts_of_stop rfl rfl
  | withdrawAll => exact accounts_of_stop rfl rfl
  | startPublishes _ =>
      exact accounts_of_kept (Observer.publish_stored _ _ _)
        (congrArg List.length (Observer.publish_consumers _ _ _))
  | notify => exact accounts_of_kept rfl (List.length_map _)
  | progress _ _ _ _ => exact accounts_of_kept rfl List.length_set
  | publish _ _ =>
      refine accounts_of_kept (Observer.publish_stored _ _ _) ?_
      rw [Observer.publish_consumers]
      exact List.length_set
  | _ => exact accounts_of_kept rfl rfl

end Effects

/-! ## Runs -/

/-- Of handles that are all known the stored one is known. -/
theorem storesKnown_of_perm {observer : Observer} {others : List Nat}
    (all : (observer.stored.toList ++ others).Perm
      (List.range observer.consumers.length)) : observer.StoresKnown := by
  intro handle stored
  refine List.mem_range.1 (all.mem_iff.1 (List.mem_append_left _ ?_))
  rw [stored]
  exact List.mem_singleton.2 rfl

namespace Run

variable {history : List Transition} {observer : Observer}

/--
What is stored, what was handed over and what was replaced are together the
handles of all consumers, each once.
-/
theorem handles (run : Run history observer) :
    (observer.stored.toList ++
      (handedOver history ++ replaced history)).Perm
      (List.range observer.consumers.length) := by
  induction run with
  | created => exact List.Perm.refl _
  | step run happens ih =>
      obtain ⟨spawned, range, moved⟩ :=
        (effect_of_step happens).accounts (storesKnown_of_perm ih)
      refine List.perm_iff_count.2 fun handle => ?_
      have old := ih.count_eq handle
      have new := moved.count_eq handle
      rw [range, handedOver_concat, replaced_concat]
      simp only [List.count_append] at old new ⊢
      omega

theorem storesKnown (run : Run history observer) : observer.StoresKnown :=
  storesKnown_of_perm run.handles

theorem lt_of_replaced (run : Run history observer) {handle : Nat}
    (gone : handle ∈ replaced history) :
    handle < observer.consumers.length := by
  refine List.mem_range.1 (run.handles.mem_iff.1 ?_)
  exact List.mem_append_right _ (List.mem_append_right _ gone)

theorem stored_iff (run : Run history observer) :
    observer.stored.isSome = true ↔ observer.watched ≠ [] :=
  run.invariant (by simp) fun held effect => effect.stored_iff held

theorem isReleased_iff (run : Run history observer) {handle : Nat} :
    observer.isReleased handle = true ↔ handle ∈ handedOver history := by
  induction run with
  | created => exact iff_of_false Bool.false_ne_true List.not_mem_nil
  | step run happens ih =>
      rw [(effect_of_step happens).isReleased_iff run.storesKnown, ih,
        handedOver_concat, List.mem_append, Option.mem_toList]

/-- A consumer that was replaced had finished, and for good. -/
theorem isRunning_of_replaced (run : Run history observer) {handle : Nat}
    (gone : handle ∈ replaced history) :
    observer.isRunning handle = false := by
  induction run with
  | created => cases gone
  | @step history before action after run happens ih =>
      have effect := effect_of_step happens
      have finished : before.isRunning handle = false ∧
          handle < before.consumers.length := by
        rw [replaced_concat, List.mem_append, Option.mem_toList] at gone
        rcases gone with old | new
        · exact ⟨ih old, run.lt_of_replaced old⟩
        · obtain ⟨-, -, stored⟩ := Transition.replaced?_eq_some_iff.1 new
          exact ⟨effect.isRunning_of_replaced new,
            run.storesKnown handle stored⟩
      rw [Bool.eq_false_iff]
      intro running
      have earlier := effect.isRunning_before finished.2 running
      rw [finished.1] at earlier
      cases earlier

/-- A consumer at work is stored, or it was handed over. -/
theorem owned (run : Run history observer) {handle : Nat}
    (running : observer.isRunning handle = true) :
    observer.stored = some handle ∨ handle ∈ handedOver history := by
  have known := run.handles.mem_iff.2
    (List.mem_range.2 (Observer.lt_of_has running))
  rw [List.mem_append, List.mem_append, Option.mem_toList] at known
  rcases known with stored | handed | gone
  · exact Or.inl stored
  · exact Or.inr handed
  · rw [run.isRunning_of_replaced gone] at running
    cases running

end Run

/-! ## Starts -/

section Starts

variable {observer : Observer} {interface : InterfaceId} {handle : Nat}

/-- While the stored consumer is at work, the monitor is not asked. -/
theorem enrolWith_of_isRunning {m : Type → Type} [Monad m]
    (monitor : Monitor m) (stored : observer.stored = some handle)
    (running : observer.isRunning handle = true) :
    observer.enrolWith monitor interface =
      pure (observer.enrol interface (.error .unavailable)) := by
  rw [← Observer.isSubscribed_of_stored stored] at running
  exact if_pos running

/-- While the stored consumer is at work, no other one is made. -/
theorem step_enrol_of_isRunning (stored : observer.stored = some handle)
    (running : observer.isRunning handle = true) :
    ∃ next, next.stored = observer.stored ∧
      next.consumers = observer.consumers ∧
      ∀ answer, observer.step (.enrol interface answer) = some next := by
  rw [← Observer.isSubscribed_of_stored stored] at running
  by_cases member : interface ∈ observer.watched
  · exact ⟨observer, rfl, rfl,
      fun _ => Observer.step_enrol_settled running member⟩
  · exact ⟨observer.enlist interface, observer.enlist_stored interface,
      observer.enlist_consumers interface,
      fun _ => Observer.step_enrol_joined running member⟩

/-- A start that needs a subscription and cannot have one changes nothing. -/
theorem step_enrol_of_error
    (idle : ∀ handle, observer.stored = some handle →
      observer.isRunning handle = false) (error : Error) :
    observer.step (.enrol interface (.error error)) = some observer := by
  refine Observer.step_enrol_refused ?_ error
  cases stored : observer.stored with
  | none =>
      unfold Observer.isSubscribed
      rw [stored]
  | some handle =>
      rw [Observer.isSubscribed_of_stored stored]
      exact idle handle stored

end Starts

/--
After every run a consumer is stored exactly while something is watched; each
consumer there ever was is stored, or was handed over once, or was replaced
once after it had finished; it may be ended exactly if it was handed over, and
while it is at work it is stored or was handed over, so that of the consumers
at work all but one were handed over.  A start makes no subscription while the
stored consumer is at work, and one that cannot have a subscription leaves
everything as it was.
-/
theorem consumer_ownership {history : List Transition} {observer : Observer}
    (run : Run history observer) :
    (observer.stored.isSome = true ↔ observer.watched ≠ []) ∧
    (observer.stored.toList ++ (handedOver history ++ replaced history)).Perm
      (List.range observer.consumers.length) ∧
    (∀ transition ∈ history, ∀ handle,
      transition.replaced? = some handle →
        transition.before.isRunning handle = false) ∧
    (∀ handle, observer.isReleased handle = true ↔
      handle ∈ handedOver history) ∧
    (∀ handle, observer.isRunning handle = true →
      observer.stored = some handle ∨ handle ∈ handedOver history) ∧
    (∀ handle other, observer.isRunning handle = true →
      observer.isRunning other = true →
      handle ∉ handedOver history → other ∉ handedOver history →
        handle = other) ∧
    (∀ handle, observer.stored = some handle →
      observer.isRunning handle = true → ∀ interface,
        (∀ (m : Type → Type) [Monad m] (monitor : Monitor m),
          observer.enrolWith monitor interface =
            pure (observer.enrol interface (.error .unavailable))) ∧
        ∃ next, next.stored = observer.stored ∧
          next.consumers = observer.consumers ∧
          ∀ answer,
            observer.step (.enrol interface answer) = some next) ∧
    ((∀ handle, observer.stored = some handle →
        observer.isRunning handle = false) →
      ∀ interface error,
        observer.step (.enrol interface (.error error)) =
          some observer) := by
  refine ⟨run.stored_iff, run.handles, ?_, fun _ => run.isReleased_iff,
    fun _ => run.owned, ?_, ?_, ?_⟩
  · intro transition member handle replaced
    exact (run.effect_of_mem member).isRunning_of_replaced replaced
  · intro handle other running otherRunning kept otherKept
    have stored := (run.owned running).resolve_right kept
    have otherStored := (run.owned otherRunning).resolve_right otherKept
    exact Option.some.inj (stored.symm.trans otherStored)
  · intro handle stored running interface
    exact ⟨fun _ _ monitor => enrolWith_of_isRunning monitor stored running,
      step_enrol_of_isRunning stored running⟩
  · intro idle interface error
    exact step_enrol_of_error idle error

/--
A consumer loses its source and ends, a start puts another one in its place,
and a stop hands that one over; it is still at work when a start makes a third.
-/
def succession : List Action :=
  [.enrol ⟨1⟩ (.ok 0), .endSource 0, .noticeEnd 0, .leave 0,
    .resubscribe 0 (.error .unavailable), .enrol ⟨1⟩ (.error .unavailable),
    .enrol ⟨1⟩ (.ok 1), .withdrawAll, .enrol ⟨2⟩ (.ok 2)]

theorem consumer_ownership_succession :
    (performed {} succession).stored = some 2 ∧
      (performed {} succession).watched ≠ [] ∧
      handedOver (perform {} succession) = [1] ∧
      replaced (perform {} succession) = [0] ∧
      List.Perm [2, 1, 0] (List.range 3) ∧
      (performed {} succession).isReleased 1 = true ∧
      (performed {} succession).isRunning 1 = true ∧
      (performed {} succession).isRunning 2 = true ∧
      (performed {} succession).isRunning 0 = false := by
  have run := Run.created.perform succession
  rw [List.nil_append] at run
  obtain ⟨watched, handles, -, released, -⟩ := consumer_ownership run
  have handed : 1 ∈ handedOver (perform {} succession) :=
    List.mem_singleton.2 rfl
  exact ⟨rfl, watched.1 rfl, rfl, rfl, handles, (released 1).2 handed,
    rfl, rfl, rfl⟩

end Watch

end Tunnel
