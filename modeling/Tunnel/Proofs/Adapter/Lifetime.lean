import Tunnel.Proofs.Adapter.Course

/-!
# An adapter is closed once

The handle of an adapter is used until the adapter is closed for the first
time, at the latest when it goes away.  Then the driver is told to close it,
and that is the last call that the driver gets: whatever is done with the
adapter afterwards is refused without a call and leaves the adapter as it is.
-/

namespace Tunnel.Adapter

/--
The deeds of a whole life: those that use the handle, the one that closes it,
and those that come to nothing afterwards.
-/
structure IsLifetime (handle : Handle) (working : List Deed) (release : Deed)
    (resting : List Deed) : Prop where
  stays : ∀ deed ∈ working, deed.operation ≠ .close
  uses : ∀ deed ∈ working, ∀ call ∈ deed.calls, call.user? = some handle
  closes : release.operation = .close ∧ release.calls = [.closed handle]
  rests : ∀ deed ∈ resting, deed.calls = [] ∧
    deed.answer = deed.operation.refusal ∧ deed.left = release.left

section Lifetime

variable {handle : Handle} {start before adapter : Adapter}
  {deeds working resting : List Deed} {deed release : Deed}

/-- A closed adapter comes to nothing and stays closed. -/
theorem Effect.idle (effect : Effect before deed)
    (shut : before.handle = none) :
    deed.calls = [] ∧ deed.answer = deed.operation.refusal ∧
      deed.left = before := by
  cases effect with
  | refused _ => exact ⟨rfl, rfl, rfl⟩
  | asked has | unready has | declined has | taken has | released has =>
      rw [shut] at has
      cases has

/-- Nothing at all is done with a closed adapter. -/
theorem perform_of_closed {World : Type} (shut : adapter.handle = none)
    (driver : Driver (StateM World)) (operation : Operation) :
    adapter.perform driver operation =
      pure (operation.refusal, adapter) := by
  cases operation with
  | apply document =>
      unfold perform apply
      rw [shut]
      rfl
  | close =>
      unfold perform close
      rw [shut]
      rfl
  | _ =>
      simp only [perform, setState, Adapter.state, setConfiguration,
        configuration, identifier, setLogging, withHandle, shut]
      rfl

/-- What does not close an adapter uses its handle and keeps it. -/
theorem Effect.using (effect : Effect before deed)
    (has : before.handle = some handle) (stays : deed.operation ≠ .close) :
    deed.left.handle = some handle ∧
      ∀ call ∈ deed.calls, call.user? = some handle := by
  cases effect with
  | refused shut =>
      rw [shut] at has
      cases has
  | asked own _ _ uses =>
      cases own.symm.trans has
      exact ⟨has, uses⟩
  | unready _ _ => exact ⟨has, nofun⟩
  | declined own _ =>
      cases own.symm.trans has
      exact ⟨has, fun call member => List.mem_singleton.1 member ▸ rfl⟩
  | taken own _ =>
      cases own.symm.trans has
      refine ⟨has, fun call member => ?_⟩
      rcases List.mem_cons.1 member with rfl | member
      · rfl
      · rw [List.mem_singleton.1 member]
        rfl
  | released _ => exact absurd rfl stays

/-- What closes an adapter is one call. -/
theorem Effect.closing (effect : Effect before deed)
    (has : before.handle = some handle) (closes : deed.operation = .close) :
    deed.calls = [.closed handle] ∧ deed.left.handle = none := by
  cases effect with
  | refused shut =>
      rw [shut] at has
      cases has
  | asked _ stays => exact absurd closes stays
  | unready | declined | taken => cases closes
  | released own =>
      cases own.symm.trans has
      exact ⟨rfl, rfl⟩

/-- Either the handle has been used only, or it has been closed once. -/
theorem Course.used_or_closed (course : Course start deeds adapter)
    (has : start.handle = some handle) :
    (adapter.handle = some handle ∧
      (∀ deed ∈ deeds, deed.operation ≠ .close) ∧
      ∀ deed ∈ deeds, ∀ call ∈ deed.calls, call.user? = some handle) ∨
    ∃ working release resting, deeds = working ++ release :: resting ∧
      IsLifetime handle working release resting ∧
      adapter = release.left ∧ release.left.handle = none := by
  induction course with
  | begun =>
      exact Or.inl ⟨has, List.forall_mem_nil _, List.forall_mem_nil _⟩
  | @step deeds before deed _ effect ih =>
      rcases ih with ⟨own, stays, uses⟩ |
          ⟨working, release, resting, rfl, life, rfl, shut⟩
      · by_cases closes : deed.operation = .close
        · obtain ⟨calls, shut⟩ := effect.closing own closes
          exact Or.inr ⟨deeds, deed, [], rfl,
            ⟨stays, uses, ⟨closes, calls⟩, List.forall_mem_nil _⟩, rfl,
              shut⟩
        · obtain ⟨kept, used⟩ := effect.using own closes
          refine Or.inl ⟨kept, ?_, ?_⟩
          · exact List.forall_mem_append.2
              ⟨stays, List.forall_mem_singleton.2 closes⟩
          · exact List.forall_mem_append.2
              ⟨uses, List.forall_mem_singleton.2 used⟩
      · obtain ⟨silent, answer, same⟩ := effect.idle shut
        refine Or.inr ⟨working, release, resting ++ [deed], ?_,
          ⟨life.stays, life.uses, life.closes, ?_⟩, same, shut⟩
        · rw [List.append_assoc, List.cons_append]
        · exact List.forall_mem_append.2 ⟨life.rests,
            List.forall_mem_singleton.2 ⟨silent, answer, same⟩⟩

/-- All calls of a life: uses of the handle, and then that it is closed. -/
theorem IsLifetime.calls
    (life : IsLifetime handle working release resting) :
    (working ++ release :: resting).flatMap Deed.calls =
      working.flatMap Deed.calls ++ [.closed handle] := by
  have silent : resting.flatMap Deed.calls = [] :=
    List.flatMap_eq_nil_iff.2 fun deed member => (life.rests deed member).1
  rw [List.flatMap_append, List.flatMap_cons, life.closes.2, silent]
  rfl

/-- A document that cannot be read takes no call. -/
theorem Effect.silent_of_unread (effect : Effect before deed)
    {document : String} {error : Error}
    (applies : deed.operation = .apply document)
    (unread : Config.parse document = .error error) : deed.calls = [] := by
  have unready : prepare document = .error error := by
    unfold prepare
    rw [unread]
    rfl
  cases effect with
  | refused | unready => rfl
  | asked _ _ plain =>
      cases applies
      cases plain
  | declined _ ready | taken _ ready =>
      cases applies
      rw [unready] at ready
      cases ready
  | released => cases applies

end Lifetime

/--
Whatever is done with an adapter that was created or opened until it goes
away, and whatever the driver answers: the driver is told once to close the
handle, by the first `close` or in the end, and gets no call after that.  All
that is done with a closed adapter is refused and changes nothing.  A document
that cannot be read never takes a call.
-/
theorem closed_once {World : Type} (driver : Driver (StateM World))
    (origin : Origin) (start : World) (operations : List Operation)
    {adapter : Adapter}
    (found : ((origin.acquire (driver.recorded id)).run
      { world := start, journal := [] }).1 = .ok adapter) :
    let acquired := ((origin.acquire (driver.recorded id)).run
      { world := start, journal := [] }).2
    let life := ((adapter.work driver (operations ++ [.close])).run
      acquired.world).1.1
    life.map Deed.operation = operations ++ [.close] ∧
      (∃ handle working release resting,
        acquired.journal = [origin.call (.ok handle)] ∧
        life = working ++ release :: resting ∧
        IsLifetime handle working release resting ∧
        life.flatMap Deed.calls =
          working.flatMap Deed.calls ++ [.closed handle] ∧
        ∀ operation, release.left.perform driver operation =
          pure (operation.refusal, release.left)) ∧
      ∀ deed ∈ life, ∀ document error, deed.operation = .apply document →
        Config.parse document = .error error → deed.calls = [] := by
  intro acquired life
  obtain ⟨calls, grown, given⟩ :=
    yields_acquire driver origin { world := start, journal := [] }
  obtain ⟨handle, has, -, rfl⟩ := given adapter found
  obtain ⟨course, all⟩ :=
    course_work driver adapter (operations ++ [.close]) acquired.world
  refine ⟨all, ?_, fun deed member document error applies unread => ?_⟩
  · rcases course.used_or_closed has with ⟨-, stays, -⟩ |
        ⟨working, release, resting, whole, lifetime, -, shut⟩
    · -- The last deed of a life closes the adapter.
      have last : Operation.close ∈ life.map Deed.operation :=
        all ▸ List.mem_append_right operations List.mem_cons_self
      obtain ⟨deed, member, closes⟩ := List.mem_map.1 last
      exact absurd closes (stays deed member)
    · exact ⟨handle, working, release, resting, grown, whole, lifetime,
        (congrArg _ whole).trans lifetime.calls,
        perform_of_closed shut driver⟩
  · obtain ⟨before, effect⟩ := course.effect_of_mem member
    exact effect.silent_of_unread applies unread

/-- An adapter that is closed, asked for something, and closed again. -/
theorem closed_once_keeper :
    let acquired := ((Origin.created "wg0" "WireGuard").acquire
      (keeper.recorded id)).run { world := none, journal := [] }
    let life := (((ofHandle "wg0" ⟨1⟩).work keeper
      [.apply "", .close, .state, .close]).run none).1.1
    acquired.1 = .ok (ofHandle "wg0" ⟨1⟩) ∧
      ∃ working release resting, life = working ++ release :: resting ∧
        IsLifetime ⟨1⟩ working release resting ∧
        life.flatMap Deed.calls =
          working.flatMap Deed.calls ++ [.closed ⟨1⟩] := by
  intro acquired life
  have found : acquired.1 = .ok (ofHandle "wg0" ⟨1⟩) := rfl
  obtain ⟨-, ⟨handle, working, release, resting, given, whole, lifetime,
    calls, -⟩, -⟩ :=
    closed_once keeper (.created "wg0" "WireGuard") none
      [.apply "", .close, .state] found
  obtain rfl : (⟨1⟩ : Handle) = handle := by cases given; rfl
  exact ⟨found, working, release, resting, whole, lifetime, calls⟩

end Tunnel.Adapter
