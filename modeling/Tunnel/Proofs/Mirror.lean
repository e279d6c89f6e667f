import Tunnel.Proofs.Network.Removal

/-!
# Operations that mirror each other

Two callers work with the same tables in states of their own: one keeps a
journal of all its calls, the other has a console beside the tables.  An
operation mirrors another one if it gives the same answer and goes on alike as
far as an image of its state shows (`Mirrors`).  Operations in a row mirror
operations in a row, so passes over tables that mirror each other do
(`RouteTable.Mirrors.removeAllAddresses`, `RouteTable.Mirrors.removeAllRoutes`).
-/

namespace Tunnel

section Mirrors

variable {Near Far α β : Type} {image : Near → Far}

/-- Seen through an image of its states, an operation does what another does. -/
def Mirrors (image : Near → Far) (near : StateM Near α)
    (far : StateM Far α) : Prop :=
  ∀ state, far.run (image state) =
    ((near.run state).1, image (near.run state).2)

theorem mirrors_pure (value : α) :
    Mirrors image (pure value) (pure value) :=
  fun _ => rfl

theorem Mirrors.bind {near : StateM Near α} {far : StateM Far α}
    {next : α → StateM Near β} {later : α → StateM Far β}
    (first : Mirrors image near far)
    (follows : ∀ value, Mirrors image (next value) (later value)) :
    Mirrors image (near >>= next) (far >>= later) := by
  intro state
  rw [run_bind, run_bind, first state]
  exact follows _ _

/-- What mirrors nothing at all may be done before anything else. -/
theorem Mirrors.after {quiet : StateM Near Unit} {near : StateM Near α}
    {far : StateM Far α} (silent : Mirrors image quiet (pure ()))
    (follows : Mirrors image near far) :
    Mirrors image (quiet >>= fun _ => near) far :=
  silent.bind fun _ => follows

/-- Work with the first part of a state and leave the second alone. -/
def onFirst {Other : Type} (operation : StateM Near α) :
    StateM (Near × Other) α :=
  modifyGet fun both =>
    let (answer, near) := operation.run both.1
    (answer, (near, both.2))

theorem mirrors_onFirst {Other : Type} (operation : StateM Near α) :
    Mirrors Prod.fst (onFirst operation : StateM (Near × Other) α)
      operation :=
  fun _ => rfl

end Mirrors

/-! ## Journals -/

section Journals

variable {World Event Other α : Type} (note : Event → Other)
  (front : List Other)

/-- A journal below another one, with its events written differently. -/
def Recorded.below (recorded : Recorded World Event) :
    Recorded World Other where
  world := recorded.world
  journal := front ++ recorded.journal.map note

theorem mirrors_record (event : α → Event) (operation : StateM World α) :
    Mirrors (Recorded.below note front) (record event operation)
      (record (fun answer => note (event answer)) operation) := by
  intro before
  have grown : front ++ before.journal.map note ++
      [note (event (operation.run before.world).1)] =
      front ++ (before.journal ++
        [event (operation.run before.world).1]).map note := by
    rw [List.map_append, List.append_assoc]
    rfl
  exact congrArg (fun journal =>
    ((operation.run before.world).1,
      (⟨(operation.run before.world).2, journal⟩ : Recorded World Other)))
    grown

end Journals

/-! ## Removal passes -/

namespace Network

variable {Near Far Entry : Type} {image : Near → Far} (kind : EntryKind)
  (isOwned : Entry → Bool) (network : Entry → Prefix)
  {list : StateM Near (Except Error (List Entry))}
  {otherList : StateM Far (Except Error (List Entry))}
  {delete : Entry → StateM Near (Except Error Unit)}
  {otherDelete : Entry → StateM Far (Except Error Unit)}

theorem mirrors_removeEach
    (deletes : ∀ entry, Mirrors image (delete entry) (otherDelete entry))
    (entries : List Entry) :
    Mirrors image (removeEach kind network delete entries)
      (removeEach kind network otherDelete entries) := by
  induction entries with
  | nil => exact mirrors_pure _
  | cons entry rest ih =>
      refine (deletes entry).bind fun answer => ih.bind fun pass => ?_
      cases answer with
      | ok _ => exact mirrors_pure _
      | error error =>
          dsimp only
          split <;> exact mirrors_pure _

theorem mirrors_removeOwned (lists : Mirrors image list otherList)
    (deletes : ∀ entry, Mirrors image (delete entry) (otherDelete entry)) :
    Mirrors image (removeOwned kind isOwned network list delete)
      (removeOwned kind isOwned network otherList otherDelete) := by
  refine lists.bind fun listed => ?_
  cases listed with
  | error error => exact mirrors_pure _
  | ok entries =>
      exact (mirrors_removeEach kind network deletes _).bind
        fun pass => mirrors_pure _

end Network

/-- The removals of two tables mirror each other. -/
structure RouteTable.Mirrors {Near Far : Type} (image : Near → Far)
    (near : RouteTable (StateM Near)) (far : RouteTable (StateM Far)) :
    Prop where
  addresses : Tunnel.Mirrors image near.addresses far.addresses
  deleteAddress : ∀ entry,
    Tunnel.Mirrors image (near.deleteAddress entry) (far.deleteAddress entry)
  routes : Tunnel.Mirrors image near.routes far.routes
  deleteRoute : ∀ entry,
    Tunnel.Mirrors image (near.deleteRoute entry) (far.deleteRoute entry)

namespace RouteTable.Mirrors

section Passes

variable {Near Far : Type} {image : Near → Far}
  {near : RouteTable (StateM Near)} {far : RouteTable (StateM Far)}
  (mirrors : RouteTable.Mirrors image near far) (interface : InterfaceId)

include mirrors

theorem removeAllAddresses :
    Tunnel.Mirrors image (Network.removeAllAddresses near interface)
      (Network.removeAllAddresses far interface) :=
  Network.mirrors_removeOwned _ _ _ mirrors.addresses mirrors.deleteAddress

theorem removeAllRoutes :
    Tunnel.Mirrors image (Network.removeAllRoutes near interface)
      (Network.removeAllRoutes far interface) :=
  Network.mirrors_removeOwned _ _ _ mirrors.routes mirrors.deleteRoute

end Passes

/-- Tables that keep a journal beside other things. -/
theorem lift {Near Other : Type} (table : RouteTable (StateM Near)) :
    RouteTable.Mirrors Prod.fst
      (table.lift (onFirst : {α : Type} → StateM Near α →
        StateM (Near × Other) α)) table where
  addresses := mirrors_onFirst _
  deleteAddress _ := mirrors_onFirst _
  routes := mirrors_onFirst _
  deleteRoute _ := mirrors_onFirst _

/-- Tables that write the same events down in another journal. -/
theorem recorded {World Event : Type} (note : RouteTable.Event → Event)
    (front : List Event) (table : RouteTable (StateM World)) :
    RouteTable.Mirrors (Recorded.below note front) (table.recorded id)
      (table.recorded note) where
  addresses := mirrors_record note front _ _
  deleteAddress _ := mirrors_record note front _ _
  routes := mirrors_record note front _ _
  deleteRoute _ := mirrors_record note front _ _

end RouteTable.Mirrors

end Tunnel
