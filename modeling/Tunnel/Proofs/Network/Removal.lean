import Mathlib.Data.Set.Defs
import Tunnel.Proofs.Network.Account

/-!
# What removal passes do

A removal pass asks a table for its listing once.  Then it asks to delete
every listed entry that it owns, once for each time that the entry is listed
and in the order of the listing, whatever the answers are
(`yields_removeAllAddresses`, `yields_removeAllRoutes`).  A listing that fails
owns nothing.  So a pass over a table that behaves like a set leaves exactly
the entries that it does not own (`IsStore.removeOwned`).
-/

namespace Tunnel.Network

/-- The entries that a pass has to delete when its listing is answered. -/
def owned {Entry : Type} (isOwned : Entry → Bool) :
    Except Error (List Entry) → List Entry
  | .ok entries => entries.filter isOwned
  | .error _ => []

section Removal

variable {World Event Entry : Type} (kind : EntryKind)
  {isOwned : Entry → Bool} (network : Entry → Prefix)
  {list : StateM (Recorded World Event) (Except Error (List Entry))}
  {delete : Entry → StateM (Recorded World Event) (Except Error Unit)}
  {listing : Except Error (List Entry) → Event}
  {deletion : Entry → Except Error Unit → Event}

/-- Every entry is asked for once, in order. -/
theorem yields_removeEach
    (asks : ∀ entry, Yields (delete entry) fun answer events =>
      events = [deletion entry answer])
    (entries : List Entry) :
    Yields (removeEach kind network delete entries) fun _ events =>
      ∃ answers, answers.length = entries.length ∧
        events = List.zipWith deletion entries answers := by
  refine (yields_removeEach_account kind network asks entries).mono ?_
  rintro pass events ⟨answers, same, calls, -⟩
  exact ⟨answers, same, calls⟩

/-- A pass deletes what the table lists when the pass begins. -/
theorem journal_removeOwned (isOwned : Entry → Bool)
    (listing : Except Error (List Entry) → Event)
    {table : StateM World (Except Error (List Entry))}
    (asks : ∀ entry, Yields (delete entry) fun answer events =>
      events = [deletion entry answer])
    (before : Recorded World Event) :
    let listed := (table.run before.world).1
    let pass := removeOwned kind isOwned network (record listing table) delete
    ∃ answers, answers.length = (owned isOwned listed).length ∧
      (pass.run before).2.journal =
        before.journal ++
          listing listed ::
            List.zipWith deletion (owned isOwned listed) answers := by
  dsimp only [removeOwned]
  rw [record_bind_run]
  cases (table.run before.world).1 with
  | error error => exact ⟨[], rfl, rfl⟩
  | ok entries =>
      obtain ⟨events, grown, answers, same, rfl⟩ :=
        (yields_removeEach kind network asks (entries.filter isOwned))
          { world := (table.run before.world).2
            journal := before.journal ++ [listing (.ok entries)] }
      exact ⟨answers, same, grown.trans (List.append_assoc _ _ _)⟩

end Removal

section Tables

variable {World Event : Type} (note : RouteTable.Event → Event)
  (table : RouteTable (StateM World)) (interface : InterfaceId)

/-- The addresses of an interface among those that are listed. -/
abbrev ownAddresses :
    Except Error (List AddressEntry) → List AddressEntry :=
  owned fun entry => entry.interface = interface

/-- The routes through an interface among those that are listed. -/
abbrev ownRoutes : Except Error (List RouteEntry) → List RouteEntry :=
  owned fun entry => entry.interface = interface

theorem journal_removeAllAddresses (before : Recorded World Event) :
    let listed := (table.addresses.run before.world).1
    let pass := removeAllAddresses (table.recorded note) interface
    ∃ answers, answers.length = (ownAddresses interface listed).length ∧
      (pass.run before).2.journal =
        before.journal ++
          note (.addressesListed listed) ::
            List.zipWith (fun entry answer =>
                note (.addressDeleted entry answer))
              (ownAddresses interface listed) answers :=
  journal_removeOwned .address AddressEntry.network _
    (note <| .addressesListed ·)
    (fun entry => yields_record (note <| .addressDeleted entry ·)
      (table.deleteAddress entry))
    before

theorem journal_removeAllRoutes (before : Recorded World Event) :
    let listed := (table.routes.run before.world).1
    let pass := removeAllRoutes (table.recorded note) interface
    ∃ answers, answers.length = (ownRoutes interface listed).length ∧
      (pass.run before).2.journal =
        before.journal ++
          note (.routesListed listed) ::
            List.zipWith (fun entry answer =>
                note (.routeDeleted entry answer))
              (ownRoutes interface listed) answers :=
  journal_removeOwned .route RouteEntry.destination _
    (note <| .routesListed ·)
    (fun entry => yields_record (note <| .routeDeleted entry ·)
      (table.deleteRoute entry))
    before

/-- What a pass asks for that deletes the addresses of an interface. -/
theorem yields_removeAllAddresses :
    Yields (removeAllAddresses (table.recorded note) interface)
      fun _ events => ∃ listed answers,
        answers.length = (ownAddresses interface listed).length ∧
        events =
          note (.addressesListed listed) ::
            List.zipWith (fun entry answer =>
                note (.addressDeleted entry answer))
              (ownAddresses interface listed) answers := by
  intro before
  obtain ⟨answers, same, grown⟩ :=
    journal_removeAllAddresses note table interface before
  exact ⟨_, grown, _, answers, same, rfl⟩

/-- What a pass asks for that deletes the routes through an interface. -/
theorem yields_removeAllRoutes :
    Yields (removeAllRoutes (table.recorded note) interface)
      fun _ events => ∃ listed answers,
        answers.length = (ownRoutes interface listed).length ∧
        events =
          note (.routesListed listed) ::
            List.zipWith (fun entry answer =>
                note (.routeDeleted entry answer))
              (ownRoutes interface listed) answers := by
  intro before
  obtain ⟨answers, same, grown⟩ :=
    journal_removeAllRoutes note table interface before
  exact ⟨_, grown, _, answers, same, rfl⟩

end Tables

/-! ## Tables that are sets -/

/--
In every world there is a set of entries, which a listing lists and from which
a deletion takes one entry; neither changes anything else that is looked at.
-/
structure IsStore {World Entry Other : Type} (entries : World → Set Entry)
    (others : World → Other)
    (list : StateM World (Except Error (List Entry)))
    (delete : Entry → StateM World (Except Error Unit)) : Prop where
  lists : ∀ world, ∃ listed, (list.run world).1 = .ok listed ∧
    ∀ entry, entry ∈ listed ↔ entry ∈ entries world
  keeps : ∀ world, entries (list.run world).2 = entries world ∧
    others (list.run world).2 = others world
  deletes : ∀ gone world,
    (∀ entry, entry ∈ entries ((delete gone).run world).2 ↔
      entry ∈ entries world ∧ entry ≠ gone) ∧
    others ((delete gone).run world).2 = others world

namespace IsStore

variable {World Event Entry Other : Type} {entries : World → Set Entry}
  {others : World → Other} (kind : EntryKind) (network : Entry → Prefix)
  {list : StateM World (Except Error (List Entry))}
  {delete : Entry → StateM World (Except Error Unit)}

/-- A journal does not change what is in a table. -/
theorem recorded (store : IsStore entries others list delete)
    (listing : Except Error (List Entry) → Event)
    (deletion : Entry → Except Error Unit → Event) :
    IsStore (fun recorded => entries recorded.world)
      (fun recorded => others recorded.world) (record listing list)
      fun entry => record (deletion entry) (delete entry) where
  lists recorded := store.lists recorded.world
  keeps recorded := store.keeps recorded.world
  deletes entry recorded := store.deletes entry recorded.world

/-- What is left of a pass once an entry was asked for. -/
theorem run_removeEach_cons (entry : Entry) (rest : List Entry)
    (world : World) :
    ((Network.removeEach kind network delete (entry :: rest)).run world).2 =
      ((Network.removeEach kind network delete rest).run
        ((delete entry).run world).2).2 := by
  rw [Network.removeEach, run_bind, run_bind]
  cases ((delete entry).run world).1 with
  | ok _ => rfl
  | error error => dsimp only; split <;> rfl

theorem removeEach (store : IsStore entries others list delete)
    (gone : List Entry) (world : World) :
    let after := ((Network.removeEach kind network delete gone).run world).2
    (∀ entry, entry ∈ entries after ↔
      entry ∈ entries world ∧ entry ∉ gone) ∧
    others after = others world := by
  induction gone generalizing world with
  | nil =>
      refine ⟨fun entry => ?_, rfl⟩
      exact ⟨fun member => ⟨member, List.not_mem_nil⟩, And.left⟩
  | cons first rest ih =>
      obtain ⟨smaller, same⟩ := store.deletes first world
      obtain ⟨left, kept⟩ := ih ((delete first).run world).2
      dsimp only at left kept ⊢
      rw [run_removeEach_cons]
      refine ⟨fun entry => ?_, kept.trans same⟩
      rw [left, smaller, List.mem_cons, not_or, and_assoc]

/-- A pass over a set leaves what it does not own. -/
theorem removeOwned (store : IsStore entries others list delete)
    (isOwned : Entry → Bool) (world : World) :
    let after :=
      ((Network.removeOwned kind isOwned network list delete).run world).2
    (∀ entry, entry ∈ entries after ↔
      entry ∈ entries world ∧ isOwned entry = false) ∧
    others after = others world := by
  obtain ⟨listed, answers, whole⟩ := store.lists world
  obtain ⟨same, alike⟩ := store.keeps world
  obtain ⟨left, kept⟩ := store.removeEach kind network
    (listed.filter isOwned) (list.run world).2
  dsimp only
  rw [Network.removeOwned, run_bind, answers]
  refine ⟨fun entry => (left entry).trans ?_, kept.trans alike⟩
  rw [same, List.mem_filter, whole]
  cases isOwned entry <;> simp

variable {table : RouteTable (StateM World)} (interface : InterfaceId)

theorem removeAllAddresses {addresses : World → Set AddressEntry}
    (store : IsStore addresses others table.addresses table.deleteAddress)
    (world : World) :
    let after := ((Network.removeAllAddresses table interface).run world).2
    (∀ entry, entry ∈ addresses after ↔
      entry ∈ addresses world ∧ entry.interface ≠ interface) ∧
    others after = others world := by
  obtain ⟨left, kept⟩ := store.removeOwned .address AddressEntry.network
    (fun entry => entry.interface = interface) world
  refine ⟨fun entry => (left entry).trans ?_, kept⟩
  rw [decide_eq_false_iff_not]

theorem removeAllRoutes {routes : World → Set RouteEntry}
    (store : IsStore routes others table.routes table.deleteRoute)
    (world : World) :
    let after := ((Network.removeAllRoutes table interface).run world).2
    (∀ entry, entry ∈ routes after ↔
      entry ∈ routes world ∧ entry.interface ≠ interface) ∧
    others after = others world := by
  obtain ⟨left, kept⟩ := store.removeOwned .route RouteEntry.destination
    (fun entry => entry.interface = interface) world
  refine ⟨fun entry => (left entry).trans ?_, kept⟩
  rw [decide_eq_false_iff_not]

end IsStore

end Tunnel.Network
