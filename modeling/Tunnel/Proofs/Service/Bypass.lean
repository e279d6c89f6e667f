import Tunnel.Proofs.Service.Connect
import Tunnel.Proofs.Service.Disconnect

/-!
# What a call for one adapter leaves alone

A method that names an adapter asks a driver for the handle of this adapter
only, and the tables for entries of its interface only.  Whatever is left alone
by such calls of the collaborators (`Backend.Bypasses`), each method leaves
alone, also where it fails.  What the service knows of other adapters and
whether it watches other interfaces does not change either
(`Service.AgreesBeside`).
-/

namespace Tunnel

/-! ## Passes -/

namespace Network

section Passes

variable {World View Entry : Type} {view : World → View} (kind : EntryKind)

theorem leaves_addAll {add : Prefix → StateM World (Except Error Unit)}
    (adds : ∀ network, Leaves view (add network) fun _ => True)
    (networks : List Prefix) :
    Leaves view (addAll kind add networks) fun _ => True := by
  induction networks with
  | nil => exact leaves_pure trivial
  | cons network rest ih =>
      refine (adds network).bind fun answer _ => ?_
      cases answer with
      | ok _ => exact ih.bind fun _ _ => leaves_pure trivial
      | error error =>
          dsimp only
          split
          · exact ih.bind fun _ _ => leaves_pure trivial
          · exact leaves_pure trivial

variable (network : Entry → Prefix)
  {delete : Entry → StateM World (Except Error Unit)}

theorem leaves_removeEach {entries : List Entry}
    (deletes : ∀ entry ∈ entries,
      Leaves view (delete entry) fun _ => True) :
    Leaves view (removeEach kind network delete entries) fun _ => True := by
  induction entries with
  | nil => exact leaves_pure trivial
  | cons entry rest ih =>
      have others := ih fun other member =>
        deletes other (List.mem_cons_of_mem _ member)
      refine (deletes entry List.mem_cons_self).bind fun answer _ =>
        others.bind fun pass _ => ?_
      cases answer with
      | ok _ => exact leaves_pure trivial
      | error error => dsimp only; split <;> exact leaves_pure trivial

/-- A pass deletes what it owns, however long the listing is. -/
theorem leaves_removeOwned {isOwned : Entry → Bool}
    {list : StateM World (Except Error (List Entry))}
    (lists : Leaves view list fun _ => True)
    (deletes : ∀ entry, isOwned entry = true →
      Leaves view (delete entry) fun _ => True) :
    Leaves view (removeOwned kind isOwned network list delete)
      fun _ => True := by
  refine lists.bind fun listed _ => ?_
  cases listed with
  | error error => exact leaves_pure trivial
  | ok entries =>
      refine (leaves_removeEach kind network fun entry member => ?_).bind
        fun _ _ => leaves_pure trivial
      exact deletes entry (List.mem_filter.1 member).2

end Passes

end Network

/-! ## Observers -/

namespace Observer

variable {observer : Observer} {interface other : InterfaceId}

/-- A start decides about its own interface. -/
theorem mem_enrol_of_ne (differs : other ≠ interface)
    (answer : Except Error Nat) :
    other ∈ (observer.enrol interface answer).1.watched ↔
      other ∈ observer.watched := by
  by_cases able : observer.isSubscribed = true ∨ ∃ source, answer = .ok source
  · exact (mem_enrol able).trans (or_iff_left differs)
  · obtain ⟨dead, refused⟩ := not_or.1 able
    cases answer with
    | ok source => exact absurd ⟨source, rfl⟩ refused
    | error error => rw [enrol_refused (Bool.eq_false_of_not_eq_true dead)]

/-- So does a stop. -/
theorem mem_stop_of_ne (differs : other ≠ interface) :
    other ∈ (observer.stop interface).watched ↔
      other ∈ observer.watched := by
  show other ∈ (observer.withdraw interface).watched ↔ _
  rw [withdraw_watched]
  exact List.mem_erase_of_ne differs

end Observer

/-! ## Services -/

namespace Service

/-- The methods that do something for one adapter. -/
def Method.namesAdapter : Method → Bool
  | .setupTunnel | .connect | .disconnect | .status => true
  | _ => false

/-- Nothing but one adapter and one interface has changed. -/
structure AgreesBeside (service : Service) (name : String)
    (interface : InterfaceId) (after : Service) : Prop where
  adapters : ∀ other, other ≠ name → after.find? other = service.find? other
  watched : ∀ other, other ≠ interface →
    (other ∈ after.observer.watched ↔ other ∈ service.observer.watched)

section AgreesBeside

variable {service after last : Service} {name : String}
  {interface : InterfaceId}

theorem agreesBeside_refl : service.AgreesBeside name interface service :=
  ⟨fun _ _ => rfl, fun _ _ => Iff.rfl⟩

theorem AgreesBeside.trans (first : service.AgreesBeside name interface after)
    (second : after.AgreesBeside name interface last) :
    service.AgreesBeside name interface last where
  adapters other differs :=
    (second.adapters other differs).trans (first.adapters other differs)
  watched other differs :=
    (second.watched other differs).trans (first.watched other differs)

theorem agreesBeside_observer {observer : Observer}
    (watched : ∀ other, other ≠ interface →
      (other ∈ observer.watched ↔ other ∈ service.observer.watched)) :
    service.AgreesBeside name interface { service with observer } :=
  ⟨fun _ _ => rfl, watched⟩

/-- An adapter takes the place of one of its name. -/
theorem find?_replace_of_ne {adapter : Adapter} {other : String}
    (differs : other ≠ adapter.name) :
    (service.replace adapter).find? other = service.find? other := by
  have along : ∀ adapters : List KnownAdapter,
      (replace.replaceFirst adapter adapters).find?
          (·.adapter.name = other) =
        adapters.find? (·.adapter.name = other) := by
    intro adapters
    induction adapters with
    | nil => rfl
    | cons known rest ih =>
        rw [replace.replaceFirst]
        split
        · next own =>
            rw [List.find?_cons_of_neg, List.find?_cons_of_neg]
            · simpa [own] using differs.symm
            · simpa using differs.symm
        · rw [List.find?_cons, List.find?_cons, ih]
  exact along service.adapters

theorem agreesBeside_replace {adapter : Adapter}
    (own : adapter.name = name) :
    service.AgreesBeside name interface (service.replace adapter) where
  adapters _ differs := find?_replace_of_ne (own ▸ differs)
  watched _ _ := Iff.rfl

end AgreesBeside

end Service

/-! ## Calls for one adapter -/

/--
What a driver is asked for one handle, what the tables are asked for one
interface, what the monitor is asked and what goes on beside a call all leave
alone what is looked at.  The driver knows the handle by no other interface.
-/
structure Backend.Bypasses {World View : Type} (view : World → View)
    (backend : Backend (StateM World)) (driver : DriverId) (handle : Handle)
    (interface : InterfaceId) : Prop where
  configures : ∀ image,
    Leaves view ((backend.driver driver).setConfiguration handle image)
      fun _ => True
  switches : ∀ state,
    Leaves view ((backend.driver driver).setState handle state) fun _ => True
  reads : Leaves view ((backend.driver driver).state handle) fun _ => True
  identifies : Leaves view ((backend.driver driver).identifier handle)
    fun answer => ∀ found, answer = .ok found → found = interface
  addsAddress : ∀ network,
    Leaves view (backend.table.addAddress interface network) fun _ => True
  listsAddresses : Leaves view backend.table.addresses fun _ => True
  deletesAddress : ∀ entry, entry.interface = interface →
    Leaves view (backend.table.deleteAddress entry) fun _ => True
  addsRoute : ∀ destination,
    Leaves view (backend.table.addRoute interface destination) fun _ => True
  listsRoutes : Leaves view backend.table.routes fun _ => True
  deletesRoute : ∀ entry, entry.interface = interface →
    Leaves view (backend.table.deleteRoute entry) fun _ => True
  subscribes : Leaves view backend.monitor.subscribe fun _ => True
  looks : Leaves view (backend.monitor.status interface) fun _ => True
  beside : ∀ observer,
    Leaves view (backend.meanwhile observer) observer.Follows

namespace Backend.Bypasses

open Service

variable {World View : Type} {view : World → View}
  {backend : Backend (StateM World)} {driver : DriverId} {handle : Handle}
  {interface : InterfaceId} {service : Service} {name : String}
  {known : KnownAdapter}

section Parts

variable (bypasses : backend.Bypasses view driver handle interface)
  {adapter : Adapter} (has : adapter.handle = some handle)

include bypasses

section Adapters

include has

theorem identifier :
    Leaves view (adapter.identifier (backend.driver driver))
      fun answer => ∀ found, answer = .ok found → found = interface := by
  unfold Adapter.identifier Adapter.withHandle
  rw [has]
  exact bypasses.identifies

theorem state :
    Leaves view (adapter.state (backend.driver driver)) fun _ => True := by
  unfold Adapter.state Adapter.withHandle
  rw [has]
  exact bypasses.reads

theorem apply (document : String) :
    Leaves view (adapter.apply (backend.driver driver) document)
      fun answer => answer.2.name = adapter.name ∧
        answer.2.handle = some handle := by
  unfold Adapter.apply
  rw [has]
  dsimp only
  split
  · exact leaves_pure ⟨rfl, rfl⟩
  · refine (bypasses.configures _).bind fun answer _ => ?_
    cases answer with
    | error error => exact leaves_pure ⟨rfl, rfl⟩
    | ok _ =>
        refine (bypasses.switches .up).bind fun answer _ => ?_
        cases answer <;> exact leaves_pure ⟨rfl, rfl⟩

end Adapters

theorem install (config : Config) :
    Leaves view (install backend.table interface config) fun _ => True := by
  rw [install_eq]
  refine (Network.leaves_addAll _ bypasses.addsAddress _).bind
    fun answer _ => ?_
  cases answer with
  | error error => exact leaves_pure trivial
  | ok pass =>
      refine (Network.leaves_addAll _ bypasses.addsRoute _).bind
        fun answer _ => ?_
      cases answer <;> exact leaves_pure trivial

theorem removeAllAddresses :
    Leaves view (Network.removeAllAddresses backend.table interface)
      fun _ => True :=
  Network.leaves_removeOwned _ _ bypasses.listsAddresses fun entry own =>
    bypasses.deletesAddress entry (of_decide_eq_true own)

theorem removeAllRoutes :
    Leaves view (Network.removeAllRoutes backend.table interface)
      fun _ => True :=
  Network.leaves_removeOwned _ _ bypasses.listsRoutes fun entry own =>
    bypasses.deletesRoute entry (of_decide_eq_true own)

theorem enrolWith (observer : Observer) :
    Leaves view (observer.enrolWith backend.monitor interface) fun found =>
      ∀ other, other ≠ interface →
        (other ∈ found.1.watched ↔ other ∈ observer.watched) := by
  unfold Observer.enrolWith
  split
  · exact leaves_pure fun _ differs => Observer.mem_enrol_of_ne differs _
  · exact bypasses.subscribes.bind fun answer _ =>
      leaves_pure fun _ differs => Observer.mem_enrol_of_ne differs answer

theorem observe (service : Service) :
    Leaves view (service.observe backend interface)
      (service.AgreesBeside name interface) := by
  refine (bypasses.beside service.observer).bind fun before follows => ?_
  refine (bypasses.enrolWith before).bind ?_
  rintro ⟨observer, found⟩ watched
  rw [follows.kept.1] at watched
  cases found with
  | enrolled =>
      refine bypasses.looks.bind fun answer _ => ?_
      refine (bypasses.beside observer).bind fun after follows => ?_
      refine leaves_pure (agreesBeside_observer ?_)
      rw [Observer.publish_watched, follows.kept.1]
      exact watched
  | settled => exact leaves_pure (agreesBeside_observer watched)
  | refused error => exact leaves_pure (agreesBeside_observer watched)

theorem observeNew (service : Service) :
    Leaves view (service.observeNew backend interface)
      (service.AgreesBeside name interface) := by
  refine (bypasses.beside service.observer).bind fun before follows => ?_
  have beside :
      service.AgreesBeside name interface { service with observer := before } :=
    agreesBeside_observer fun _ _ => by rw [follows.kept.1]
  dsimp only
  split
  · exact leaves_pure beside
  · exact (bypasses.observe _).mono fun _ agrees => beside.trans agrees

end Parts

/-! ### Methods -/

section Methods

variable (found : service.find? name = some known)
  (has : known.adapter.handle = some handle)
  (bypasses : backend.Bypasses view known.driver handle interface)

include found has bypasses

theorem setupTunnel :
    Leaves view (service.setupTunnel backend name)
      (service.AgreesBeside name interface ·.1) := by
  unfold Service.setupTunnel
  split
  · exact leaves_pure agreesBeside_refl
  · rw [found]
    refine (bypasses.identifier has).bind fun answer own => ?_
    cases answer with
    | error error => exact leaves_pure agreesBeside_refl
    | ok identified =>
        obtain rfl := own identified rfl
        exact (bypasses.observe service).bind fun after agrees =>
          leaves_pure agrees

theorem connect (document : String) :
    Leaves view (service.connect backend name document)
      (service.AgreesBeside name interface ·.1) := by
  unfold Service.connect
  rw [found]
  dsimp only
  split
  · exact leaves_pure agreesBeside_refl
  · refine (bypasses.apply has document).bind ?_
    rintro ⟨applied, adapter⟩ ⟨sameName, sameHandle⟩
    -- The adapter is replaced before anything else can fail.
    have replaced :
        service.AgreesBeside name interface (service.replace adapter) :=
      agreesBeside_replace (sameName.trans (name_of_find? found))
    cases applied with
    | error error => exact leaves_pure replaced
    | ok config =>
        refine (bypasses.identifier sameHandle).bind
          fun answer own => ?_
        cases answer with
        | error error => exact leaves_pure replaced
        | ok identified =>
            obtain rfl := own identified rfl
            refine (bypasses.install config).bind fun installed _ => ?_
            cases installed with
            | error failure => exact leaves_pure replaced
            | ok _ =>
                exact (bypasses.observeNew _).bind fun after agrees =>
                  leaves_pure (replaced.trans agrees)

theorem disconnect :
    Leaves view (service.disconnect backend name)
      (service.AgreesBeside name interface ·.1) := by
  rw [disconnect_known found has]
  refine (bypasses.switches .down).bind fun lowered _ => ?_
  cases lowered with
  | error error => exact leaves_pure agreesBeside_refl
  | ok _ =>
      refine bypasses.identifies.bind fun answer own => ?_
      cases answer with
      | error error => exact leaves_pure agreesBeside_refl
      | ok identified =>
          obtain rfl := own identified rfl
          refine bypasses.removeAllAddresses.bind fun _ _ => ?_
          refine bypasses.removeAllRoutes.bind fun _ _ => ?_
          refine (bypasses.beside service.observer).bind
            fun observer follows => ?_
          refine leaves_pure (agreesBeside_observer fun other differs => ?_)
          rw [Observer.mem_stop_of_ne differs, follows.kept.1]

theorem adapterStatus :
    Leaves view (service.adapterStatus backend name) fun _ => True := by
  unfold Service.adapterStatus
  rw [found, Option.filter_some]
  split
  · exact leaves_pure trivial
  · next other filtered =>
      obtain rfl : known = other := by
        split at filtered
        · exact Option.some.inj filtered
        · cases filtered
      refine (bypasses.state has).bind fun answer _ => ?_
      split <;> exact leaves_pure trivial

/-- Every method that names an adapter bypasses the others. -/
theorem call {method : Method} (names : method.namesAdapter = true)
    {arguments : Arguments}
    (named : required arguments adapterArgument = .ok name) :
    Leaves view (service.call backend arguments method)
      (service.AgreesBeside name interface ·.1) := by
  unfold Service.call withAdapter
  rw [named]
  cases method with
  | setupTunnel => exact setupTunnel found has bypasses
  | connect =>
      dsimp only
      split
      · exact leaves_pure agreesBeside_refl
      · exact connect found has bypasses _
  | disconnect => exact disconnect found has bypasses
  | status =>
      exact (adapterStatus found has bypasses).bind fun _ _ =>
        leaves_pure agreesBeside_refl
  | _ => cases names

end Methods

end Backend.Bypasses

end Tunnel
