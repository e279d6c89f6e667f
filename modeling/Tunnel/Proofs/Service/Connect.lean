import Tunnel.Proofs.Adapter.Course
import Tunnel.Proofs.Image.Writing
import Tunnel.Proofs.Network.Addition
import Tunnel.Proofs.Service.Upkeep
import Tunnel.Rehearsal.World

/-!
# Connecting

Where the driver takes what it is given, the tables are sets and the monitor
accepts subscriptions, a call that connects an adapter succeeds.  The driver
has the image of the document, the adapter is up, the tables have what they
had and what the document lists, and the interface is watched.

None of this depends on what was there before, so connecting again with the
same document leaves everything as it is.
-/

namespace Tunnel

/-! ## What is installed -/

/-- What a driver keeps for an adapter, and what is in the tables. -/
structure Installation where
  /-- The image that the driver took last. -/
  image : Option (List UInt8)
  state : AdapterState
  addresses : Set AddressEntry
  routes : Set RouteEntry

namespace Installation

/-- The address of a network, and the route to it, as a call adds them. -/
def address (interface : InterfaceId) (network : Prefix) : AddressEntry :=
  { interface, network }

def route (interface : InterfaceId) (destination : Prefix) : RouteEntry :=
  { interface, destination, metric := 0 }

/-- What there is once an adapter is connected. -/
def connected (before : Installation) (interface : InterfaceId)
    (config : Config) (image : List UInt8) : Installation where
  image := some image
  state := .up
  addresses := before.addresses ∪
    Network.entriesOf (address interface) config.interface.addresses
  routes := before.routes ∪
    Network.entriesOf (route interface) config.routes

/-- What a configuration lists is there already the second time. -/
theorem connected_connected (before : Installation)
    (interface : InterfaceId) (config : Config) (image : List UInt8) :
    (before.connected interface config image).connected interface config
        image =
      before.connected interface config image := by
  simp only [connected, Set.union_assoc, Set.union_self]

/-- The routes that are new lead to the networks of the peers. -/
theorem mem_routes_connected {before : Installation}
    {interface : InterfaceId} {config : Config} {image : List UInt8}
    {entry : RouteEntry} :
    entry ∈ (before.connected interface config image).routes ↔
      entry ∈ before.routes ∨ ∃ peer ∈ config.peers,
        ∃ network ∈ peer.allowedIps, entry = route interface network := by
  simp only [connected, Set.mem_union, Network.entriesOf, Set.mem_ofPred_eq,
    Config.mem_routes]
  refine or_congr_right ⟨?_, ?_⟩
  · rintro ⟨network, ⟨peer, listed, allowed⟩, same⟩
    exact ⟨peer, listed, network, allowed, same⟩
  · rintro ⟨peer, listed, network, allowed, same⟩
    exact ⟨network, ⟨peer, listed, allowed⟩, same⟩

section Parts

variable {before after : Installation}

theorem eq_with_addresses {addresses : Set AddressEntry}
    (grown : after.addresses = addresses)
    (same : { after with addresses := ∅ } =
      { before with addresses := ∅ }) :
    after = { before with addresses } := by
  cases after
  cases grown
  cases same
  rfl

theorem eq_with_routes {routes : Set RouteEntry}
    (grown : after.routes = routes)
    (same : { after with routes := ∅ } = { before with routes := ∅ }) :
    after = { before with routes } := by
  cases after
  cases grown
  cases same
  rfl

end Parts

end Installation

/-! ## Operations that leave it alone -/

/--
Whatever the world, an operation leaves what is looked at as it is, and what
it answers has a property.
-/
def Leaves {World View α : Type} (view : World → View)
    (operation : StateM World α) (property : α → Prop) : Prop :=
  ∀ world, property (operation.run world).1 ∧
    view (operation.run world).2 = view world

section Leaves

variable {World View α β : Type} {view : World → View}
  {operation : StateM World α} {property : α → Prop}

theorem leaves_pure {value : α} (holds : property value) :
    Leaves view (pure value : StateM World α) property :=
  fun _ => ⟨holds, rfl⟩

theorem Leaves.bind {next : α → StateM World β} {after : β → Prop}
    (first : Leaves view operation property)
    (follows : ∀ value, property value → Leaves view (next value) after) :
    Leaves view (operation >>= next) after := by
  intro world
  obtain ⟨holds, same⟩ := first world
  obtain ⟨result, still⟩ :=
    follows _ holds (operation.run world).2
  exact ⟨result, still.trans same⟩

theorem Leaves.mono {other : α → Prop}
    (leaves : Leaves view operation property)
    (weaker : ∀ value, property value → other value) :
    Leaves view operation other :=
  fun world => ⟨weaker _ (leaves world).1, (leaves world).2⟩

end Leaves

/-! ## Collaborators that do what they are asked for -/

/--
The driver takes what it is given for a handle and knows its interface, the
tables are sets, and the monitor accepts subscriptions.  Neither the monitor
nor what goes on beside a call changes what is installed.
-/
structure Backend.Installs {World : Type} (backend : Backend (StateM World))
    (driver : DriverId) (handle : Handle) (interface : InterfaceId)
    (view : World → Installation) : Prop where
  configures : ∀ image world,
    let after :=
      ((backend.driver driver).setConfiguration handle image).run world
    after.1 = .ok () ∧
      view after.2 = { view world with image := some image }
  raises : ∀ world,
    let after := ((backend.driver driver).setState handle .up).run world
    after.1 = .ok () ∧ view after.2 = { view world with state := .up }
  identifies : Leaves view ((backend.driver driver).identifier handle)
    (· = .ok interface)
  addresses : Network.IsCollection (fun world => (view world).addresses)
    (fun world => { view world with addresses := ∅ })
    (Installation.address interface) (backend.table.addAddress interface)
  routes : Network.IsCollection (fun world => (view world).routes)
    (fun world => { view world with routes := ∅ })
    (Installation.route interface) (backend.table.addRoute interface)
  subscribes : Leaves view backend.monitor.subscribe
    fun answer => ∃ source, answer = .ok source
  reads : ∀ other, Leaves view (backend.monitor.status other) fun _ => True
  beside : ∀ observer, Leaves view (backend.meanwhile observer)
    observer.Follows

/-! ## Watching -/

/-- A start watches its interface, unless it needs a subscription in vain. -/
theorem Observer.mem_enrol {observer : Observer}
    {interface other : InterfaceId} {answer : Except Error Nat}
    (able : observer.isSubscribed = true ∨ ∃ source, answer = .ok source) :
    other ∈ (observer.enrol interface answer).1.watched ↔
      other ∈ observer.watched ∨ other = interface := by
  cases subscribed : observer.isSubscribed with
  | true =>
      by_cases member : interface ∈ observer.watched
      · rw [enrol_settled subscribed member]
        exact (or_iff_left_of_imp fun same => same ▸ member).symm
      · rw [enrol_joined subscribed member]
        exact observer.mem_insert
  | false =>
      obtain ⟨source, rfl⟩ :=
        able.resolve_left (ne_true_of_eq_false subscribed)
      rw [enrol_spawned subscribed]
      exact (observer.spawn source).mem_insert

namespace Service

/-- The same service, with one more interface watched. -/
def Watches (service : Service) (interface : InterfaceId)
    (after : Service) : Prop :=
  ∃ observer, after = { service with observer } ∧
    (∀ other, other ∈ observer.watched ↔
      other ∈ service.observer.watched ∨ other = interface) ∧
    (interface ∈ service.observer.watched →
      observer.watched = service.observer.watched)

section Connecting

variable {World : Type} {backend : Backend (StateM World)}
  {service : Service} {name document : String} {known : KnownAdapter}
  {driver : DriverId} {handle : Handle} {interface : InterfaceId}
  {view : World → Installation} {config : Config} {image : List UInt8}

theorem leaves_enrolWith {observer : Observer}
    (installs : backend.Installs driver handle interface view)
    (wanted : InterfaceId) :
    Leaves view (observer.enrolWith backend.monitor wanted) fun found =>
      ∀ other, other ∈ found.1.watched ↔
        other ∈ observer.watched ∨ other = wanted := by
  unfold Observer.enrolWith
  split
  · next subscribed =>
      exact leaves_pure fun _ => Observer.mem_enrol (Or.inl subscribed)
  · exact installs.subscribes.bind fun answer accepted =>
      leaves_pure fun _ => Observer.mem_enrol (Or.inr accepted)

theorem leaves_observe
    (installs : backend.Installs driver handle interface view)
    (service : Service) (wanted : InterfaceId) :
    Leaves view (service.observe backend wanted) fun after =>
      ∃ observer, after = { service with observer } ∧
        ∀ other, other ∈ observer.watched ↔
          other ∈ service.observer.watched ∨ other = wanted := by
  refine (installs.beside service.observer).bind fun before follows => ?_
  refine (leaves_enrolWith installs wanted).bind ?_
  rintro ⟨observer, found⟩ watched
  rw [follows.kept.1] at watched
  cases found with
  | enrolled =>
      refine (installs.reads wanted).bind fun answer _ => ?_
      refine (installs.beside observer).bind fun after follows => ?_
      refine leaves_pure ⟨_, rfl, ?_⟩
      rw [Observer.publish_watched, follows.kept.1]
      exact watched
  | settled => exact leaves_pure ⟨_, rfl, watched⟩
  | refused error => exact leaves_pure ⟨_, rfl, watched⟩

theorem leaves_observeNew
    (installs : backend.Installs driver handle interface view)
    (service : Service) (wanted : InterfaceId) :
    Leaves view (service.observeNew backend wanted)
      (service.Watches wanted) := by
  refine (installs.beside service.observer).bind fun before follows => ?_
  have same := follows.kept.1
  dsimp only
  split
  · next watching =>
      have member := before.isWatching_iff.1 watching
      rw [same] at member
      refine leaves_pure ⟨before, rfl, fun other => ?_, fun _ => same⟩
      rw [same]
      exact (or_iff_left_of_imp fun own => own ▸ member).symm
  · next unwatched =>
      rw [Observer.isWatching_iff, same] at unwatched
      intro world
      obtain ⟨⟨observer, rest, watched⟩, still⟩ :=
        leaves_observe installs { service with observer := before } wanted
          world
      rw [same] at watched
      exact ⟨⟨observer, rest, watched, (absurd · unwatched)⟩, still⟩

/-! ## One call -/

/-- An adapter that takes a document is up with the image of it. -/
theorem run_apply_installs {adapter : Adapter}
    (installs : backend.Installs driver handle interface view)
    (has : adapter.handle = some handle)
    (ready : Adapter.prepare document = .ok (config, image))
    (world : World) :
    let after := (adapter.apply (backend.driver driver) document).run world
    after.1 = (.ok config, { adapter with applied := some config }) ∧
      view after.2 =
        { view world with image := some image, state := .up } := by
  obtain ⟨takes, holds⟩ := installs.configures image world
  have raised := installs.raises
    (((backend.driver driver).setConfiguration handle image).run world).2
  dsimp only at raised ⊢
  rw [Adapter.run_apply_taken has ready takes]
  dsimp only
  rw [raised.1, raised.2, holds]
  exact ⟨rfl, rfl⟩

/-- That there is no pass over no addresses makes no difference. -/
theorem install_eq (table : RouteTable (StateM World))
    (interface : InterfaceId) (config : Config) :
    install table interface config = (do
      match ← Network.addAddresses table interface
          config.interface.addresses with
      | .error error =>
          return .error (.causedBy .ipConfigurationFailed
            "Failed to configure IP addresses on adapter" error)
      | .ok _ =>
          match ← Network.addRoutes table interface config.routes with
          | .error error =>
              return .error (.causedBy .ipConfigurationFailed
                "Failed to configure routes for peer allowed IPs" error)
          | .ok _ => return .ok ()) := by
  unfold install
  cases config.interface.addresses <;> rfl

/-- The tables get all that a configuration lists. -/
theorem run_install
    (installs : backend.Installs driver handle interface view)
    (config : Config) (world : World) :
    let after := (install backend.table interface config).run world
    after.1 = .ok () ∧
      view after.2 = { view world with
        addresses := (view world).addresses ∪
          Network.entriesOf (Installation.address interface)
            config.interface.addresses
        routes := (view world).routes ∪
          Network.entriesOf (Installation.route interface)
            config.routes } := by
  dsimp only
  rw [install_eq, run_bind]
  obtain ⟨⟨pass, passed⟩, grown, same⟩ :=
    installs.addresses.addAll .address config.interface.addresses world
  have addressed := Installation.eq_with_addresses grown same
  unfold Network.addAddresses
  rw [passed]
  dsimp only
  rw [run_bind]
  obtain ⟨⟨pass, passed⟩, grown, same⟩ :=
    installs.routes.addAll .route config.routes
      ((Network.addAll .address (backend.table.addAddress interface)
        config.interface.addresses).run world).2
  have routed := Installation.eq_with_routes grown same
  unfold Network.addRoutes
  rw [passed]
  refine ⟨rfl, routed.trans ?_⟩
  rw [addressed]

/-- An adapter with a handle says what its driver says. -/
theorem leaves_identifier
    (installs : backend.Installs driver handle interface view)
    (adapter : Adapter) (has : adapter.handle = some handle) :
    Leaves view (adapter.identifier (backend.driver driver))
      (· = .ok interface) := by
  unfold Adapter.identifier Adapter.withHandle
  rw [has]
  exact installs.identifies

/-- A call that connects an adapter. -/
theorem run_connect (found : service.find? name = some known)
    (installs : backend.Installs known.driver handle interface view)
    (has : known.adapter.handle = some handle)
    (ready : Adapter.prepare document = .ok (config, image))
    (world : World) :
    let after := (service.connect backend name document).run world
    let adapter := { known.adapter with applied := some config }
    after.1.2 = .ok .done ∧
      (service.replace adapter).Watches interface after.1.1 ∧
      view after.2 = (view world).connected interface config image := by
  have valid : known.adapter.isValid = true := by
    rw [Adapter.isValid, has]
    rfl
  obtain ⟨applied, holds⟩ := run_apply_installs installs has ready world
  dsimp only at applied holds ⊢
  unfold connect
  rw [found]
  dsimp only
  rw [valid, if_neg Bool.noConfusion, run_bind, applied]
  dsimp only
  generalize ((known.adapter.apply (backend.driver known.driver)
    document).run world).2 = configured at holds ⊢
  obtain ⟨identified, unmoved⟩ := leaves_identifier installs
    { known.adapter with applied := some config } has configured
  rw [run_bind, identified]
  dsimp only
  obtain ⟨installed, furnished⟩ := run_install installs config
    ((Adapter.identifier (backend.driver known.driver)
      { known.adapter with applied := some config }).run configured).2
  rw [run_bind, installed]
  dsimp only
  obtain ⟨watches, still⟩ := leaves_observeNew installs
    (service.replace { known.adapter with applied := some config })
    interface ((install backend.table interface config).run
      ((Adapter.identifier (backend.driver known.driver)
        { known.adapter with applied := some config }).run configured).2).2
  rw [run_bind]
  refine ⟨rfl, watches, ?_⟩
  exact still.trans (furnished.trans (by rw [unmoved, holds]; rfl))

end Connecting

/-! ## Once more -/

section Replacing

variable {service : Service} {name : String} {known : KnownAdapter}
  {adapter : Adapter}

theorem replaceFirst_append {before after : List KnownAdapter}
    (others : ∀ other ∈ before, other.adapter.name ≠ adapter.name)
    (own : known.adapter.name = adapter.name) :
    replace.replaceFirst adapter (before ++ known :: after) =
      before ++ { known with adapter } :: after := by
  induction before with
  | nil => exact if_pos own
  | cons first rest ih =>
      rw [List.cons_append, replace.replaceFirst,
        if_neg (others first List.mem_cons_self),
        ih fun other member => others other (List.mem_cons_of_mem _ member)]
      rfl

/-- The adapters around the one of a name stay where they are. -/
theorem adapters_replace (found : service.find? name = some known)
    (same : adapter.name = name) :
    ∃ before after, service.adapters = before ++ known :: after ∧
      (service.replace adapter).adapters =
        before ++ { known with adapter } :: after ∧
      ∀ other ∈ before, other.adapter.name ≠ name := by
  obtain ⟨own, before, after, all, none⟩ :=
    List.find?_eq_some_iff_append.1 found
  have others : ∀ other ∈ before, other.adapter.name ≠ name := by
    intro other member
    have differs := none other member
    simpa using differs
  refine ⟨before, after, all, ?_, others⟩
  show replace.replaceFirst adapter service.adapters = _
  rw [all]
  exact replaceFirst_append (same ▸ others)
    ((of_decide_eq_true own).trans same.symm)

theorem find?_replace (found : service.find? name = some known)
    (same : adapter.name = name) :
    (service.replace adapter).find? name = some { known with adapter } := by
  obtain ⟨before, after, -, all, others⟩ := adapters_replace found same
  refine List.find?_eq_some_iff_append.2
    ⟨decide_eq_true same, before, after, all, fun other member => ?_⟩
  simpa using others other member

theorem replace_of_find? (found : service.find? name = some known) :
    service.replace known.adapter = service := by
  obtain ⟨before, after, all, rest, -⟩ :=
    adapters_replace found (name_of_find? found)
  have same : replace.replaceFirst known.adapter service.adapters =
      service.adapters := rest.trans all.symm
  rw [replace, same]

end Replacing

/--
Connecting an adapter succeeds where its driver takes what it is given and the
tables are sets.  The driver has the image of the document and the adapter is
up and has the document applied.  The tables have gained exactly what the
document lists, each address and each network of a peer once, and the
interface is watched.  Connecting again with the same document succeeds and
changes none of it.

The configuration of the document has an image, which only counts that do not
fit their fields can prevent (`Image.compile_eq_ok_iff`).
-/
theorem connect_installs {World : Type} {backend : Backend (StateM World)}
    {service : Service} {name document : String} {known : KnownAdapter}
    {handle : Handle} {interface : InterfaceId}
    {view : World → Installation} {config : Config} {image : List UInt8}
    (found : service.find? name = some known)
    (installs : backend.Installs known.driver handle interface view)
    (has : known.adapter.handle = some handle)
    (read : Config.parse document = .ok config)
    (compiled : Image.compile config = .ok image) (world : World) :
    let first := (service.connect backend name document).run world
    let second := (first.1.1.connect backend name document).run first.2
    (first.1.2 = .ok .done ∧
      view first.2 = (view world).connected interface config image ∧
      first.1.1.find? name = some
        { known with
          adapter := { known.adapter with applied := some config } } ∧
      ∀ other, other ∈ first.1.1.observer.watched ↔
        other ∈ service.observer.watched ∨ other = interface) ∧
    second.1.2 = .ok .done ∧
      view second.2 = view first.2 ∧
      second.1.1.adapters = first.1.1.adapters ∧
      second.1.1.observer.watched = first.1.1.observer.watched := by
  intro first second
  have ready := Adapter.prepare_eq_ok_iff.2 ⟨read, compiled⟩
  obtain ⟨done, ⟨observer, after, watched, -⟩, holds⟩ :=
    run_connect found installs has ready world
  have known' : first.1.1.find? name = some
      { known with
        adapter := { known.adapter with applied := some config } } := by
    rw [after]
    exact find?_replace found (name_of_find? found)
  have watching : interface ∈ first.1.1.observer.watched := by
    rw [after]
    exact (watched interface).2 (Or.inr rfl)
  obtain ⟨again, ⟨observer', after', -, same⟩, still⟩ :=
    run_connect known' installs has ready first.2
  -- The adapter has the document applied already.
  rw [replace_of_find? known'] at after' same
  refine ⟨⟨done, holds, known', ?_⟩, again, ?_, ?_, ?_⟩
  · rw [after]
    exact watched
  · rw [still, holds]
    exact Installation.connected_connected _ _ _ _
  · rw [after']
  · rw [after']
    exact same watching

/-! ## Everything in memory -/

/-- Ask for an entry that must not be in one of the lists of a world yet. -/
def insertInto {World Entry : Type} [DecidableEq Entry]
    (entries : World → List Entry) (store : List Entry → World → World)
    (entry : Entry) : StateM World (Except Error Unit) := fun world =>
  match Rehearsal.World.insertEntry entry (entries world) with
  | .error error => (.error error, world)
  | .ok listed => (.ok (), store listed world)

section Lists

variable {World Entry Other : Type} [DecidableEq Entry]
  {entries : World → List Entry} {store : List Entry → World → World}

theorem run_insertInto_absent {entry : Entry} {world : World}
    (absent : entry ∉ entries world) :
    (insertInto entries store entry).run world =
      (.ok (), store (entries world ++ [entry]) world) := by
  rw [StateT.run, insertInto, Rehearsal.World.insertEntry, if_neg absent]

theorem run_insertInto_present {entry : Entry} {world : World}
    (present : entry ∈ entries world) :
    (insertInto entries store entry).run world =
      (.error (Error.ofErrno Errno.entryExists), world) := by
  rw [StateT.run, insertInto, Rehearsal.World.insertEntry, if_pos present]

/-- A list into which entries are inserted like this is a set. -/
theorem isCollection_insertInto {others : World → Other}
    (entry : Prefix → Entry)
    (stored : ∀ listed world, entries (store listed world) = listed)
    (kept : ∀ listed world, others (store listed world) = others world) :
    Network.IsCollection (fun world => {found | found ∈ entries world})
      others entry fun network => insertInto entries store (entry network)
    where
  inserts network world absent := by
    rw [run_insertInto_absent absent]
    refine ⟨rfl, Set.ext fun found => ?_⟩
    rw [Set.mem_ofPred_eq, stored, List.mem_append, List.mem_singleton,
      Set.mem_insert_iff, or_comm]
    rfl
  repeats network world present := by
    rw [run_insertInto_present present]
    exact ⟨⟨_, rfl, rfl⟩, rfl⟩
  keeps network world := by
    by_cases present : entry network ∈ entries world
    · rw [run_insertInto_present present]
    · rw [run_insertInto_absent present]
      exact kept _ _

end Lists

/-- A driver that keeps one image, and tables that are lists. -/
structure Memory where
  image : Option (List UInt8) := none
  state : AdapterState := .down
  addresses : List AddressEntry := []
  routes : List RouteEntry := []

def Memory.view (memory : Memory) : Installation where
  image := memory.image
  state := memory.state
  addresses := {entry | entry ∈ memory.addresses}
  routes := {entry | entry ∈ memory.routes}

/-- The willing backend, with a memory of what it was asked for. -/
def mindful : Backend (StateM Memory) where
  loadDriver := return .ok ⟨0⟩
  driver driver :=
    { (willing.driver driver).lift fun operation memory =>
        ((operation.run ()).1, memory) with
      setState := fun _ state memory => (.ok (), { memory with state })
      setConfiguration := fun _ image memory =>
        (.ok (), { memory with image := some image }) }
  table :=
    { addAddress := fun interface network =>
        insertInto Memory.addresses
          (fun addresses memory => { memory with addresses })
          { interface, network }
      addresses := fun memory => (.ok memory.addresses, memory)
      deleteAddress := fun _ => return .ok ()
      addRoute := fun interface destination =>
        insertInto Memory.routes
          (fun routes memory => { memory with routes })
          { interface, destination, metric := 0 }
      routes := fun memory => (.ok memory.routes, memory)
      deleteRoute := fun _ => return .ok () }
  monitor := { subscribe := return .ok 1, status := fun _ => return .ok .up }
  entropy := return (willing.entropy.run ()).1
  meanwhile observer := return observer

theorem installs_mindful :
    mindful.Installs ⟨0⟩ ⟨1⟩ ⟨1⟩ Memory.view where
  configures _ _ := ⟨rfl, rfl⟩
  raises _ := ⟨rfl, rfl⟩
  identifies := leaves_pure rfl
  addresses := isCollection_insertInto _ (fun _ _ => rfl) fun _ _ => rfl
  routes := isCollection_insertInto _ (fun _ _ => rfl) fun _ _ => rfl
  subscribes := leaves_pure ⟨1, rfl⟩
  reads _ := leaves_pure trivial
  beside _ := leaves_pure ⟨[], nofun, rfl⟩

/-- A configuration with one address twice and one network three times. -/
def emphatic : Config :=
  let address := Prefix.host (.ipv4 ⟨[10, 0, 0, 1], rfl⟩)
  let network := Prefix.everything .ipv4
  { interface := { addresses := [address, address] }
    peers :=
      [{ allowedIps := [network, network] }, { allowedIps := [network] }] }

def emphaticDocument : String :=
  "[Interface]\nAddress = 10.0.0.1/32, 10.0.0.1/32\n" ++
    "[Peer]\nAllowedIPs = 0.0.0.0/0, 0.0.0.0/0\n" ++
    "[Peer]\nAllowedIPs = 0.0.0.0/0\n"

/-- The service with one adapter, which has not been connected. -/
def fresh : Service where
  adapters := [{ driver := ⟨0⟩, adapter := Adapter.ofHandle "wg0" ⟨1⟩ }]

/-- The network that is listed three times has one route. -/
theorem routes_connected_emphatic (image : List UInt8) :
    ((Memory.view {}).connected ⟨1⟩ emphatic image).routes =
      {{ interface := ⟨1⟩, destination := .everything .ipv4, metric := 0 }} := by
  ext entry
  rw [Installation.mem_routes_connected]
  simp [Memory.view, emphatic, Installation.route]

theorem connect_installs_emphatic :
    let image := Image.octets emphatic
    let first := (fresh.connect mindful "wg0" emphaticDocument).run {}
    let second :=
      (first.1.1.connect mindful "wg0" emphaticDocument).run first.2
    Config.parse emphaticDocument = .ok emphatic ∧
      Image.compile emphatic = .ok image ∧
      mindful.Installs ⟨0⟩ ⟨1⟩ ⟨1⟩ Memory.view ∧
      first.1.2 = .ok .done ∧
      first.2.view = (Memory.view {}).connected ⟨1⟩ emphatic image ∧
      first.2.view.routes =
        {{ interface := ⟨1⟩, destination := .everything .ipv4, metric := 0 }} ∧
      second.1.2 = .ok .done ∧ second.2.view = first.2.view := by
  have read : Config.parse emphaticDocument = .ok emphatic := by
    decide +kernel
  have compiled : Image.compile emphatic = .ok (Image.octets emphatic) :=
    Image.compile_of_fit ⟨by decide, by decide⟩
  have found : fresh.find? "wg0" = some
      { driver := ⟨0⟩, adapter := Adapter.ofHandle "wg0" ⟨1⟩ } := rfl
  obtain ⟨⟨done, holds, -⟩, again, still, -⟩ :=
    connect_installs found installs_mindful rfl read compiled {}
  have routed := congrArg Installation.routes holds
  rw [routes_connected_emphatic] at routed
  exact ⟨read, compiled, installs_mindful, done, holds, routed, again, still⟩

end Service

end Tunnel
