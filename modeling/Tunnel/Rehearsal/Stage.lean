import Tunnel.Rehearsal.World
import Tunnel.Service.Basic

/-!
# A stage for the service

A service works on a world held in memory, with a loader that may fail and
with the schedule of its observer's consumers.
-/

namespace Tunnel.Rehearsal

/-- A world with a loader, and the time of an observer. -/
structure Stage where
  world : World := {}
  /-- Why loading the driver fails, if it does. -/
  loadFault : Option Error := none
  schedule : Watch.Schedule := {}

namespace Stage

/-- Work with the world. -/
def onWorld {α : Type} (act : StateM World α) : StateM Stage α :=
  modifyGet fun stage =>
    let (result, world) := act stage.world
    (result, { stage with world })

/-- Let the consumers of an observer run. -/
def meanwhile (observer : Observer) : StateM Stage Observer := do
  let stage ← get
  let schedule ← onWorld <|
    { stage.schedule with observer }.settle World.monitor World.reading
  modify ({ · with schedule })
  return schedule.observer

/-- The stage as what a service works with. -/
def backend (entropy : Octets 32) : Backend (StateM Stage) where
  loadDriver := do
    match (← get).loadFault with
    | some error => return .error error
    | none => return .ok ⟨0⟩
  driver _ := World.driver.lift onWorld
  table := World.table.lift onWorld
  monitor := World.monitor.lift onWorld
  entropy := return entropy
  meanwhile := meanwhile

end Stage

end Tunnel.Rehearsal
