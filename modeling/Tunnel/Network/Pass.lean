import Tunnel.Network.Table

/-!
# Passes over the tables

An add pass asks for entries one by one: an entry that is there already
counts as added, and the first other failure ends the pass.  A removal pass
lists a table and asks to delete every entry of one interface: an entry that
is gone already counts as removed, and other failures are collected while the
pass goes on.
-/

namespace Tunnel.Network

/-- What an entry of a pass is. -/
inductive EntryKind
  | address
  | route
deriving DecidableEq

def EntryKind.name : EntryKind → String
  | .address => "address"
  | .route => "route"

/-- The plural, for listings. -/
def EntryKind.plural : EntryKind → String
  | .address => "addresses"
  | .route => "routes"

/-- What became of one entry. -/
inductive Step
  | added (kind : EntryKind) (network : Prefix)
  | alreadyPresent (kind : EntryKind) (network : Prefix)
  | removed (kind : EntryKind) (network : Prefix)
  | alreadyGone (kind : EntryKind) (network : Prefix)
deriving DecidableEq

/-- The line of a summary. -/
def Step.describe : Step → String
  | .added kind network => s!"added {kind.name} {network}"
  | .alreadyPresent kind network => s!"{kind.name} {network} already present"
  | .removed kind network => s!"removed {kind.name} {network}"
  | .alreadyGone kind network => s!"{kind.name} {network} already gone"

/-- The entry was changed, rather than found as it should be. -/
def Step.isChange : Step → Bool
  | .added _ _ | .removed _ _ => true
  | .alreadyPresent _ _ | .alreadyGone _ _ => false

/-- An entry that could not be removed. -/
structure PassFailure where
  kind : EntryKind
  network : Prefix
  error : Error
deriving DecidableEq

/-- What was being done. -/
def PassFailure.operation (failure : PassFailure) : String :=
  s!"removing {failure.kind.name} {failure.network}"

/-- The wording of a failure. -/
def PassFailure.message (failure : PassFailure) : String :=
  failure.operation ++ ": " ++ failure.error.message

/-- The outcome of a pass. -/
structure Pass where
  steps : List Step := []
  failures : List PassFailure := []
deriving DecidableEq

namespace Pass

/-- How many entries were added or removed. -/
def changes (pass : Pass) : Nat :=
  pass.steps.countP Step.isChange

/-- Every entry is as it should be. -/
def isSuccess (pass : Pass) : Bool :=
  pass.failures.isEmpty

/-- One line for each entry that is as it should be. -/
def summary (pass : Pass) : List String :=
  pass.steps.map Step.describe

/-- The summary as one text. -/
def summaryText (pass : Pass) : String :=
  if pass.steps.isEmpty then "No changes made"
  else "\n".intercalate pass.summary

/-- A pass with one more step at its front. -/
def withStep (step : Step) (pass : Pass) : Pass :=
  { pass with steps := step :: pass.steps }

/-- A pass with one more failure at its front. -/
def withFailure (failure : PassFailure) (pass : Pass) : Pass :=
  { pass with failures := failure :: pass.failures }

end Pass

/-! ## Adding -/

variable {m : Type → Type} [Monad m]

/-- Ask for entries in order, up to the first failure. -/
def addAll (kind : EntryKind) (add : Prefix → m (Except Error Unit)) :
    List Prefix → m (Except Error Pass)
  | [] => return .ok {}
  | network :: rest => do
      match ← add network with
      | .ok () =>
          let pass ← addAll kind add rest
          return pass.map (Pass.withStep (.added kind network))
      | .error error =>
          if error.isAlreadyExists then
            let pass ← addAll kind add rest
            return pass.map (Pass.withStep (.alreadyPresent kind network))
          else
            let context := s!"adding {kind.name} {network}"
            return .error (error.withContext context)

/-- Give an interface addresses. -/
def addAddresses (table : RouteTable m) (interface : InterfaceId)
    (networks : List Prefix) : m (Except Error Pass) :=
  addAll .address (table.addAddress interface) networks

/-- Route networks through an interface. -/
def addRoutes (table : RouteTable m) (interface : InterfaceId)
    (networks : List Prefix) : m (Except Error Pass) :=
  addAll .route (table.addRoute interface) networks

/-! ## Removing -/

/-- Ask to delete entries in order, whatever the answers are. -/
def removeEach {Entry : Type} (kind : EntryKind) (network : Entry → Prefix)
    (delete : Entry → m (Except Error Unit)) : List Entry → m Pass
  | [] => return {}
  | entry :: rest => do
      let answer ← delete entry
      let pass ← removeEach kind network delete rest
      match answer with
      | .ok () => return pass.withStep (.removed kind (network entry))
      | .error error =>
          if error.isNotFound then
            return pass.withStep (.alreadyGone kind (network entry))
          else
            return pass.withFailure
              { kind, network := network entry, error }

/-- List a table and delete the entries that are wanted gone. -/
def removeOwned {Entry : Type} (kind : EntryKind)
    (owned : Entry → Bool) (network : Entry → Prefix)
    (list : m (Except Error (List Entry)))
    (delete : Entry → m (Except Error Unit)) :
    m (Except Error Pass) := do
  match ← list with
  | .error error =>
      return .error (error.withContext s!"listing {kind.plural}")
  | .ok entries =>
      let pass ← removeEach kind network delete (entries.filter owned)
      return .ok pass

/-- Delete every address of an interface. -/
def removeAllAddresses (table : RouteTable m) (interface : InterfaceId) :
    m (Except Error Pass) :=
  removeOwned .address (·.interface = interface) (·.network)
    table.addresses table.deleteAddress

/-- Delete every route through an interface. -/
def removeAllRoutes (table : RouteTable m) (interface : InterfaceId) :
    m (Except Error Pass) :=
  removeOwned .route (·.interface = interface) (·.destination)
    table.routes table.deleteRoute

end Tunnel.Network
