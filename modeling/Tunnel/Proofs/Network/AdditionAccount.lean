import Tunnel.Proofs.Network.Addition

/-!
# What add passes report

An add pass asks for networks in their order and goes on as long as the
entries are there, whether they were added or had been there before.  The first
other failure is the last answer that it asks for, and its result, with the
entry named (`IsAddPass`, `yields_addAll_account`).  A pass that asked for all
its networks gives an account of the answers (`IsAdditionAccount`), and over a
table that is a set it can be repeated without effect (`additions_accounted`).
-/

namespace Tunnel

/-! ## Failures with their operation -/

namespace Error

/--
A failure with its operation: the number stays, a plain system error names the
operation, and any other error is as it was.
-/
structure Names (operation : String) (error named : Error) : Prop where
  errno : named.errno = error.errno
  plain : ∀ number message, error = .os number message →
    named = .osWithContext operation number message
  other : (∀ number message, error ≠ .os number message) → named = error

theorem names_withContext (operation : String) (error : Error) :
    Names operation error (error.withContext operation) where
  errno := errno_withContext operation error
  plain := by
    rintro number message rfl
    rfl
  other := by
    intro unlike
    cases error with
    | os number message => exact absurd rfl (unlike number message)
    | _ => rfl

end Error

namespace Network

/-- What is said of an entry that is there. -/
def additionLine (kind : EntryKind) (network : Prefix) :
    Except Error Unit → String
  | .ok () => s!"added {kind.name} {network}"
  | .error _ => s!"{kind.name} {network} already present"

section Steps

variable (kind : EntryKind) (network : Prefix) (answer : Except Error Unit)

theorem describe_additionStep :
    (additionStep kind network answer).describe =
      additionLine kind network answer := by
  cases answer <;> rfl

theorem isChange_additionStep :
    (additionStep kind network answer).isChange = answer.isOk := by
  cases answer <;> rfl

end Steps

/-! ## Accounts -/

/--
A pass accounts for the answers to the networks that it asked for.  No failure
is left, the additions that succeeded are counted, and each network has its
line, in order.
-/
structure IsAdditionAccount (kind : EntryKind) (networks : List Prefix)
    (answers : List (Except Error Unit)) (pass : Pass) : Prop where
  failures : pass.failures = []
  changes : pass.changes = answers.countP Except.isOk
  summary : pass.summary =
    List.zipWith (additionLine kind) networks answers

theorem IsAdditionAccount.cons {kind : EntryKind} {networks : List Prefix}
    {answers : List (Except Error Unit)} {pass : Pass}
    (account : IsAdditionAccount kind networks answers pass)
    (network : Prefix) (answer : Except Error Unit) :
    IsAdditionAccount kind (network :: networks) (answer :: answers)
      (pass.withStep (additionStep kind network answer)) where
  failures := account.failures
  changes := by
    have others := account.changes
    unfold Pass.changes at others ⊢
    rw [Pass.withStep, List.countP_cons, List.countP_cons, others,
      isChange_additionStep]
  summary := by
    have others := account.summary
    unfold Pass.summary at others ⊢
    rw [Pass.withStep, List.map_cons, others, describe_additionStep]
    rfl

/-! ## Passes -/

section Pass

variable {World Event : Type} (kind : EntryKind)
  (addition : Prefix → Except Error Unit → Event)

/--
The calls of an add pass, and what it gives.  Either every network was asked
for and is there, and the pass accounts for the answers; or one network was
denied after those before it had been asked for and were there, none after it
was asked for, and the failure that denied it is given with its name.
-/
inductive IsAddPass (networks : List Prefix) :
    Except Error Pass → List Event → Prop
  | finished (answers pass)
      (complete : answers.length = networks.length)
      (there : ∀ answer ∈ answers, IsThere answer)
      (account : IsAdditionAccount kind networks answers pass) :
      IsAddPass networks (.ok pass)
        (List.zipWith addition networks answers)
  | stopped (before network after answers error named)
      (asked : networks = before ++ network :: after)
      (complete : answers.length = before.length)
      (there : ∀ answer ∈ answers, IsThere answer)
      (denied : ¬ error.IsPresent)
      (names : error.Names s!"adding {kind.name} {network}" named) :
      IsAddPass networks (.error named)
        (List.zipWith addition before answers ++
          [addition network (.error error)])

/-- After an entry that is there a pass goes on as if it began. -/
theorem IsAddPass.cons {kind : EntryKind}
    {addition : Prefix → Except Error Unit → Event} {networks : List Prefix}
    {result : Except Error Pass} {calls : List Event}
    {answer : Except Error Unit}
    (onward : IsAddPass kind addition networks result calls)
    (network : Prefix) (there : IsThere answer) :
    IsAddPass kind addition (network :: networks)
      (result.map (Pass.withStep (additionStep kind network answer)))
      (addition network answer :: calls) := by
  cases onward with
  | finished answers pass complete others account =>
      exact .finished (answer :: answers) _ (congrArg (· + 1) complete)
        (List.forall_mem_cons.2 ⟨there, others⟩)
        (account.cons network answer)
  | stopped before last after answers error named asked complete others
      denied names =>
      exact .stopped (network :: before) last after (answer :: answers)
        error named (congrArg (network :: ·) asked)
        (congrArg (· + 1) complete)
        (List.forall_mem_cons.2 ⟨there, others⟩) denied names

/-- Networks are asked for in order, up to the first that is denied. -/
theorem yields_addAll_account
    {add : Prefix → StateM (Recorded World Event) (Except Error Unit)}
    (asks : ∀ network, Yields (add network) fun answer calls =>
      calls = [addition network answer])
    (networks : List Prefix) :
    Yields (addAll kind add networks)
      (IsAddPass kind addition networks) := by
  induction networks with
  | nil =>
      exact yields_pure (.finished [] {} rfl nofun ⟨rfl, rfl, rfl⟩)
  | cons network rest ih =>
      refine (asks network).bind ?_
      rintro answer _ rfl
      have goesOn (there : IsThere answer) :
          Yields (addAll kind add rest >>= fun result =>
              pure (result.map
                (Pass.withStep (additionStep kind network answer))))
            fun result calls =>
              IsAddPass kind addition (network :: rest) result
                ([addition network answer] ++ calls) := by
        refine ih.bind fun result calls onward => ?_
        refine yields_pure ?_
        rw [List.append_nil]
        exact onward.cons network there
      rcases answer with error | _
      · dsimp only
        split
        · next present =>
            exact goesOn (Error.isAlreadyExists_iff_isPresent.1 present)
        · next absent =>
            rw [Error.isAlreadyExists_iff_isPresent] at absent
            exact yields_pure (.stopped [] network rest [] error _ rfl rfl
              nofun absent (Error.names_withContext _ error))
      · exact goesOn trivial

end Pass

/--
Whatever tables answer, a pass that gives an interface addresses asks for them
in order up to the first that is denied, and either fails as that one did or
accounts for all the answers.  Where the addresses are a set, a pass that
succeeds leaves every one that it was given, and a second pass changes nothing.
The same holds of the routes.
-/
theorem additions_accounted {World Event Other : Type}
    (note : RouteTable.Event → Event) (table : RouteTable (StateM World))
    (interface : InterfaceId) (networks : List Prefix)
    (addresses : World → Set AddressEntry)
    (routes : World → Set RouteEntry) (others : World → Other) :
    (Yields (addAddresses (table.recorded note) interface networks)
        (IsAddPass .address
          (fun network answer =>
            note (.addressAdded interface network answer))
          networks) ∧
      (IsEntrySet addresses others
          (fun network => { interface, network })
          (table.addAddress interface) →
        IsRepeatable addresses others
          (fun network => { interface, network }) networks
          (addAddresses table interface networks))) ∧
    (Yields (addRoutes (table.recorded note) interface networks)
        (IsAddPass .route
          (fun destination answer =>
            note (.routeAdded interface destination answer))
          networks) ∧
      (IsEntrySet routes others
          (fun destination => { interface, destination, metric := 0 })
          (table.addRoute interface) →
        IsRepeatable routes others
          (fun destination => { interface, destination, metric := 0 })
          networks (addRoutes table interface networks))) := by
  constructor
  · constructor
    · refine yields_addAll_account .address _ (fun network => ?_) networks
      exact yields_record _ (table.addAddress interface network)
    · intro set
      exact set.isRepeatable .address networks
  · constructor
    · refine yields_addAll_account .route _ (fun network => ?_) networks
      exact yields_record _ (table.addRoute interface network)
    · intro set
      exact set.isRepeatable .route networks

/-! ## A table that refuses -/

/-- Tables that are lists. -/
structure Listed where
  addresses : List AddressEntry := []
  routes : List RouteEntry := []

/-- Put an entry into a list, unless it is there or not wanted. -/
def insertWanted {World Entry : Type} [DecidableEq Entry]
    (entries : World → List Entry) (store : List Entry → World → World)
    (wanted : Entry → Bool) (entry : Entry) :
    StateM World (Except Error Unit) := fun world =>
  if entry ∈ entries world then (.error (Error.ofErrno 17), world)
  else if wanted entry then (.ok (), store (entry :: entries world) world)
  else (.error (Error.ofErrno 22), world)

section InsertWanted

variable {World Entry Other : Type} [DecidableEq Entry]
  {entries : World → List Entry} {store : List Entry → World → World}

/-- An entry is there, is put there, or is refused. -/
theorem run_insertWanted_cases (wanted : Entry → Bool) (entry : Entry)
    (world : World) :
    let after := (insertWanted entries store wanted entry).run world
    (entry ∈ entries world ∧
        after = (.error (Error.ofErrno 17), world)) ∨
      (entry ∉ entries world ∧
        after = (.ok (), store (entry :: entries world) world)) ∨
      (entry ∉ entries world ∧
        after = (.error (Error.ofErrno 22), world)) := by
  dsimp only [insertWanted, StateT.run]
  by_cases present : entry ∈ entries world
  · exact Or.inl ⟨present, if_pos present⟩
  · rw [if_neg present]
    cases wanted entry with
    | true => exact Or.inr (Or.inl ⟨present, rfl⟩)
    | false => exact Or.inr (Or.inr ⟨present, rfl⟩)

/-- A list with entries that are put into it like this is a set. -/
theorem isEntrySet_insertWanted {others : World → Other}
    (wanted : Entry → Bool) (entry : Prefix → Entry)
    (stored : ∀ listed world, entries (store listed world) = listed)
    (kept : ∀ listed world, others (store listed world) = others world) :
    IsEntrySet (fun world => {found | found ∈ entries world}) others entry
      fun network => insertWanted entries store wanted (entry network) where
  inserts network world succeeded := by
    rcases run_insertWanted_cases wanted (entry network) world with
      ⟨-, after⟩ | ⟨-, after⟩ | ⟨-, after⟩ <;> rw [after] at succeeded ⊢
    · cases succeeded
    · rw [stored]
      exact Set.ext fun found => List.mem_cons
    · cases succeeded
  refuses network world error failed := by
    rcases run_insertWanted_cases wanted (entry network) world with
      ⟨-, after⟩ | ⟨-, after⟩ | ⟨-, after⟩ <;> rw [after] at failed ⊢
    cases failed
  mem_iff network world := by
    rcases run_insertWanted_cases wanted (entry network) world with
      ⟨present, after⟩ | ⟨absent, after⟩ | ⟨absent, after⟩ <;> rw [after]
    · exact iff_of_true present ⟨_, rfl, rfl⟩
    · exact iff_of_false absent fun ⟨_, failed, _⟩ => nomatch failed
    · refine iff_of_false absent ?_
      rintro ⟨error, failed, known⟩
      cases failed
      cases known
  keeps network world := by
    rcases run_insertWanted_cases wanted (entry network) world with
      ⟨-, after⟩ | ⟨-, after⟩ | ⟨-, after⟩ <;> rw [after]
    exact kept _ _

end InsertWanted

/-- Tables that refuse networks which hold everything. -/
def choosy : RouteTable (StateM Listed) where
  addAddress interface network :=
    insertWanted Listed.addresses
      (fun addresses listed => { listed with addresses })
      (·.network.length ≠ 0) { interface, network }
  addresses listed := (.ok listed.addresses, listed)
  deleteAddress _ := return .ok ()
  addRoute interface destination :=
    insertWanted Listed.routes (fun routes listed => { listed with routes })
      (·.destination.length ≠ 0) { interface, destination, metric := 0 }
  routes listed := (.ok listed.routes, listed)
  deleteRoute _ := return .ok ()

theorem isEntrySet_choosy (interface : InterfaceId) :
    IsEntrySet (fun listed : Listed => {entry | entry ∈ listed.addresses})
      Listed.routes (fun network => { interface, network })
      (choosy.addAddress interface) := by
  dsimp only [choosy]
  exact isEntrySet_insertWanted _ _ (fun _ _ => rfl) fun _ _ => rfl

theorem additions_accounted_choosy :
    let near := Prefix.host (.ipv4 ⟨[10, 0, 0, 1], rfl⟩)
    let far := Prefix.host (.ipv4 ⟨[10, 0, 0, 2], rfl⟩)
    let everything := Prefix.everything .ipv4
    let known : Listed :=
      { addresses := [{ interface := ⟨7⟩, network := near }] }
    let first := (addAddresses choosy ⟨7⟩ [far, near, far]).run known
    let second := (addAddresses choosy ⟨7⟩ [far, near, far]).run first.2
    ((choosy.addAddress ⟨7⟩ everything).run known).1 =
        .error (.os 22 "Invalid argument (os error 22)") ∧
      first.1 = .ok
        { steps :=
            [.added .address far, .alreadyPresent .address near,
              .alreadyPresent .address far] } ∧
      { interface := ⟨7⟩, network := far } ∈ first.2.addresses ∧
      (∃ pass, second.1 = .ok pass ∧ pass.changes = 0) ∧
      (∀ entry, entry ∈ second.2.addresses ↔
        entry ∈ first.2.addresses) := by
  intro near far everything known first second
  have passed : first.1 = .ok
      { steps :=
          [.added .address far, .alreadyPresent .address near,
            .alreadyPresent .address far] } := by
    decide +kernel
  obtain ⟨⟨-, repeatable⟩, -⟩ :=
    additions_accounted (id : RouteTable.Event → RouteTable.Event) choosy ⟨7⟩
      [far, near, far] (fun listed => {entry | entry ∈ listed.addresses})
      (fun listed => {entry | entry ∈ listed.routes}) Listed.routes
  obtain ⟨present, pass, again, unchanged, same, -⟩ :=
    repeatable (isEntrySet_choosy ⟨7⟩) known _ passed
  refine ⟨by decide +kernel, passed, ?_, ⟨pass, again, unchanged⟩, ?_⟩
  · exact present far List.mem_cons_self
  · exact Set.ext_iff.1 same

end Network

end Tunnel
