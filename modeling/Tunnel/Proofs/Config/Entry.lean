import Tunnel.Proofs.Config.Value

/-!
# Entries of a section

The entries of a section set the fields of an interface or of a peer one after
the other.  Each field takes a step of its own at each entry, so that what a
whole section does to a field is told by its entries alone: an optional field
has the value of the last entry of its name, and a list has the values of all
its entries, in order.
-/

namespace Tunnel.Config

/-- A line with an equals sign: the texts on either side of it. -/
structure Entry where
  key : List Char
  value : List Char
deriving DecidableEq

/-- The local interface after some entries. -/
def Interface.setAll (interface : Interface) (entries : List Entry) :
    Except Fault Interface :=
  entries.foldlM
    (fun interface entry => interface.set entry.key entry.value) interface

/-- A peer after some entries. -/
def Peer.setAll (peer : Peer) (entries : List Entry) : Except Fault Peer :=
  entries.foldlM (fun peer entry => peer.set entry.key entry.value) peer

section Fields

variable {α σ : Type}

/-! ## What entries say about a field -/

/-- An optional field has the value of the last entry of its name. -/
def IsLastValue (name : String) (Spells : List Char → α → Prop)
    (entries : List Entry) : Option α → Prop
  | none => ∀ entry ∈ entries, entry.key ≠ name.toList
  | some result =>
      ∃ before value after,
        entries = before ++ ⟨name.toList, value⟩ :: after ∧
          (∀ entry ∈ after, entry.key ≠ name.toList) ∧
          Spells value result

/-- A list has the prefixes of all entries of its name, in order. -/
def IsConcatenation (name : String) (entries : List Entry)
    (networks : List Prefix) : Prop :=
  ∃ lists,
    List.Forall₂ (fun entry list => IsNetworksText entry.value list)
      (entries.filter (·.key = name.toList)) lists ∧
      networks = lists.flatten

/-! ## Steps of a field -/

/--
The step of an optional field: an entry of its name gives it the value that
the entry spells, and any other entry leaves it.
-/
def Sets (name : String) (Spells : List Char → α → Prop) (entry : Entry)
    (old new : Option α) : Prop :=
  if entry.key = name.toList then
    ∃ result, Spells entry.value result ∧ new = some result
  else new = old

/-- The step of a list: an entry of its name adds the prefixes it spells. -/
def Extends (name : String) (entry : Entry) (old new : List Prefix) :
    Prop :=
  if entry.key = name.toList then
    ∃ networks, IsNetworksText entry.value networks ∧ new = old ++ networks
  else new = old

/-- A field before and after some entries, with a step at each. -/
def Run (Step : Entry → σ → σ → Prop) : List Entry → σ → σ → Prop
  | [], old, new => new = old
  | entry :: rest, old, new =>
      ∃ middle, Step entry old middle ∧ Run Step rest middle new

theorem exists_sets_iff {name : String} {Spells : List Char → α → Prop}
    {entry : Entry} {old : Option α} :
    (∃ new, Sets name Spells entry old new) ↔
      (entry.key = name.toList → ∃ result, Spells entry.value result) := by
  unfold Sets
  by_cases named : entry.key = name.toList
  · simp [named]
  · simp [named]

theorem exists_extends_iff {name : String} {entry : Entry}
    {old : List Prefix} :
    (∃ new, Extends name entry old new) ↔
      (entry.key = name.toList →
        ∃ networks, IsNetworksText entry.value networks) := by
  unfold Extends
  by_cases named : entry.key = name.toList
  · simp [named]
  · simp [named]

/-! ## Runs of a field -/

theorem isLastValue_cons_none {name : String}
    {Spells : List Char → α → Prop} {entry : Entry} {rest : List Entry} :
    IsLastValue name Spells (entry :: rest) none ↔
      entry.key ≠ name.toList ∧ IsLastValue name Spells rest none := by
  simp [IsLastValue]

theorem isLastValue_cons_some {name : String}
    {Spells : List Char → α → Prop} {entry : Entry} {rest : List Entry}
    {result : α} :
    IsLastValue name Spells (entry :: rest) (some result) ↔
      IsLastValue name Spells rest (some result) ∨
        (IsLastValue name Spells rest none ∧ entry.key = name.toList ∧
          Spells entry.value result) := by
  constructor
  · rintro ⟨before, value, after, whole, absent, spelled⟩
    rcases before with _ | ⟨first, before⟩
    · cases whole
      exact Or.inr ⟨absent, rfl, spelled⟩
    · cases whole
      exact Or.inl ⟨before, value, after, rfl, absent, spelled⟩
  · rintro (⟨before, value, after, rfl, absent, spelled⟩ |
      ⟨absent, named, spelled⟩)
    · exact ⟨entry :: before, value, after, rfl, absent, spelled⟩
    · refine ⟨[], entry.value, rest, ?_, absent, spelled⟩
      rw [← named]
      rfl

/-- An optional field after entries that all spell what they must. -/
theorem run_sets_iff {name : String} {Spells : List Char → α → Prop}
    {entries : List Entry} {old new : Option α} :
    Run (Sets name Spells) entries old new ↔
      (∀ entry ∈ entries, entry.key = name.toList →
        ∃ result, Spells entry.value result) ∧
      ((∃ result, new = some result ∧
          IsLastValue name Spells entries (some result)) ∨
        IsLastValue name Spells entries none ∧ new = old) := by
  induction entries generalizing old with
  | nil => simp [Run, IsLastValue]
  | cons entry rest ih =>
      simp only [Run, ih, List.forall_mem_cons, isLastValue_cons_some,
        isLastValue_cons_none]
      by_cases named : entry.key = name.toList
      · simp only [Sets, ne_eq, named, not_true, false_and,
          or_false, true_and, forall_const]
        constructor
        · rintro ⟨middle, ⟨result, spelled, rfl⟩, spell, later | last⟩
          · obtain ⟨final, rfl, isLast⟩ := later
            exact ⟨⟨⟨result, spelled⟩, spell⟩, final, rfl, Or.inl isLast⟩
          · obtain ⟨absent, rfl⟩ := last
            exact ⟨⟨⟨result, spelled⟩, spell⟩, result, rfl,
              Or.inr ⟨absent, spelled⟩⟩
        · rintro ⟨⟨⟨other, spelled⟩, spell⟩, final, rfl, later | last⟩
          · exact ⟨some other, ⟨other, spelled, rfl⟩, spell,
              Or.inl ⟨final, rfl, later⟩⟩
          · exact ⟨some final, ⟨final, last.2, rfl⟩, spell,
              Or.inr ⟨last.1, rfl⟩⟩
      · simp [Sets, named]

theorem run_sets_none_iff {name : String} {Spells : List Char → α → Prop}
    {entries : List Entry} {new : Option α} :
    Run (Sets name Spells) entries none new ↔
      (∀ entry ∈ entries, entry.key = name.toList →
        ∃ result, Spells entry.value result) ∧
      IsLastValue name Spells entries new := by
  rw [run_sets_iff]
  refine and_congr_right fun _ => ?_
  cases new with
  | none => simp
  | some result => simp

theorem run_extends_iff {name : String} {entries : List Entry}
    {old new : List Prefix} :
    Run (Extends name) entries old new ↔
      ∃ networks, IsConcatenation name entries networks ∧
        new = old ++ networks := by
  induction entries generalizing old with
  | nil => simp [Run, IsConcatenation]
  | cons entry rest ih =>
      simp only [Run, ih]
      by_cases named : entry.key = name.toList
      · have kept : (entry :: rest).filter (·.key = name.toList) =
            entry :: rest.filter (·.key = name.toList) :=
          List.filter_cons_of_pos (decide_eq_true named)
        simp only [Extends, if_pos named, IsConcatenation, kept,
          List.forall₂_cons_left_iff]
        constructor
        · rintro ⟨middle, ⟨first, spelled, rfl⟩, others, ⟨lists, each, rfl⟩,
            rfl⟩
          exact ⟨first ++ lists.flatten,
            ⟨first :: lists, ⟨first, lists, spelled, each, rfl⟩, rfl⟩,
            List.append_assoc _ _ _⟩
        · rintro ⟨networks, ⟨all, ⟨first, lists, spelled, each, rfl⟩, rfl⟩,
            rfl⟩
          exact ⟨old ++ first, ⟨first, spelled, rfl⟩, lists.flatten,
            ⟨lists, each, rfl⟩, (List.append_assoc _ _ _).symm⟩
      · simp only [Extends, if_neg named, IsConcatenation]
        simp [named]

/-- A list starts empty, so it has what the entries of its name spell. -/
theorem run_extends_nil_iff {name : String} {entries : List Entry}
    {new : List Prefix} :
    Run (Extends name) entries [] new ↔
      (∀ entry ∈ entries, entry.key = name.toList →
        ∃ networks, IsNetworksText entry.value networks) ∧
      IsConcatenation name entries new := by
  have described : Run (Extends name) entries [] new ↔
      IsConcatenation name entries new := by
    simp [run_extends_iff]
  rw [described, iff_and_self]
  rintro ⟨lists, each, -⟩ entry member named
  have kept : entry ∈ entries.filter (·.key = name.toList) :=
    List.mem_filter.2 ⟨member, decide_eq_true named⟩
  obtain ⟨networks, -, spelled⟩ := exists_of_forall₂ each kept
  exact ⟨networks, spelled⟩

end Fields

/-! ## The local interface -/

/-- An entry that the local interface can be set by, or that it ignores. -/
structure Interface.Accepts (entry : Entry) : Prop where
  privateKey : entry.key = "PrivateKey".toList →
    ∃ key, IsKeyText entry.value key
  publicKey : entry.key = "PublicKey".toList →
    ∃ key, IsKeyText entry.value key
  listenPort : entry.key = "ListenPort".toList →
    ∃ word, IsWordText entry.value word
  addresses : entry.key = "Address".toList →
    ∃ networks, IsNetworksText entry.value networks

/-- The local interface that entries describe. -/
structure Interface.IsDescribed (entries : List Entry)
    (interface : Interface) : Prop where
  privateKey :
    IsLastValue "PrivateKey" IsKeyText entries interface.privateKey
  publicKey : IsLastValue "PublicKey" IsKeyText entries interface.publicKey
  listenPort :
    IsLastValue "ListenPort" IsWordText entries interface.listenPort
  addresses : IsConcatenation "Address" entries interface.addresses

theorem eq_toList_iff {key : List Char} {name : String} :
    key = name.toList ↔ String.ofList key = name := by
  constructor
  · rintro rfl
    exact String.ofList_toList
  · rintro rfl
    exact String.toList_ofList.symm

/-- Every field of the local interface takes its own step at an entry. -/
theorem Interface.set_eq_ok_iff {interface next : Interface}
    {entry : Entry} :
    interface.set entry.key entry.value = .ok next ↔
      Sets "PrivateKey" IsKeyText entry
          interface.privateKey next.privateKey ∧
        Sets "PublicKey" IsKeyText entry
          interface.publicKey next.publicKey ∧
        Sets "ListenPort" IsWordText entry
          interface.listenPort next.listenPort ∧
        Extends "Address" entry interface.addresses next.addresses := by
  rcases interface with ⟨oldPrivate, oldPublic, oldPort, oldAddresses⟩
  rcases next with ⟨newPrivate, newPublic, newPort, newAddresses⟩
  simp only [Sets, Extends, eq_toList_iff]
  unfold Interface.set
  split
  · simp only [map_eq_ok_iff, keyValue_eq_ok_iff]
    grind
  · simp only [map_eq_ok_iff, keyValue_eq_ok_iff]
    grind
  · simp only [map_eq_ok_iff, numberValue_eq_ok_iff]
    grind
  · simp only [map_eq_ok_iff, networksValue_eq_ok_iff]
    grind
  · grind

/-- The fields of the local interface after entries. -/
theorem Interface.setAll_eq_ok_iff_run {interface final : Interface}
    {entries : List Entry} :
    interface.setAll entries = .ok final ↔
      Run (Sets "PrivateKey" IsKeyText) entries
          interface.privateKey final.privateKey ∧
        Run (Sets "PublicKey" IsKeyText) entries
          interface.publicKey final.publicKey ∧
        Run (Sets "ListenPort" IsWordText) entries
          interface.listenPort final.listenPort ∧
        Run (Extends "Address") entries
          interface.addresses final.addresses := by
  induction entries generalizing interface with
  | nil =>
      constructor
      · intro same
        cases same
        exact ⟨rfl, rfl, rfl, rfl⟩
      · rcases final with ⟨privateKey, publicKey, listenPort, addresses⟩
        rintro ⟨rfl, rfl, rfl, rfl⟩
        rfl
  | cons entry rest ih =>
      rw [Interface.setAll, foldlM_cons_eq_ok_iff]
      constructor
      · rintro ⟨next, first, others⟩
        obtain ⟨privateStep, publicStep, portStep, addressStep⟩ :=
          Interface.set_eq_ok_iff.1 first
        obtain ⟨privateRun, publicRun, portRun, addressRun⟩ := ih.1 others
        exact ⟨⟨_, privateStep, privateRun⟩, ⟨_, publicStep, publicRun⟩,
          ⟨_, portStep, portRun⟩, ⟨_, addressStep, addressRun⟩⟩
      · rintro ⟨⟨privateKey, privateStep, privateRun⟩,
          ⟨publicKey, publicStep, publicRun⟩,
          ⟨listenPort, portStep, portRun⟩,
          ⟨addresses, addressStep, addressRun⟩⟩
        refine ⟨⟨privateKey, publicKey, listenPort, addresses⟩, ?_, ?_⟩
        · exact Interface.set_eq_ok_iff.2
            ⟨privateStep, publicStep, portStep, addressStep⟩
        · exact ih.2 ⟨privateRun, publicRun, portRun, addressRun⟩

theorem Interface.setAll_append_eq_ok_iff {interface final : Interface}
    {front back : List Entry} :
    interface.setAll (front ++ back) = .ok final ↔
      ∃ middle, interface.setAll front = .ok middle ∧
        middle.setAll back = .ok final := by
  rw [Interface.setAll, List.foldlM_append, bind_eq_ok_iff]
  rfl

/-- What entries make of an interface of which nothing is known yet. -/
theorem Interface.setAll_eq_ok_iff {entries : List Entry}
    {interface : Interface} :
    ({} : Interface).setAll entries = .ok interface ↔
      (∀ entry ∈ entries, Interface.Accepts entry) ∧
        Interface.IsDescribed entries interface := by
  rw [Interface.setAll_eq_ok_iff_run, run_sets_none_iff, run_sets_none_iff,
    run_sets_none_iff, run_extends_nil_iff]
  constructor
  · rintro ⟨⟨privateGood, privateKey⟩, ⟨publicGood, publicKey⟩,
      ⟨portGood, listenPort⟩, ⟨addressGood, addresses⟩⟩
    refine ⟨fun entry member => ?_,
      ⟨privateKey, publicKey, listenPort, addresses⟩⟩
    exact ⟨privateGood entry member, publicGood entry member,
      portGood entry member, addressGood entry member⟩
  · rintro ⟨accepted, described⟩
    exact
      ⟨⟨fun entry member => (accepted entry member).privateKey,
          described.privateKey⟩,
        ⟨fun entry member => (accepted entry member).publicKey,
          described.publicKey⟩,
        ⟨fun entry member => (accepted entry member).listenPort,
          described.listenPort⟩,
        ⟨fun entry member => (accepted entry member).addresses,
          described.addresses⟩⟩

/-- Whether an entry can be read depends on the entry alone. -/
theorem Interface.exists_set_eq_ok_iff {interface : Interface}
    {entry : Entry} :
    (∃ next, interface.set entry.key entry.value = .ok next) ↔
      Interface.Accepts entry := by
  simp only [Interface.set_eq_ok_iff]
  constructor
  · rintro ⟨next, privateStep, publicStep, portStep, addressStep⟩
    exact ⟨exists_sets_iff.1 ⟨_, privateStep⟩,
      exists_sets_iff.1 ⟨_, publicStep⟩, exists_sets_iff.1 ⟨_, portStep⟩,
      exists_extends_iff.1 ⟨_, addressStep⟩⟩
  · intro accepted
    obtain ⟨privateKey, privateStep⟩ := exists_sets_iff.2 accepted.privateKey
    obtain ⟨publicKey, publicStep⟩ := exists_sets_iff.2 accepted.publicKey
    obtain ⟨listenPort, portStep⟩ := exists_sets_iff.2 accepted.listenPort
    obtain ⟨addresses, addressStep⟩ := exists_extends_iff.2 accepted.addresses
    exact ⟨⟨privateKey, publicKey, listenPort, addresses⟩, privateStep,
      publicStep, portStep, addressStep⟩

theorem Interface.exists_setAll_eq_ok_iff {interface : Interface}
    {entries : List Entry} :
    (∃ final, interface.setAll entries = .ok final) ↔
      ∀ entry ∈ entries, Interface.Accepts entry := by
  have each : ∀ (interface : Interface) (entry : Entry),
      (∃ next, interface.set entry.key entry.value = .ok next) ↔
        Interface.Accepts entry :=
    fun _ _ => Interface.exists_set_eq_ok_iff
  exact exists_foldlM_eq_ok_iff each entries interface

/-! ## Peers -/

/-- An entry that a peer can be set by, or that it ignores. -/
structure Peer.Accepts (entry : Entry) : Prop where
  publicKey : entry.key = "PublicKey".toList →
    ∃ key, IsKeyText entry.value key
  presharedKey : entry.key = "PresharedKey".toList →
    ∃ key, IsKeyText entry.value key
  persistentKeepalive : entry.key = "PersistentKeepalive".toList →
    ∃ word, IsWordText entry.value word
  endpoint : entry.key = "Endpoint".toList →
    ∃ endpoint, IsEndpointText entry.value endpoint
  allowedIps : entry.key = "AllowedIPs".toList →
    ∃ networks, IsNetworksText entry.value networks

/-- The peer that the entries of its section describe. -/
structure Peer.IsDescribed (entries : List Entry) (peer : Peer) : Prop where
  publicKey : IsLastValue "PublicKey" IsKeyText entries peer.publicKey
  presharedKey :
    IsLastValue "PresharedKey" IsKeyText entries peer.presharedKey
  persistentKeepalive :
    IsLastValue "PersistentKeepalive" IsWordText entries
      peer.persistentKeepalive
  endpoint : IsLastValue "Endpoint" IsEndpointText entries peer.endpoint
  allowedIps : IsConcatenation "AllowedIPs" entries peer.allowedIps

/-- Every field of a peer takes its own step at an entry. -/
theorem Peer.set_eq_ok_iff {peer next : Peer} {entry : Entry} :
    peer.set entry.key entry.value = .ok next ↔
      Sets "PublicKey" IsKeyText entry peer.publicKey next.publicKey ∧
        Sets "PresharedKey" IsKeyText entry
          peer.presharedKey next.presharedKey ∧
        Sets "PersistentKeepalive" IsWordText entry
          peer.persistentKeepalive next.persistentKeepalive ∧
        Sets "Endpoint" IsEndpointText entry peer.endpoint next.endpoint ∧
        Extends "AllowedIPs" entry peer.allowedIps next.allowedIps := by
  rcases peer with ⟨oldPublic, oldShared, oldSeconds, oldEndpoint, oldIps⟩
  rcases next with ⟨newPublic, newShared, newSeconds, newEndpoint, newIps⟩
  simp only [Sets, Extends, eq_toList_iff]
  unfold Peer.set
  split
  · simp only [map_eq_ok_iff, keyValue_eq_ok_iff]
    grind
  · simp only [map_eq_ok_iff, keyValue_eq_ok_iff]
    grind
  · simp only [map_eq_ok_iff, numberValue_eq_ok_iff]
    grind
  · simp only [map_eq_ok_iff, endpointValue_eq_ok_iff]
    grind
  · simp only [map_eq_ok_iff, networksValue_eq_ok_iff]
    grind
  · grind

/-- The fields of a peer after entries. -/
theorem Peer.setAll_eq_ok_iff_run {peer final : Peer}
    {entries : List Entry} :
    peer.setAll entries = .ok final ↔
      Run (Sets "PublicKey" IsKeyText) entries
          peer.publicKey final.publicKey ∧
        Run (Sets "PresharedKey" IsKeyText) entries
          peer.presharedKey final.presharedKey ∧
        Run (Sets "PersistentKeepalive" IsWordText) entries
          peer.persistentKeepalive final.persistentKeepalive ∧
        Run (Sets "Endpoint" IsEndpointText) entries
          peer.endpoint final.endpoint ∧
        Run (Extends "AllowedIPs") entries
          peer.allowedIps final.allowedIps := by
  induction entries generalizing peer with
  | nil =>
      constructor
      · intro same
        cases same
        exact ⟨rfl, rfl, rfl, rfl, rfl⟩
      · rcases final with ⟨publicKey, sharedKey, seconds, endpoint, ips⟩
        rintro ⟨rfl, rfl, rfl, rfl, rfl⟩
        rfl
  | cons entry rest ih =>
      rw [Peer.setAll, foldlM_cons_eq_ok_iff]
      constructor
      · rintro ⟨next, first, others⟩
        obtain ⟨publicStep, sharedStep, secondsStep, endpointStep,
          ipsStep⟩ := Peer.set_eq_ok_iff.1 first
        obtain ⟨publicRun, sharedRun, secondsRun, endpointRun, ipsRun⟩ :=
          ih.1 others
        exact ⟨⟨_, publicStep, publicRun⟩, ⟨_, sharedStep, sharedRun⟩,
          ⟨_, secondsStep, secondsRun⟩, ⟨_, endpointStep, endpointRun⟩,
          ⟨_, ipsStep, ipsRun⟩⟩
      · rintro ⟨⟨publicKey, publicStep, publicRun⟩,
          ⟨sharedKey, sharedStep, sharedRun⟩,
          ⟨seconds, secondsStep, secondsRun⟩,
          ⟨endpoint, endpointStep, endpointRun⟩, ⟨ips, ipsStep, ipsRun⟩⟩
        refine ⟨⟨publicKey, sharedKey, seconds, endpoint, ips⟩, ?_, ?_⟩
        · exact Peer.set_eq_ok_iff.2
            ⟨publicStep, sharedStep, secondsStep, endpointStep, ipsStep⟩
        · exact ih.2
            ⟨publicRun, sharedRun, secondsRun, endpointRun, ipsRun⟩

/-- What the entries of its section make of a new peer. -/
theorem Peer.setAll_eq_ok_iff {entries : List Entry} {peer : Peer} :
    ({} : Peer).setAll entries = .ok peer ↔
      (∀ entry ∈ entries, Peer.Accepts entry) ∧
        Peer.IsDescribed entries peer := by
  rw [Peer.setAll_eq_ok_iff_run, run_sets_none_iff, run_sets_none_iff,
    run_sets_none_iff, run_sets_none_iff, run_extends_nil_iff]
  constructor
  · rintro ⟨⟨publicGood, publicKey⟩, ⟨sharedGood, sharedKey⟩,
      ⟨secondsGood, seconds⟩, ⟨endpointGood, endpoint⟩, ⟨ipsGood, ips⟩⟩
    refine ⟨fun entry member => ?_,
      ⟨publicKey, sharedKey, seconds, endpoint, ips⟩⟩
    exact ⟨publicGood entry member, sharedGood entry member,
      secondsGood entry member, endpointGood entry member,
      ipsGood entry member⟩
  · rintro ⟨accepted, described⟩
    exact
      ⟨⟨fun entry member => (accepted entry member).publicKey,
          described.publicKey⟩,
        ⟨fun entry member => (accepted entry member).presharedKey,
          described.presharedKey⟩,
        ⟨fun entry member => (accepted entry member).persistentKeepalive,
          described.persistentKeepalive⟩,
        ⟨fun entry member => (accepted entry member).endpoint,
          described.endpoint⟩,
        ⟨fun entry member => (accepted entry member).allowedIps,
          described.allowedIps⟩⟩

theorem Peer.exists_set_eq_ok_iff {peer : Peer} {entry : Entry} :
    (∃ next, peer.set entry.key entry.value = .ok next) ↔
      Peer.Accepts entry := by
  simp only [Peer.set_eq_ok_iff]
  constructor
  · rintro ⟨next, publicStep, sharedStep, secondsStep, endpointStep,
      ipsStep⟩
    exact ⟨exists_sets_iff.1 ⟨_, publicStep⟩,
      exists_sets_iff.1 ⟨_, sharedStep⟩, exists_sets_iff.1 ⟨_, secondsStep⟩,
      exists_sets_iff.1 ⟨_, endpointStep⟩,
      exists_extends_iff.1 ⟨_, ipsStep⟩⟩
  · intro accepted
    obtain ⟨publicKey, publicStep⟩ := exists_sets_iff.2 accepted.publicKey
    obtain ⟨sharedKey, sharedStep⟩ := exists_sets_iff.2 accepted.presharedKey
    obtain ⟨seconds, secondsStep⟩ :=
      exists_sets_iff.2 accepted.persistentKeepalive
    obtain ⟨endpoint, endpointStep⟩ := exists_sets_iff.2 accepted.endpoint
    obtain ⟨ips, ipsStep⟩ := exists_extends_iff.2 accepted.allowedIps
    exact ⟨⟨publicKey, sharedKey, seconds, endpoint, ips⟩, publicStep,
      sharedStep, secondsStep, endpointStep, ipsStep⟩

theorem Peer.exists_setAll_eq_ok_iff {peer : Peer} {entries : List Entry} :
    (∃ final, peer.setAll entries = .ok final) ↔
      ∀ entry ∈ entries, Peer.Accepts entry := by
  have each : ∀ (peer : Peer) (entry : Entry),
      (∃ next, peer.set entry.key entry.value = .ok next) ↔
        Peer.Accepts entry :=
    fun _ _ => Peer.exists_set_eq_ok_iff
  exact exists_foldlM_eq_ok_iff each entries peer

end Tunnel.Config
