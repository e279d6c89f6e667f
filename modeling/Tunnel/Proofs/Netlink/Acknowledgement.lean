import Tunnel.Netlink.KernelTable
import Tunnel.Proofs.Netlink.Exchange

/-!
# Acknowledgements

A request that is only acknowledged reads one datagram, and that datagram
decides it: the first packet in it that complains under the request's own
sequence number gives the outcome, and without such a packet the request fails
(`acknowledged_by_first_datagram`).  Packets of other numbers are passed over
inside the datagram, but a datagram of such packets alone is taken for the
whole answer, unlike where an answer or a listing is waited for.

So a datagram that is left over from an earlier request costs the next request
its acknowledgement, which is then left over in turn.  From there on every
request fails, each for the datagram that answered the one before
(`acknowledgeAll_lags`).
-/

namespace Tunnel.Netlink

/-! ## The packet that decides -/

namespace Packet

/-- The packet decides an acknowledged request of a sequence number. -/
def endsAcknowledgement (sequence : UInt32) (packet : Packet) : Bool :=
  packet.isOf sequence && packet.header.isError

/-- What a packet that complains says of its request. -/
def verdict (packet : Packet) : Except Error Unit :=
  if packet.code = 0 then .ok () else .error (Error.ofErrno packet.code)

theorem endsAcknowledgement_of_foreign {sequence : UInt32} {packet : Packet}
    (foreign : packet.isOf sequence = false) :
    packet.endsAcknowledgement sequence = false := by
  rw [endsAcknowledgement, foreign, Bool.false_and]

end Packet

/-- What is said of a datagram that decides nothing. -/
def noAcknowledgement : Error := .invalidMessage "expected ACK message"

section Scanning

variable {sequence : UInt32} {packets before after : List Packet}
  {last : Packet} {rest : List (Except Error Packet)}

/-- Packets that do not decide are passed over. -/
theorem scanAcknowledgement_quiet
    (quiet : ∀ packet ∈ packets,
      packet.endsAcknowledgement sequence = false) :
    scanAcknowledgement sequence (packets.map .ok ++ rest) =
      scanAcknowledgement sequence rest := by
  induction packets with
  | nil => rfl
  | cons packet packets ih =>
      obtain ⟨silent, quiet⟩ := List.forall_mem_cons.1 quiet
      rw [List.map_cons, List.cons_append, scanAcknowledgement, ← ih quiet]
      refine if_neg ?_
      rintro ⟨own, complains⟩
      rw [Packet.endsAcknowledgement, Packet.isOf, decide_eq_true own,
        complains] at silent
      exact Bool.noConfusion silent

/-- A row without a packet that decides is refused. -/
theorem scanAcknowledgement_none
    (quiet : ∀ packet ∈ packets,
      packet.endsAcknowledgement sequence = false) :
    scanAcknowledgement sequence (packets.map .ok) =
      .error noAcknowledgement := by
  rw [← List.append_nil (packets.map _), scanAcknowledgement_quiet quiet]
  rfl

/-- The first packet that decides gives the outcome. -/
theorem scanAcknowledgement_ends (formed : last.IsWellFormed)
    (quiet : ∀ packet ∈ before,
      packet.endsAcknowledgement sequence = false)
    (ends : last.endsAcknowledgement sequence = true) :
    scanAcknowledgement sequence ((before ++ last :: after).map .ok) =
      last.verdict := by
  obtain ⟨own, complains⟩ := Bool.and_eq_true_iff.1 ends
  rw [List.map_append, scanAcknowledgement_quiet quiet, List.map_cons,
    scanAcknowledgement, if_pos ⟨of_decide_eq_true own, complains⟩]
  exact Packet.checkError_payload formed complains

end Scanning

/-! ## One request -/

namespace Connection

variable {connection : Connection} {request : Request} {sequence : UInt32}
  {group : List Packet} {groups : List (List Packet)} {later : List Arrival}

/-- An acknowledged request takes the first datagram and leaves the others. -/
theorem acknowledge_hearing
    (sent : (connection.send request).1 = .ok sequence)
    (received : Receivable (group :: groups)) :
    (connection.hearing (group :: groups) later).acknowledge request =
      (scanAcknowledgement sequence (group.map .ok),
        (connection.send request).2.hearing groups later) := by
  have taken : awaitAcknowledgement sequence
      ((group :: groups).map Arrival.ofPackets ++ later) =
      (scanAcknowledgement sequence (group.map .ok),
        groups.map Arrival.ofPackets ++ later) := by
    rw [← received.readAll]
    rfl
  unfold acknowledge exchange
  rw [send_hearing, sent]
  dsimp only [hearing]
  rw [taken]

end Connection

/-! ## Requests in a row -/

namespace Connection

/-- Send requests in a row, each of which is acknowledged. -/
def acknowledgeAll : List Request → Connection →
    List (Except Error Unit) × Connection
  | [], connection => ([], connection)
  | request :: rest, connection =>
      let (outcome, connection) := connection.acknowledge request
      let (outcomes, connection) := acknowledgeAll rest connection
      (outcome :: outcomes, connection)

/--
Each of some requests is answered in a datagram of its own, where the first
request has some number and the others follow it.
-/
inductive Answered : UInt32 → List Request → List (List Packet) → Prop
  | nil {sequence} : Answered sequence [] []
  | cons {sequence : UInt32} {request : Request} {requests : List Request}
      {group : List Packet} {groups : List (List Packet)}
      (own : ∀ packet ∈ group, packet.isOf sequence = true)
      (others : Answered (sequence + 1) requests groups) :
      Answered sequence (request :: requests) (group :: groups)

theorem send_of_faultless {connection : Connection} (request : Request)
    (faultless : connection.sendFaults = []) :
    (connection.send request).1 = .ok connection.nextSequence ∧
      (connection.send request).2.nextSequence =
        connection.nextSequence + 1 ∧
      (connection.send request).2.sendFaults = [] := by
  unfold send
  rw [faultless]
  exact ⟨rfl, rfl, rfl⟩

/-- A packet of one request does not belong to the next. -/
theorem isOf_next {sequence : UInt32} {packet : Packet}
    (own : packet.isOf sequence = true) :
    packet.isOf (sequence + 1) = false := by
  have same : packet.header.sequence = sequence := of_decide_eq_true own
  refine decide_eq_false fun next => ?_
  simp [same] at next

/--
Behind a datagram that is left over every request fails, whatever its own
answer says, and the last answer is left over in the end.
-/
theorem acknowledgeAll_lags {connection : Connection}
    {requests : List Request} {stale : List Packet}
    {groups : List (List Packet)} {later : List Arrival}
    (faultless : connection.sendFaults = [])
    (foreign : ∀ packet ∈ stale,
      packet.isOf connection.nextSequence = false)
    (answered : Answered connection.nextSequence requests groups)
    (received : Receivable (stale :: groups)) :
    let result :=
      (connection.hearing (stale :: groups) later).acknowledgeAll requests
    result.1 = requests.map (fun _ => .error noAcknowledgement) ∧
      result.2.incoming =
        .ofPackets ((stale :: groups).getLast (List.cons_ne_nil _ _)) ::
          later := by
  generalize number : connection.nextSequence = sequence at *
  induction answered generalizing connection stale with
  | nil => exact ⟨rfl, rfl⟩
  | @cons sequence request requests group groups own others ih =>
      obtain ⟨sent, next, calm⟩ := send_of_faultless request faultless
      rw [number] at sent next
      have quiet := fun packet member =>
        Packet.endsAcknowledgement_of_foreign (foreign packet member)
      -- What answers this request is foreign to the one after it.
      obtain ⟨outcomes, left⟩ := ih calm received.tail next
        fun packet member => isOf_next (own packet member)
      rw [List.getLast_cons (List.cons_ne_nil _ _)]
      dsimp only [acknowledgeAll]
      rw [acknowledge_hearing sent received, scanAcknowledgement_none quiet]
      dsimp only
      rw [outcomes]
      exact ⟨rfl, left⟩

end Connection

/-! ## What decides a request -/

/--
A request that was sent and is only acknowledged is decided by the datagram
that arrives first, whatever comes later: the first packet of the request's own
number that complains gives the outcome, and if there is none the request
fails.
-/
theorem acknowledged_by_first_datagram {connection : Connection}
    {request : Request} {sequence : UInt32} {group : List Packet}
    {later : List Arrival}
    (sent : (connection.send request).1 = .ok sequence)
    (received : Receivable [group]) :
    let result := (connection.hearing [group] later).acknowledge request
    result.2.incoming = later ∧
      (∀ before last after, group = before ++ last :: after →
        (∀ packet ∈ before,
          packet.endsAcknowledgement sequence = false) →
        last.endsAcknowledgement sequence = true →
          result.1 = last.verdict) ∧
      ((∀ packet ∈ group, packet.endsAcknowledgement sequence = false) →
        result.1 = .error noAcknowledgement) := by
  dsimp only
  rw [Connection.acknowledge_hearing sent received]
  refine ⟨rfl, ?_, scanAcknowledgement_none⟩
  intro before last after row quiet ends
  have member : last ∈ group := by
    rw [row]
    exact List.mem_append_right _ List.mem_cons_self
  have formed := (received group List.mem_cons_self).2 last member
  dsimp only
  rw [row]
  exact scanAcknowledgement_ends formed quiet ends

theorem acknowledged_by_first_datagram_leftovers :
    (freshConnection.send listing).1 = .ok 1 ∧
      Receivable [leftovers.flatten.take 2] ∧
      ((freshConnection.hearing [leftovers.flatten.take 2] []).acknowledge
        listing).1 = .ok () := by
  have sent : (freshConnection.send listing).1 = .ok 1 := rfl
  have received : Receivable [leftovers.flatten.take 2] := by decide
  obtain ⟨-, decided, -⟩ :=
    @acknowledged_by_first_datagram freshConnection listing 1
      (leftovers.flatten.take 2) [] sent received
  exact ⟨sent, received,
    decided (leftovers.flatten.take 1) _ [] rfl (by decide) (by decide)⟩

/-- What a listing left behind that broke off, and an acknowledgement. -/
def unread : List Packet :=
  [.of PacketType.newAddress 1 [10], .of PacketType.done 1 [0, 0, 0, 0]]

def granted : List Packet := [.complaining 2 0]

/--
A listing breaks off because the socket lost packets.  The address that is
added next is reported as refused, although the kernel has granted it.
-/
theorem acknowledgement_missed :
    let interface := InterfaceId.ofIndex 3
    let listed := kernelTable.addresses.run
      { port := 4242
        incoming := .fault 105 :: [unread, granted].map .ofPackets }
    let added :=
      (kernelTable.addAddress interface default).run listed.2
    Receivable [unread, granted] ∧
      listed.2.nextSequence = 2 ∧
      (∀ packet ∈ unread, packet.isOf 2 = false) ∧
      (∀ packet ∈ granted,
        packet.endsAcknowledgement 2 = true ∧ packet.verdict = .ok ()) ∧
      listed.1 = .error (systemFault 105) ∧
      added.1 = .error noAcknowledgement := by
  have received : Receivable [unread, granted] := by decide
  have foreign : ∀ packet ∈ unread, packet.isOf 2 = false := by decide
  refine ⟨received, rfl, foreign, by decide, rfl, ?_⟩
  have sent : (({ port := 4242, nextSequence := 2 } : Connection).send
      (addAddressRequest default 3)).1 = .ok 2 := rfl
  have missed := @Connection.acknowledge_hearing _ _ _ _ _ [] sent received
  rw [scanAcknowledgement_none fun packet member =>
    Packet.endsAcknowledgement_of_foreign (foreign packet member)] at missed
  exact congrArg Prod.fst missed

end Tunnel.Netlink
