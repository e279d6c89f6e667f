import Tunnel.Netlink.Connection
import Tunnel.Proofs.Netlink.Packet

/-!
# Answers belong to sequence numbers

What arrives on a connection may be left over from requests that were given
up, and the system puts packets into datagrams as it likes.  Neither matters
to an exchange: reading datagrams one by one is reading all their packets in a
row (`awaitDump_datagrams`, `awaitAnswer_datagrams`), and of the packets in a
row only those of the request's own sequence number count (`scanDump_own`,
`scanAnswer_own`).

This needs every datagram to be received whole.  A datagram that is wider than
the buffer is cut, and packets that it held are lost
(`dump_of_wideDatagram`).
-/

namespace Tunnel.Netlink

/-! ## Kinds of packets -/

namespace Packet

/-- The packet belongs to the request of a sequence number. -/
def isOf (sequence : UInt32) (packet : Packet) : Bool :=
  packet.header.sequence = sequence

/-- The code of a packet that complains. -/
def code (packet : Packet) : Int :=
  Complaint.signed32 (wordAt 4 packet.payload)

/-- The packet says that a request was carried out. -/
def isAcknowledgement (packet : Packet) : Bool :=
  packet.header.isError && packet.code = 0

/-- The packet says that a request failed. -/
def isRefusal (packet : Packet) : Bool :=
  packet.header.isError && packet.code ≠ 0

/-- The packet is one of the answers of a listing. -/
def isItem (packet : Packet) : Bool :=
  !packet.header.isError && !packet.header.isDone

def toAnswer (packet : Packet) : Answer :=
  { type := packet.header.type, payload := packet.payload }

/-- The packet decides a listing of a sequence number. -/
def endsDump (sequence : UInt32) (packet : Packet) : Bool :=
  packet.isOf sequence && (packet.header.isDone || packet.isRefusal)

/-- The packet decides a request of a sequence number. -/
def endsRequest (sequence : UInt32) (packet : Packet) : Bool :=
  packet.isOf sequence && !packet.isAcknowledgement

/-- The answers to a listing among some packets. -/
def items (sequence : UInt32) (packets : List Packet) : List Answer :=
  (packets.filter fun packet =>
    packet.isOf sequence && packet.isItem).map toAnswer

theorem checkError_payload {packet : Packet} (formed : packet.IsWellFormed)
    (complains : packet.header.isError = true) :
    checkError packet.payload =
      if packet.code = 0 then .ok ()
      else .error (Error.ofErrno packet.code) := by
  have room := formed.complaint complains
  unfold checkError Complaint.read
  rw [if_pos room]
  by_cases zero : packet.code = 0
  · rw [if_pos zero]
    exact if_pos (decide_eq_true zero)
  · rw [if_neg zero]
    exact if_neg fun same => zero (of_decide_eq_true same)

end Packet

/-- A datagram arrives that consists of some packets. -/
def Arrival.ofPackets (packets : List Packet) : Arrival :=
  .datagram (Packet.datagram packets)

/-- Every datagram fits into the buffer, and its packets are well formed. -/
def Receivable (groups : List (List Packet)) : Prop :=
  ∀ group ∈ groups, (Packet.datagram group).length ≤ receiveLimit ∧
    ∀ packet ∈ group, packet.IsWellFormed

instance (groups : List (List Packet)) : Decidable (Receivable groups) :=
  inferInstanceAs (Decidable (∀ group ∈ groups, _))

/-! ## Scanning the packets of a row -/

section Scanning

variable {sequence : UInt32} {packet : Packet} {packets : List Packet}
  {collected : List Answer} {rest others : List (Except Error Packet)}

theorem scanDump_foreign (foreign : packet.isOf sequence = false) :
    scanDump sequence collected (.ok packet :: rest) =
      scanDump sequence collected rest :=
  if_pos (of_decide_eq_false foreign)

theorem scanDump_complaint (own : packet.isOf sequence = true)
    (complains : packet.header.isError = true)
    (formed : packet.IsWellFormed) :
    scanDump sequence collected (.ok packet :: rest) =
      if packet.code = 0 then scanDump sequence collected rest
      else (collected, .failed (Error.ofErrno packet.code)) := by
  rw [scanDump, if_neg (not_not_intro (of_decide_eq_true own)),
    if_pos complains, Packet.checkError_payload formed complains]
  by_cases zero : packet.code = 0
  · rw [if_pos zero, if_pos zero]
  · rw [if_neg zero, if_neg zero]

theorem scanDump_done (own : packet.isOf sequence = true)
    (done : packet.header.isDone = true) :
    scanDump sequence collected (.ok packet :: rest) =
      (collected, .finished collected.reverse) := by
  have calm : ¬ packet.header.isError = true := by
    unfold Header.isDone Header.isError at *
    rw [of_decide_eq_true done]
    decide
  rw [scanDump, if_neg (not_not_intro (of_decide_eq_true own)),
    if_neg calm, if_pos done]

theorem scanDump_item (own : packet.isOf sequence = true)
    (item : packet.isItem = true) :
    scanDump sequence collected (.ok packet :: rest) =
      scanDump sequence (packet.toAnswer :: collected) rest := by
  obtain ⟨calm, more⟩ := Bool.and_eq_true_iff.1 item
  rw [Bool.not_eq_true'] at calm more
  rw [scanDump, if_neg (not_not_intro (of_decide_eq_true own)),
    if_neg (ne_true_of_eq_false calm), if_neg (ne_true_of_eq_false more)]
  rfl

theorem items_cons :
    Packet.items sequence (packet :: packets) =
      (if packet.isOf sequence && packet.isItem then [packet.toAnswer]
        else []) ++ Packet.items sequence packets := by
  unfold Packet.items
  rw [List.filter_cons]
  split <;> rfl

/-- A packet that does not decide a listing may add an answer to it. -/
theorem scanDump_pass (formed : packet.IsWellFormed)
    (quiet : packet.endsDump sequence = false) :
    scanDump sequence collected (.ok packet :: rest) =
      scanDump sequence
        ((if packet.isOf sequence && packet.isItem then [packet.toAnswer]
          else []) ++ collected) rest := by
  cases own : packet.isOf sequence with
  | false => exact scanDump_foreign own
  | true =>
      rw [Packet.endsDump, own, Bool.true_and, Bool.or_eq_false_iff] at quiet
      obtain ⟨more, granted⟩ := quiet
      cases complains : packet.header.isError with
      | true =>
          have zero : packet.code = 0 := by
            simpa [Packet.isRefusal, complains] using granted
          have other : packet.isItem = false := by
            rw [Packet.isItem, complains]
            rfl
          rw [scanDump_complaint own complains formed, if_pos zero, other]
          rfl
      | false =>
          have item : packet.isItem = true := by
            rw [Packet.isItem, complains, more]
            rfl
          rw [scanDump_item own item, item]
          rfl

/-- Packets that do not decide a listing add their answers to it. -/
theorem scanDump_quiet (formed : ∀ packet ∈ packets, packet.IsWellFormed)
    (quiet : ∀ packet ∈ packets, packet.endsDump sequence = false) :
    scanDump sequence collected (packets.map .ok ++ rest) =
      scanDump sequence
        ((Packet.items sequence packets).reverse ++ collected) rest := by
  induction packets generalizing collected with
  | nil => rfl
  | cons packet packets ih =>
      obtain ⟨first, formed⟩ := List.forall_mem_cons.1 formed
      obtain ⟨silent, quiet⟩ := List.forall_mem_cons.1 quiet
      rw [List.map_cons, List.cons_append, scanDump_pass first silent,
        ih formed quiet, items_cons, List.reverse_append, List.append_assoc]
      congr 2
      split <;> rfl

/-- Only packets of the request's own number count for a listing. -/
theorem scanDump_own :
    scanDump sequence collected (packets.map .ok) =
      scanDump sequence collected
        ((packets.filter (·.isOf sequence)).map .ok) := by
  induction packets generalizing collected with
  | nil => rfl
  | cons packet packets ih =>
      cases own : packet.isOf sequence with
      | false =>
          rw [List.filter_cons_of_neg (ne_true_of_eq_false own), ← ih]
          exact scanDump_foreign own
      | true =>
          rw [List.filter_cons_of_pos own, List.map_cons, List.map_cons,
            scanDump, scanDump]
          simp only [ih]

/-- Where reading a row was left, reading its continuation goes on. -/
theorem scanDump_append :
    scanDump sequence collected (rest ++ others) =
      match scanDump sequence collected rest with
      | (collected, .unfinished) => scanDump sequence collected others
      | decided => decided := by
  induction rest generalizing collected with
  | nil => rfl
  | cons packet rest ih =>
      cases packet with
      | error error => rfl
      | ok packet =>
          rw [List.cons_append, scanDump, scanDump]
          split
          · exact ih
          split
          · split
            · rfl
            · exact ih
          split
          · rfl
          · exact ih

/-! ### Requests with one answer -/

theorem scanAnswer_foreign (foreign : packet.isOf sequence = false) :
    scanAnswer sequence (.ok packet :: rest) = scanAnswer sequence rest :=
  if_pos (of_decide_eq_false foreign)

theorem scanAnswer_complaint (own : packet.isOf sequence = true)
    (complains : packet.header.isError = true)
    (formed : packet.IsWellFormed) :
    scanAnswer sequence (.ok packet :: rest) =
      if packet.code = 0 then scanAnswer sequence rest
      else .failed (Error.ofErrno packet.code) := by
  rw [scanAnswer, if_neg (not_not_intro (of_decide_eq_true own)),
    if_pos complains, Packet.checkError_payload formed complains]
  by_cases zero : packet.code = 0
  · rw [if_pos zero, if_pos zero]
  · rw [if_neg zero, if_neg zero]

theorem scanAnswer_answer (own : packet.isOf sequence = true)
    (calm : packet.header.isError = false) :
    scanAnswer sequence (.ok packet :: rest) = .finished packet.toAnswer := by
  rw [scanAnswer, if_neg (not_not_intro (of_decide_eq_true own)),
    if_neg (ne_true_of_eq_false calm)]
  rfl

/-- Packets that do not decide a request leave no trace. -/
theorem scanAnswer_quiet (formed : ∀ packet ∈ packets, packet.IsWellFormed)
    (quiet : ∀ packet ∈ packets, packet.endsRequest sequence = false) :
    scanAnswer sequence (packets.map .ok ++ rest) =
      scanAnswer sequence rest := by
  induction packets with
  | nil => rfl
  | cons packet packets ih =>
      obtain ⟨first, formed⟩ := List.forall_mem_cons.1 formed
      obtain ⟨silent, quiet⟩ := List.forall_mem_cons.1 quiet
      have later := ih formed quiet
      rw [List.map_cons, List.cons_append]
      cases own : packet.isOf sequence with
      | false => rw [scanAnswer_foreign own, later]
      | true =>
          rw [Packet.endsRequest, own, Bool.true_and, Bool.not_eq_false',
            Packet.isAcknowledgement, Bool.and_eq_true_iff] at silent
          obtain ⟨complains, zero⟩ := silent
          rw [scanAnswer_complaint own complains first,
            if_pos (of_decide_eq_true zero), later]

/-- Only packets of the request's own number count for a request. -/
theorem scanAnswer_own :
    scanAnswer sequence (packets.map .ok) =
      scanAnswer sequence
        ((packets.filter (·.isOf sequence)).map .ok) := by
  induction packets with
  | nil => rfl
  | cons packet packets ih =>
      cases own : packet.isOf sequence with
      | false =>
          rw [List.filter_cons_of_neg (ne_true_of_eq_false own), ← ih]
          exact scanAnswer_foreign own
      | true =>
          rw [List.filter_cons_of_pos own, List.map_cons, List.map_cons,
            scanAnswer, scanAnswer]
          simp only [ih]

theorem scanAnswer_append :
    scanAnswer sequence (rest ++ others) =
      match scanAnswer sequence rest with
      | .unfinished => scanAnswer sequence others
      | decided => decided := by
  induction rest with
  | nil => rfl
  | cons packet rest ih =>
      cases packet with
      | error error => rfl
      | ok packet =>
          rw [List.cons_append, scanAnswer, scanAnswer]
          split
          · exact ih
          split
          · split
            · rfl
            · exact ih
          · rfl

end Scanning

/-! ## Reading datagrams -/

/-- What an exchange gives that goes on with something when it has to. -/
def Progress.conclude {α : Type} (onward : Except Error α) :
    Progress α → Except Error α
  | .finished result => .ok result
  | .failed error => .error error
  | .unfinished => onward

section Datagrams

variable {sequence : UInt32} {groups others : List (List Packet)}
  {collected : List Answer} {later : List Arrival}

theorem Receivable.readAll {group : List Packet}
    (received : Receivable (group :: groups)) :
    Packet.readAll ((Packet.datagram group).take receiveLimit) =
      group.map .ok := by
  obtain ⟨fits, formed⟩ := received group List.mem_cons_self
  rw [List.take_of_length_le fits, Packet.readAll_datagram formed]

theorem Receivable.tail {group : List Packet}
    (received : Receivable (group :: groups)) : Receivable groups :=
  (List.forall_mem_cons.1 received).2

theorem Receivable.formed (received : Receivable groups) :
    ∀ packet ∈ groups.flatten, packet.IsWellFormed := by
  intro packet member
  obtain ⟨group, inGroups, inGroup⟩ := List.mem_flatten.1 member
  exact (received group inGroups).2 packet inGroup

/-- Reading datagrams for a listing is reading their packets in a row. -/
theorem awaitDump_datagrams (received : Receivable groups) :
    (awaitDump sequence collected
        (groups.map Arrival.ofPackets ++ later)).1 =
      let row := scanDump sequence collected (groups.flatten.map .ok)
      row.2.conclude (awaitDump sequence row.1 later).1 := by
  dsimp only
  induction groups generalizing collected with
  | nil => rfl
  | cons group groups ih =>
      rw [List.map_cons, List.cons_append, Arrival.ofPackets, awaitDump,
        received.readAll, List.flatten_cons, List.map_append,
        scanDump_append]
      rcases scanDump sequence collected (group.map .ok) with
        ⟨collected, answers | error | _⟩
      · rfl
      · rfl
      -- Only a row that decides nothing lets the next datagram be read.
      · exact ih received.tail

/-- Reading datagrams for one answer is reading their packets in a row. -/
theorem awaitAnswer_datagrams (received : Receivable groups) :
    (awaitAnswer sequence (groups.map Arrival.ofPackets ++ later)).1 =
      (scanAnswer sequence (groups.flatten.map .ok)).conclude
        (awaitAnswer sequence later).1 := by
  induction groups with
  | nil => rfl
  | cons group groups ih =>
      rw [List.map_cons, List.cons_append, Arrival.ofPackets, awaitAnswer,
        received.readAll, List.flatten_cons, List.map_append,
        scanAnswer_append]
      rcases scanAnswer sequence (group.map .ok) with answer | error | _
      · rfl
      · rfl
      · exact ih received.tail

end Datagrams

/-! ## Exchanges -/

namespace Connection

/-- The connection when packets arrive on it in groups, and then other things. -/
def hearing (connection : Connection) (groups : List (List Packet))
    (later : List Arrival) : Connection :=
  { connection with incoming := groups.map Arrival.ofPackets ++ later }

variable {connection : Connection} {request : Request} {sequence : UInt32}
  {groups : List (List Packet)} {later : List Arrival}

theorem send_hearing :
    (connection.hearing groups later).send request =
      ((connection.send request).1,
        (connection.send request).2.hearing groups later) := by
  unfold send
  dsimp only [hearing]
  split <;> rfl

/-- An exchange whose request was sent is decided by what arrives. -/
theorem exchange_hearing {α : Type}
    (await : UInt32 → List Arrival → Except Error α × List Arrival)
    (sent : (connection.send request).1 = .ok sequence) :
    (exchange await (connection.hearing groups later) request).1 =
      (await sequence (groups.map Arrival.ofPackets ++ later)).1 := by
  unfold exchange
  rw [send_hearing, sent]
  rfl

theorem dump_hearing (sent : (connection.send request).1 = .ok sequence)
    (received : Receivable groups) :
    ((connection.hearing groups later).dump request).1 =
      let row := scanDump sequence [] (groups.flatten.map .ok)
      row.2.conclude (awaitDump sequence row.1 later).1 := by
  rw [dump, exchange_hearing _ sent, awaitDump_datagrams received]

theorem request_hearing (sent : (connection.send request).1 = .ok sequence)
    (received : Receivable groups) :
    ((connection.hearing groups later).request request).1 =
      (scanAnswer sequence (groups.flatten.map .ok)).conclude
        (awaitAnswer sequence later).1 := by
  rw [Connection.request, exchange_hearing _ sent,
    awaitAnswer_datagrams received]

end Connection

section Decisions

variable {sequence : UInt32} {last : Packet} {before after : List Packet}

/-- A listing ends with the first packet that decides it. -/
theorem scanDump_ends
    (formed : ∀ packet ∈ before ++ last :: after, packet.IsWellFormed)
    (quiet : ∀ packet ∈ before, packet.endsDump sequence = false)
    (ends : last.endsDump sequence = true) :
    (scanDump sequence [] ((before ++ last :: after).map .ok)).2 =
      if last.header.isDone then .finished (Packet.items sequence before)
      else .failed (Error.ofErrno last.code) := by
  rw [List.forall_mem_append, List.forall_mem_cons] at formed
  obtain ⟨formed, first, -⟩ := formed
  obtain ⟨own, kind⟩ := Bool.and_eq_true_iff.1 ends
  rw [List.map_append, List.map_cons, scanDump_quiet formed quiet]
  cases done : last.header.isDone with
  | true =>
      rw [scanDump_done own done, List.append_nil, List.reverse_reverse]
      rfl
  | false =>
      rw [done, Bool.false_or, Packet.isRefusal, Bool.and_eq_true_iff]
        at kind
      rw [scanDump_complaint own kind.1 first,
        if_neg (of_decide_eq_true kind.2)]
      rfl

/-- A request ends with the first packet that decides it. -/
theorem scanAnswer_ends
    (formed : ∀ packet ∈ before ++ last :: after, packet.IsWellFormed)
    (quiet : ∀ packet ∈ before, packet.endsRequest sequence = false)
    (ends : last.endsRequest sequence = true) :
    scanAnswer sequence ((before ++ last :: after).map .ok) =
      if last.header.isError then .failed (Error.ofErrno last.code)
      else .finished last.toAnswer := by
  rw [List.forall_mem_append, List.forall_mem_cons] at formed
  obtain ⟨formed, first, -⟩ := formed
  obtain ⟨own, kind⟩ := Bool.and_eq_true_iff.1 ends
  rw [List.map_append, List.map_cons, scanAnswer_quiet formed quiet]
  cases complains : last.header.isError with
  | true =>
      have code : last.code ≠ 0 := by
        simpa [Packet.isAcknowledgement, complains] using kind
      rw [scanAnswer_complaint own complains first, if_neg code]
      rfl
  | false =>
      rw [scanAnswer_answer own complains]
      rfl

end Decisions

/--
A request that was sent is decided by the packets of its own sequence number,
in whatever datagrams they arrive.  A listing ends with the first of them that
says so, with the answers before it, and a request for one answer ends with
the first of them that is no acknowledgement; a refusal ends both with its
code.  Other packets among them, and other datagrams for the same packets,
change neither outcome.
-/
theorem decided_by_own_packets {connection : Connection} {request : Request}
    {sequence : UInt32} {groups : List (List Packet)} {later : List Arrival}
    (sent : (connection.send request).1 = .ok sequence)
    (received : Receivable groups) :
    (∀ before last after, groups.flatten = before ++ last :: after →
      (∀ packet ∈ before, packet.endsDump sequence = false) →
      last.endsDump sequence = true →
        ((connection.hearing groups later).dump request).1 =
          if last.header.isDone then .ok (Packet.items sequence before)
          else .error (Error.ofErrno last.code)) ∧
    (∀ before last after, groups.flatten = before ++ last :: after →
      (∀ packet ∈ before, packet.endsRequest sequence = false) →
      last.endsRequest sequence = true →
        ((connection.hearing groups later).request request).1 =
          if last.header.isError then .error (Error.ofErrno last.code)
          else .ok last.toAnswer) ∧
    (∀ others, Receivable others →
      others.flatten.filter (·.isOf sequence) =
        groups.flatten.filter (·.isOf sequence) →
      ((connection.hearing others later).dump request).1 =
          ((connection.hearing groups later).dump request).1 ∧
        ((connection.hearing others later).request request).1 =
          ((connection.hearing groups later).request request).1) := by
  have formed := received.formed
  refine ⟨?_, ?_, ?_⟩
  · intro before last after row quiet ends
    rw [row] at formed
    have decided := scanDump_ends formed quiet ends
    rw [Connection.dump_hearing sent received, row]
    dsimp only
    rw [decided]
    split <;> rfl
  · intro before last after row quiet ends
    rw [row] at formed
    have decided := scanAnswer_ends formed quiet ends
    rw [Connection.request_hearing sent received, row, decided]
    split <;> rfl
  · intro others otherReceived same
    constructor
    · rw [Connection.dump_hearing sent received,
        Connection.dump_hearing sent otherReceived, scanDump_own, same,
        ← scanDump_own]
    · rw [Connection.request_hearing sent received,
        Connection.request_hearing sent otherReceived, scanAnswer_own, same,
        ← scanAnswer_own]

/-! ## Leftovers -/

/-- A packet of some type that gives its own length. -/
def Packet.of (type : UInt16) (sequence : UInt32) (payload : List UInt8) :
    Packet where
  header :=
    { length := UInt32.ofNat (headerSize + payload.length)
      type
      flags := 0
      sequence
      port := 4242 }
  payload

theorem Packet.isWellFormed_of {type : UInt16} {sequence : UInt32}
    {payload : List UInt8}
    (fits : headerSize + payload.length < 2 ^ 32)
    (calm : (Packet.of type sequence payload).header.isError = false) :
    (Packet.of type sequence payload).IsWellFormed where
  length := UInt32.toNat_ofNat_of_lt' fits
  complaint complains := Bool.noConfusion (calm.symm.trans complains)

/-- A packet that refuses or acknowledges, with the code in 32 bits. -/
def Packet.complaining (sequence : UInt32) (code : Nat) : Packet :=
  .of PacketType.error sequence (littleEndian 4 code ++ List.replicate 16 0)

/-- A connection that has not sent anything, and a request to list addresses. -/
def freshConnection : Connection := { port := 4242 }

def listing : Request := .dump PacketType.getAddress

/--
The refusal of an earlier request is still queued, and the end of its listing
stands in one datagram with an answer.
-/
def leftovers : List (List Packet) :=
  [[.complaining 7 0xFFFFFFFF, .complaining 1 0],
    [.of PacketType.newAddress 1 [10], .of PacketType.done 7 []],
    [.of PacketType.newAddress 7 [20], .of PacketType.newAddress 1 [30],
      .of PacketType.done 1 [0, 0, 0, 0]]]

theorem decided_by_own_packets_leftovers :
    (freshConnection.send listing).1 = .ok 1 ∧ Receivable leftovers ∧
      ((freshConnection.hearing leftovers []).dump listing).1 =
        .ok [⟨PacketType.newAddress, [10]⟩, ⟨PacketType.newAddress, [30]⟩] ∧
      ((freshConnection.hearing leftovers []).request listing).1 =
        .ok ⟨PacketType.newAddress, [10]⟩ ∧
      ((freshConnection.hearing [leftovers.flatten] []).dump listing).1 =
        ((freshConnection.hearing leftovers []).dump listing).1 := by
  have sent : (freshConnection.send listing).1 = .ok 1 := rfl
  have received : Receivable leftovers := by decide
  have whole : Receivable [leftovers.flatten] := by decide +kernel
  obtain ⟨listed, answered, regrouped⟩ :=
    @decided_by_own_packets freshConnection listing 1 leftovers [] sent
      received
  refine ⟨sent, received, ?_, ?_, ?_⟩
  · exact listed (leftovers.flatten.take 6) _ [] rfl (by decide) (by decide)
  · exact answered (leftovers.flatten.take 2) _ _ rfl (by decide) (by decide)
  · exact (regrouped _ whole (by decide)).1

/-! ## Datagrams wider than the buffer -/

section Wide

variable {connection : Connection} {request : Request} {sequence : UInt32}
  {wide last : Packet}

/-- Of a datagram that is too wide the packets in the buffer are received. -/
theorem take_wideDatagram
    (full : align (headerSize + wide.payload.length) = receiveLimit) :
    (Packet.datagram [wide, last]).take receiveLimit =
      Packet.datagram [wide] := by
  have alone : Packet.datagram [wide] = wide.toOctets := List.append_nil _
  rw [alone]
  exact List.take_left' (wide.length_toOctets.trans full)

/-- What stands behind a packet that fills the buffer is never read. -/
theorem dump_hearing_wide
    (sent : (connection.send request).1 = .ok sequence)
    (full : align (headerSize + wide.payload.length) = receiveLimit)
    (formed : wide.IsWellFormed) (foreign : wide.isOf sequence = false) :
    ((connection.hearing [[wide, last]] []).dump request).1 =
      .error (systemFault Errno.inputOutput) := by
  rw [Connection.dump, Connection.exchange_hearing _ sent]
  show (awaitDump sequence []
    [.datagram (Packet.datagram [wide, last])]).1 = _
  rw [awaitDump, take_wideDatagram full,
    Packet.readAll_datagram (List.forall_mem_singleton.2 formed),
    List.map_singleton, scanDump_foreign foreign]
  rfl

end Wide

/-- A packet that fills the buffer, and the end of a listing. -/
def widePacket : Packet :=
  .of PacketType.newAddress 7 (List.replicate 32752 0)

def lastPacket : Packet :=
  .of PacketType.done 1 [0, 0, 0, 0]

theorem length_widePacket : widePacket.payload.length = 32752 :=
  List.length_replicate

theorem isWellFormed_widePacket : widePacket.IsWellFormed :=
  Packet.isWellFormed_of (by rw [List.length_replicate]; decide) rfl

/--
The end of a listing is lost when another packet stands before it in a
datagram that is too wide, and the listing waits for more; in a datagram of
its own the end is found.
-/
theorem dump_of_wideDatagram :
    (∀ packet ∈ [widePacket, lastPacket], packet.IsWellFormed) ∧
      (freshConnection.send listing).1 = .ok 1 ∧
      widePacket.isOf 1 = false ∧ lastPacket.endsDump 1 = true ∧
      lastPacket.header.isDone = true ∧
      ((freshConnection.hearing [[widePacket, lastPacket]] []).dump
          listing).1 =
        .error (systemFault Errno.inputOutput) ∧
      ((freshConnection.hearing [[lastPacket]] []).dump listing).1 =
        .ok [] := by
  have sent : (freshConnection.send listing).1 = .ok 1 := rfl
  have foreign : widePacket.isOf 1 = false := rfl
  have full : align (headerSize + widePacket.payload.length) =
      receiveLimit := by
    rw [length_widePacket]
    rfl
  have received : Receivable [[lastPacket]] := by decide
  refine ⟨?_, sent, foreign, rfl, rfl, ?_, ?_⟩
  · exact List.forall_mem_cons.2 ⟨isWellFormed_widePacket, by decide⟩
  · exact dump_hearing_wide sent full isWellFormed_widePacket foreign
  · rw [Connection.dump_hearing sent received]
    rfl

end Tunnel.Netlink
