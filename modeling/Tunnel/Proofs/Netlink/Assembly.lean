import Tunnel.Proofs.Netlink.Attribute

/-!
# Requests that were put together

A request gets its numbers, its family header and its attributes one by one,
the numbers at any time and more than once (`Request.assembled`).  Whatever the
order is, its octets are one packet, whose header has the length of all of them
and the numbers that were given last, and whose attributes are those that were
put in, without the flags of their types and with nothing left behind them
(`assembled_reads_back`).
-/

namespace Tunnel.Netlink.Request

/-! ## Assembly -/

/-- A number for the header of a request. -/
inductive Mark
  | sequence (number : UInt32)
  | port (number : UInt32)

/-- What is done to a request behind its family header. -/
inductive Part
  | mark (mark : Mark)
  | attached (entry : Attribute)

/-- Put a number into the header. -/
def marked (request : Request) : Mark → Request
  | .sequence number => { request with sequence := number }
  | .port number => { request with port := number }

/-- Put a number into the header, or an attribute behind all others. -/
def extended (request : Request) : Part → Request
  | .mark mark => request.marked mark
  | .attached entry => request.withAttribute entry.type entry.value

/--
A request with some numbers, then a family header, then attributes and more
numbers in some order.
-/
def assembled (type flags : UInt16) (early : List Mark)
    (header : List UInt8) (late : List Part) : Request :=
  let numbered := early.foldl marked { type, flags }
  late.foldl extended (numbered.append header)

namespace Part

def sequence? : Part → Option UInt32
  | .mark (.sequence number) => some number
  | _ => none

def port? : Part → Option UInt32
  | .mark (.port number) => some number
  | _ => none

def entry? : Part → Option Attribute
  | .attached entry => some entry
  | .mark _ => none

end Part

/-! ## Fields -/

section Fields

variable {α : Type} (field : Request → α) (said : Part → Option α)

/-- A field of the header has what was put into it last. -/
theorem field_foldl_extended
    (law : ∀ request part,
      field (extended request part) = (said part).getD (field request))
    (parts : List Part) (request : Request) :
    field (parts.foldl extended request) =
      ((parts.filterMap said).getLast?).getD (field request) := by
  induction parts generalizing request with
  | nil => rfl
  | cons part parts ih =>
      rw [List.foldl_cons, ih, law]
      cases heard : said part with
      | none => rw [List.filterMap_cons_none heard, Option.getD_none]
      | some value =>
          rw [List.filterMap_cons_some heard, List.getLast?_cons,
            Option.getD_some]
          rfl

/-- What was put in before the family header counts as well. -/
theorem field_assembled
    (law : ∀ request part,
      field (extended request part) = (said part).getD (field request))
    (kept : ∀ request octets, field (append request octets) = field request)
    (type flags : UInt16) (early : List Mark) (header : List UInt8)
    (late : List Part) :
    field (assembled type flags early header late) =
      (((early.map Part.mark ++ late).filterMap said).getLast?).getD
        (field { type, flags }) := by
  have marks (request : Request) : early.foldl marked request =
      (early.map Part.mark).foldl extended request := by
    rw [List.foldl_map]
    rfl
  unfold assembled
  rw [field_foldl_extended field said law, kept, marks,
    field_foldl_extended field said law,
    List.filterMap_append, List.getLast?_append, Option.getD_or]

variable (type flags : UInt16) (early : List Mark) (header : List UInt8)
  (late : List Part)

theorem type_assembled :
    (assembled type flags early header late).type = type := by
  have kept := field_assembled Request.type (fun _ => none)
    (by rintro request ((_ | _) | _) <;> rfl) (fun _ _ => rfl) type flags
    early header late
  simpa using kept

theorem flags_assembled :
    (assembled type flags early header late).flags = flags := by
  have kept := field_assembled Request.flags (fun _ => none)
    (by rintro request ((_ | _) | _) <;> rfl) (fun _ _ => rfl) type flags
    early header late
  simpa using kept

/-- The number of a request is the one that was put in last. -/
theorem sequence_assembled :
    (assembled type flags early header late).sequence =
      ((early.map Part.mark ++ late).filterMap Part.sequence?).getLast?.getD
        0 :=
  field_assembled Request.sequence Part.sequence?
    (by rintro request ((_ | _) | _) <;> rfl) (fun _ _ => rfl) type flags
    early header late

theorem port_assembled :
    (assembled type flags early header late).port =
      ((early.map Part.mark ++ late).filterMap Part.port?).getLast?.getD 0 :=
  field_assembled Request.port Part.port?
    (by rintro request ((_ | _) | _) <;> rfl) (fun _ _ => rfl) type flags
    early header late

end Fields

/-! ## Contents -/

section Contents

variable {request : Request} {header : List UInt8}
  {attributes : List Attribute}

theorem body_marked (mark : Mark) : (request.marked mark).body =
    request.body := by
  cases mark <;> rfl

theorem body_foldl_marked (marks : List Mark) :
    (marks.foldl marked request).body = request.body := by
  induction marks generalizing request with
  | nil => rfl
  | cons mark marks ih => exact ih.trans (body_marked mark)

/-- Attributes that are put in stand behind those that are there, in order. -/
theorem Holds.foldl_extended (holds : request.Holds header attributes)
    (parts : List Part) :
    (parts.foldl extended request).Holds header
      (attributes ++ parts.filterMap Part.entry?) := by
  induction parts generalizing request attributes with
  | nil =>
      rw [List.filterMap_nil, List.append_nil]
      exact holds
  | cons part parts ih =>
      cases part with
      | mark mark =>
          have same : (request.marked mark).Holds header attributes :=
            ⟨(body_marked mark).trans holds.body, holds.aligned⟩
          exact ih same
      | attached entry =>
          have longer := ih (holds.withAttribute entry.type entry.value)
          rwa [List.append_assoc] at longer

theorem holds_assembled (type flags : UInt16) (early : List Mark)
    (aligned : header.length % 4 = 0) (late : List Part) :
    (assembled type flags early header late).Holds header
      (late.filterMap Part.entry?) :=
  (Holds.start (body_foldl_marked early) aligned).foldl_extended late

end Contents

/-! ## Reading back -/

/--
Octets give one packet with some numbers, whose payload is a family header
with attributes behind it: as many octets as its length says, a multiple of
four, and nothing but the attributes behind the family header.
-/
structure ReadsBack (octets : List UInt8) (type flags : UInt16)
    (sequence port : UInt32) (header : List UInt8)
    (attributes : List Attribute) (packet : Packet) : Prop where
  packets : Packet.readAll octets = [.ok packet]
  aligned : octets.length % 4 = 0
  length : packet.header.length.toNat = octets.length
  type : packet.header.type = type
  flags : packet.header.flags = flags
  sequence : packet.header.sequence = sequence
  port : packet.header.port = port
  front : packet.payload.take header.length = header
  rest : Attribute.readThrough (packet.payload.drop header.length) =
    (attributes, [])

/--
A request reads back as it was put together: the numbers are those that were
given last, zero if there was none, and the attributes have lost the flags of
their types.
-/
theorem assembled_reads_back (type flags : UInt16) (early : List Mark)
    (header : List UInt8) (late : List Part)
    (aligned : header.length % 4 = 0)
    (fit : ∀ entry ∈ late.filterMap Part.entry?,
      entry.value.length ≤ 65531)
    (short : (assembled type flags early header late).toOctets.length <
      2 ^ 32) :
    let parts := early.map Part.mark ++ late
    ∃ packet, ReadsBack (assembled type flags early header late).toOctets
      type flags ((parts.filterMap Part.sequence?).getLast?.getD 0)
      ((parts.filterMap Part.port?).getLast?.getD 0) header
      ((late.filterMap Part.entry?).map fun entry =>
        ⟨entry.type &&& 0x3FFF, entry.value⟩)
      packet := by
  have holds := holds_assembled type flags early aligned late
  have whole := holds.length_body_mod
  rw [length_toOctets] at short
  refine ⟨(assembled type flags early header late).toPacket, ?_⟩
  exact {
    packets := readAll_toOctets whole short
    aligned := by
      rw [length_toOctets, length, headerSize]
      omega
    length :=
      (UInt32.toNat_ofNat_of_lt' short).trans (length_toOctets _).symm
    type := type_assembled type flags early header late
    flags := flags_assembled type flags early header late
    sequence := sequence_assembled type flags early header late
    port := port_assembled type flags early header late
    front := by
      show (assembled type flags early header late).body.take _ = _
      rw [holds.body]
      exact List.take_left' rfl
    rest := holds.readThrough_drop fit }

/-- Attributes of three, no and five octets, with numbers between them. -/
def interleaved : List Part :=
  [.attached ⟨0x8001, [10, 0, 0]⟩, .mark (.sequence 7), .attached ⟨3, []⟩,
    .mark (.port 4242), .attached ⟨2, [1, 2, 3, 4, 5]⟩]

theorem assembled_reads_back_interleaved :
    let header : AddressHeader := { family := 2, length := 24, index := 3 }
    let request := assembled PacketType.error RequestFlag.request
      [.sequence 9, .port 1] header.toOctets interleaved
    header.toOctets.length % 4 = 0 ∧
      (∀ entry ∈ interleaved.filterMap Part.entry?,
        entry.value.length ≤ 65531) ∧
      request.toOctets.length = 48 ∧
      ∃ packet, ReadsBack request.toOctets PacketType.error
        RequestFlag.request 7 4242 header.toOctets
        [⟨1, [10, 0, 0]⟩, ⟨3, []⟩, ⟨2, [1, 2, 3, 4, 5]⟩] packet := by
  intro header request
  have aligned : header.toOctets.length % 4 = 0 := by decide
  have fit : ∀ entry ∈ interleaved.filterMap Part.entry?,
      entry.value.length ≤ 65531 := by
    decide
  have size : request.toOctets.length = 48 := by decide
  have short : request.toOctets.length < 2 ^ 32 := by
    rw [size]
    decide
  exact ⟨aligned, fit, size,
    assembled_reads_back PacketType.error RequestFlag.request
      [.sequence 9, .port 1] header.toOctets interleaved aligned fit short⟩

end Tunnel.Netlink.Request
