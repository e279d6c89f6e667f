import Tunnel.Address.Ipv6

/-!
# Text of addresses and endpoints

An address is written in the text form of its family.  An endpoint is an
address and a port; an IPv6 address stands in brackets, with its scope when
that is not zero.  An endpoint is read from the bracketed form, or else from
an address and a port around the last colon.
-/

namespace Tunnel

namespace IpAddress

/-- The address that a text spells. -/
def ofText? (text : List Char) : Option IpAddress :=
  let four := (Ipv4.parse? text).bind (Octets.ofList? 4)
  let six := (Ipv6.parse? text).bind (Octets.ofList? 16)
  (four.map ipv4).or (six.map ipv6)

/-- The text of an address. -/
def toText : IpAddress → List Char
  | ipv4 octets => Ipv4.render octets.toList
  | ipv6 octets => Ipv6.render octets.toList

instance : ToString IpAddress where
  toString address := String.ofList address.toText

end IpAddress

namespace Endpoint

/-- The text of an endpoint. -/
def toText : Endpoint → List Char
  | ipv4 address port =>
      Ipv4.render address.toList ++ ':' :: Numeral.decimal port.toNat
  | ipv6 address port _ scope =>
      let zone :=
        if scope = 0 then [] else '%' :: Numeral.decimal scope.toNat
      '[' :: Ipv6.render address.toList ++ zone ++
        ']' :: ':' :: Numeral.decimal port.toNat

/-- The host and the port of an endpoint's text. -/
def hostAndPort? (text : List Char) : Option (List Char × List Char) :=
  match text with
  | '[' :: rest =>
      match Text.splitOnce? ']' rest with
      | some (host, ':' :: port) => some (host, port)
      | _ => none
  | _ => Text.splitLast? ':' text

/-- The endpoint that a text spells. -/
def ofText? (text : List Char) : Option Endpoint := do
  let (host, port) ← hostAndPort? text
  let address ← IpAddress.ofText? host
  let port ← Numeral.word16? port
  return ofAddress address port

instance : ToString Endpoint where
  toString endpoint := String.ofList endpoint.toText

end Endpoint

end Tunnel
