import Tunnel.Proofs.Address.Portless
import Tunnel.Proofs.Config.Meaning

/-!
# The port of a peer's endpoint

An `Endpoint` entry of a document that can be read has an address and a port,
with the address in brackets or not.  A port cannot be left out: an entry that
has the text of an address keeps the document from being read, unless the last
group of that address can be taken for a port.
-/

namespace Tunnel.Config

section Entries

variable {document : String} {block : Block} {entry : Entry}
  (inside : block ∈ documentBlocks document.toList)
  (peer : block.name = "Peer".toList) (line : entry ∈ block.entries)
  (key : entry.key = "Endpoint".toList)

include inside peer line key

/-- Each endpoint of a document that can be read spells one. -/
theorem exists_isEndpointText {config : Config}
    (read : parse document = .ok config) :
    ∃ endpoint, IsEndpointText entry.value endpoint := by
  have good := exists_parseText_iff.1 ⟨config, mapError_eq_ok_iff.1 read⟩
  exact ((good block inside).2 peer entry line).endpoint key

/--
An endpoint of a document that can be read names its port, after an address
in brackets or after the last colon.  A document cannot be read if it has the
text of an address for an endpoint, with one exception: an IPv6 address that
leaves out groups and ends in further groups, the last of them decimal, is read
as the shorter address without its last group, and that as the port.
-/
theorem endpoint_names_port :
    (∀ config, parse document = .ok config →
      ∃ host port address word,
        (entry.value = '[' :: (host ++ ']' :: ':' :: port) ∨
          entry.value = host ++ ':' :: port ∧ ':' ∉ port) ∧
        IpAddress.ofText? host = some address ∧
        Numeral.word16? port = some word ∧
        IsEndpointText entry.value (.ofAddress address word)) ∧
    ∀ address, IpAddress.ofText? entry.value = some address →
      (¬ IpAddress.LooksPorted entry.value →
        ∃ error, parse document = .error error) ∧
      (IpAddress.LooksPorted entry.value →
        ∃ host port octets word, entry.value = host ++ ':' :: port ∧
          ':' ∉ port ∧ IpAddress.ofText? host = some (.ipv6 octets) ∧
          Numeral.word16? port = some word ∧
          IsEndpointText entry.value (.ipv6 octets word 0 0)) := by
  refine ⟨fun config read => ?_, fun address spelled => ⟨fun plain => ?_,
    fun looks => Endpoint.exists_ofText?_of_looksPorted spelled looks⟩⟩
  · obtain ⟨endpoint, found⟩ :=
      exists_isEndpointText inside peer line key read
    obtain ⟨host, port, address, word, cut, hostRead, portRead, rfl⟩ :=
      Endpoint.ofText?_eq_some_iff.1 found
    exact ⟨host, port, address, word, Endpoint.shape_of_hostAndPort? cut,
      hostRead, portRead, found⟩
  · cases read : parse document with
    | error error => exact ⟨error, rfl⟩
    | ok config =>
        obtain ⟨endpoint, found⟩ :=
          exists_isEndpointText inside peer line key read
        exact absurd (Endpoint.looksPorted_of_ofText? spelled found) plain

end Entries

/-- A section of one peer that has an endpoint and nothing else. -/
def endpointBlock (value : String) : Block :=
  ⟨"Peer".toList, [⟨"Endpoint".toList, value.toList⟩]⟩

/-- An address without a port is refused, and another is cut in two. -/
theorem endpoint_names_port_addresses :
    endpointBlock "2001:db8::7:c0de" ∈
        documentBlocks "[Peer]\nEndpoint = 2001:db8::7:c0de\n".toList ∧
      (∃ error, parse "[Peer]\nEndpoint = 2001:db8::7:c0de\n" =
        .error error) ∧
      endpointBlock "2001:db8::7:443" ∈
        documentBlocks "[Peer]\nEndpoint = 2001:db8::7:443\n".toList ∧
      ∃ host port octets word, "2001:db8::7:443".toList = host ++ ':' :: port ∧
        ':' ∉ port ∧ IpAddress.ofText? host = some (.ipv6 octets) ∧
        Numeral.word16? port = some word ∧
        IsEndpointText "2001:db8::7:443".toList (.ipv6 octets word 0 0) := by
  have refused : endpointBlock "2001:db8::7:c0de" ∈
      documentBlocks "[Peer]\nEndpoint = 2001:db8::7:c0de\n".toList := by
    decide +kernel
  have taken : endpointBlock "2001:db8::7:443" ∈
      documentBlocks "[Peer]\nEndpoint = 2001:db8::7:443\n".toList := by
    decide +kernel
  obtain ⟨whole, spelled⟩ := Option.isSome_iff_exists.1
    (show (IpAddress.ofText? "2001:db8::7:c0de".toList).isSome = true by
      decide +kernel)
  obtain ⟨other, spelledOther⟩ := Option.isSome_iff_exists.1
    (show (IpAddress.ofText? "2001:db8::7:443".toList).isSome = true by
      decide +kernel)
  have plain : ¬ IpAddress.LooksPorted "2001:db8::7:c0de".toList := by
    intro looks
    obtain ⟨_, _, _, _, -, -, -, -, read⟩ :=
      Endpoint.exists_ofText?_of_looksPorted spelled looks
    have unread : Endpoint.ofText? "2001:db8::7:c0de".toList = none := by
      decide +kernel
    rw [unread] at read
    cases read
  have looks : IpAddress.LooksPorted "2001:db8::7:443".toList :=
    ⟨"2001:db8".toList, ['7'], ['4', '4', '3'], rfl, List.cons_ne_nil _ _,
      List.cons_ne_nil _ _, List.all_eq_true.1 rfl⟩
  exact ⟨refused,
    ((endpoint_names_port refused rfl List.mem_cons_self rfl).2 whole
      spelled).1 plain,
    taken,
    ((endpoint_names_port taken rfl List.mem_cons_self rfl).2 other
      spelledOther).2 looks⟩

/--
The text `::1:80` is an address, and a document that has it for an endpoint is
read as if it had the address `::1` and the port 80.
-/
theorem endpoint_cuts_address :
    (IpAddress.ofText? "::1:80".toList).isSome = true ∧
      documentBlocks "[Peer]\nEndpoint = ::1:80\n".toList =
        [endpointBlock "::1:80"] ∧
      parse "[Peer]\nEndpoint = ::1:80\n" =
        .ok { peers := [{ endpoint := some (.ipv6
          ⟨List.replicate 15 0 ++ [1], rfl⟩ 80 0 0) }] } := by
  decide +kernel

end Tunnel.Config
