import Mathlib.Data.Nat.Bitwise
import Tunnel.Image.Compile
import Tunnel.Image.Decode

/-!
# Presence flags

A record says with one bit each which of its optional fields are there.  The
bits of a written record are exactly those of the fields that it holds, so a
field that was written with its flag is read as it was; and a field that was
read under its flag gives that bit of the flags back.
-/

namespace Tunnel.Image

/-! ## Flags of written records -/

/-- The flags of an interface record that holds some of its fields. -/
def interfaceFlags (privateKey publicKey listenPort : Bool) : UInt32 :=
  InterfaceFlag.replacePeers |||
    (if privateKey then InterfaceFlag.hasPrivateKey else 0) |||
    (if publicKey then InterfaceFlag.hasPublicKey else 0) |||
    (if listenPort then InterfaceFlag.hasListenPort else 0)

/-- The flags of a peer record that holds some of its fields. -/
def peerFlags (publicKey presharedKey persistentKeepalive endpoint : Bool) :
    UInt32 :=
  PeerFlag.replaceAllowedIps |||
    (if publicKey then PeerFlag.hasPublicKey else 0) |||
    (if presharedKey then PeerFlag.hasPresharedKey else 0) |||
    (if persistentKeepalive then PeerFlag.hasPersistentKeepalive else 0) |||
    (if endpoint then PeerFlag.hasEndpoint else 0)

theorem flags_interfaceRecord (interface : Config.Interface)
    (count : UInt32) :
    (interfaceRecord interface count).flags =
      interfaceFlags interface.privateKey.isSome interface.publicKey.isSome
        interface.listenPort.isSome :=
  rfl

theorem flags_peerRecord (peer : Config.Peer) (count : UInt32) :
    (peerRecord peer count).flags =
      peerFlags peer.publicKey.isSome peer.presharedKey.isSome
        peer.persistentKeepalive.isSome peer.endpoint.isSome :=
  rfl

/-- An interface record has exactly the bits of its fields. -/
theorem isSet_interfaceFlags : ∀ privateKey publicKey listenPort : Bool,
    let flags := interfaceFlags privateKey publicKey listenPort
    isSet flags InterfaceFlag.hasPrivateKey = privateKey ∧
      isSet flags InterfaceFlag.hasPublicKey = publicKey ∧
      isSet flags InterfaceFlag.hasListenPort = listenPort := by
  decide

/-- A peer record has exactly the bits of its fields. -/
theorem isSet_peerFlags :
    ∀ publicKey presharedKey persistentKeepalive endpoint : Bool,
      let flags :=
        peerFlags publicKey presharedKey persistentKeepalive endpoint
      isSet flags PeerFlag.hasPublicKey = publicKey ∧
        isSet flags PeerFlag.hasPresharedKey = presharedKey ∧
        isSet flags PeerFlag.hasPersistentKeepalive = persistentKeepalive ∧
        isSet flags PeerFlag.hasEndpoint = endpoint := by
  decide

/-! ## Fields under a flag -/

/-- A field that was written with its flag is read as it was. -/
theorem fieldIf_getD {α : Type} {flags flag : UInt32} {field : Option α}
    (agrees : isSet flags flag = field.isSome) (absent : α) :
    fieldIf flags flag (field.getD absent) = field := by
  cases field <;> simp [fieldIf, agrees]

theorem and_or_distrib (flags left right : UInt32) :
    flags &&& (left ||| right) = flags &&& left ||| flags &&& right :=
  UInt32.toBitVec_inj.1 BitVec.and_or_distrib_left

/-- A flag of a single bit is set where this bit is. -/
theorem isSet_eq_testBit {flag : UInt32} {place : Nat}
    (power : flag.toNat = 2 ^ place) (flags : UInt32) :
    isSet flags flag = flags.toNat.testBit place := by
  have nonzero : flags &&& flag ≠ 0 ↔
      flags.toNat.testBit place = true := by
    rw [ne_eq, ← UInt32.toNat_inj, UInt32.toNat_and, power,
      UInt32.toNat_zero, Nat.and_two_pow]
    cases flags.toNat.testBit place <;> simp
  exact Bool.eq_iff_iff.2 (decide_eq_true_iff.trans nonzero)

/-- A single bit of a word is there as a whole or not at all. -/
theorem and_eq_of_bit {flag : UInt32} {place : Nat}
    (power : flag.toNat = 2 ^ place) (flags : UInt32) :
    flags &&& flag = if isSet flags flag then flag else 0 := by
  apply UInt32.toNat_inj.1
  rw [UInt32.toNat_and, power, Nat.and_two_pow, isSet_eq_testBit power]
  cases flags.toNat.testBit place <;> simp [power]

/-- A field that was read under a flag carries that flag. -/
theorem flagIf_fieldIf {α : Type} {flag : UInt32} {place : Nat}
    (power : flag.toNat = 2 ^ place) (flags : UInt32) (value : α) :
    flagIf (fieldIf flags flag value) flag = flags &&& flag := by
  rw [and_eq_of_bit power, flagIf, fieldIf]
  cases isSet flags flag <;> rfl

end Tunnel.Image
