/-!
# Octet strings and words

Binary records are lists of octets.  `Octets n` is an octet string of exactly
`n` octets, so that a key or an address cannot have the wrong size, and
`littleEndian` and `bigEndian` write a number into a fixed count of octets.
-/

namespace Tunnel

/-- A string of exactly `size` octets. -/
structure Octets (size : Nat) where
  toList : List UInt8
  length_toList : toList.length = size
deriving DecidableEq

namespace Octets

@[ext]
theorem ext {size : Nat} {left right : Octets size}
    (equal : left.toList = right.toList) : left = right := by
  cases left
  cases right
  simpa using equal

/-- The string of zeros. -/
def zero (size : Nat) : Octets size where
  toList := List.replicate size 0
  length_toList := List.length_replicate

instance {size : Nat} : Inhabited (Octets size) := ⟨zero size⟩

/-- A list of the right length, as a string of that size. -/
def ofList? (size : Nat) (octets : List UInt8) : Option (Octets size) :=
  if exact : octets.length = size then some ⟨octets, exact⟩ else none

@[simp]
theorem ofList?_toList {size : Nat} (octets : Octets size) :
    ofList? size octets.toList = some octets := by
  simp [ofList?, octets.length_toList]

theorem ofList?_eq_some_iff {size : Nat} {list : List UInt8}
    {octets : Octets size} :
    ofList? size list = some octets ↔ list = octets.toList := by
  constructor
  · intro found
    unfold ofList? at found
    split at found
    · cases found
      rfl
    · cases found
  · rintro rfl
    exact ofList?_toList octets

/-- The first `size` octets of a list, when it has that many. -/
def take? (size : Nat) (octets : List UInt8) : Option (Octets size) :=
  if enough : size ≤ octets.length then
    some ⟨octets.take size, by simpa using Nat.min_eq_left enough⟩
  else none

theorem take?_append {size : Nat} (octets : Octets size)
    (rest : List UInt8) :
    take? size (octets.toList ++ rest) = some octets := by
  have exact := octets.length_toList
  unfold take?
  rw [dif_pos (by simp [exact])]
  congr 1
  apply ext
  simp [← exact]

/-- The `width` octets that start at `offset`. -/
def slice {size : Nat} (octets : Octets size) (offset width : Nat)
    (inside : offset + width ≤ size := by decide) : Octets width where
  toList := (octets.toList.drop offset).take width
  length_toList := by
    have exact := octets.length_toList
    simp only [List.length_take, List.length_drop]
    omega

end Octets

/-! ## Words -/

/-- The low `width` octets of a number, least significant first. -/
def littleEndian : (width : Nat) → Nat → List UInt8
  | 0, _ => []
  | width + 1, value => UInt8.ofNat value :: littleEndian width (value / 256)

/-- The number that octets spell, least significant first. -/
def littleEndianValue : List UInt8 → Nat
  | [] => 0
  | octet :: rest => octet.toNat + 256 * littleEndianValue rest

/-- The low `width` octets of a number, most significant first. -/
def bigEndian (width value : Nat) : List UInt8 :=
  (littleEndian width value).reverse

/-- The number that octets spell, most significant first. -/
def bigEndianValue (octets : List UInt8) : Nat :=
  littleEndianValue octets.reverse

@[simp]
theorem length_littleEndian (width value : Nat) :
    (littleEndian width value).length = width := by
  induction width generalizing value with
  | zero => rfl
  | succ width ih => simp [littleEndian, ih]

@[simp]
theorem length_bigEndian (width value : Nat) :
    (bigEndian width value).length = width := by
  simp [bigEndian]

/-! ## Alignment -/

/-- The least multiple of four that is not below a length. -/
def align (length : Nat) : Nat :=
  (length + 3) / 4 * 4

/-- The zeros that bring a string of some length to a multiple of four. -/
def padding (length : Nat) : List UInt8 :=
  List.replicate (align length - length) 0

@[simp]
theorem length_padding (length : Nat) :
    (padding length).length = align length - length := by
  simp [padding]

theorem le_align (length : Nat) : length ≤ align length := by
  unfold align
  omega

theorem align_of_dvd {length : Nat} (aligned : length % 4 = 0) :
    align length = length := by
  unfold align
  omega

/-! ## Hexadecimal text -/

namespace Hex

/-- The lower-case digit of a number below sixteen. -/
def digit (value : Nat) : Char :=
  if value < 10 then Char.ofNat (48 + value) else Char.ofNat (87 + value)

/-- The value of a digit of either case. -/
def digitValue? (character : Char) : Option Nat :=
  let code := character.toNat
  if 48 ≤ code ∧ code ≤ 57 then some (code - 48)
  else if 97 ≤ code ∧ code ≤ 102 then some (code - 87)
  else if 65 ≤ code ∧ code ≤ 70 then some (code - 55)
  else none

/-- Two digits for each octet. -/
def encode (octets : List UInt8) : List Char :=
  octets.flatMap fun octet => [digit (octet.toNat / 16), digit (octet.toNat % 16)]

/-- The octets that pairs of digits spell. -/
def decode? : List Char → Option (List UInt8)
  | [] => some []
  | high :: low :: rest => do
      let highValue ← digitValue? high
      let lowValue ← digitValue? low
      let tail ← decode? rest
      return UInt8.ofNat (16 * highValue + lowValue) :: tail
  | [_] => none

end Hex

end Tunnel
