import Mathlib.Algebra.Ring.Nat
import Tunnel.Octets

/-!
# Fields of octet strings

Neighbouring fields of a record put together are the wider field.  Words of
either byte order are determined by their octets: a number that was written
reads back, and octets that were read write back.
-/

namespace Tunnel

namespace Octets

variable {size : Nat}

/-! ## Fields -/

/-- Neighbouring fields make up the field that spans both. -/
theorem toList_slice_append {offset first second : Nat}
    (octets : Octets size)
    (firstInside : offset + first ≤ size)
    (secondInside : offset + first + second ≤ size)
    (inside : offset + (first + second) ≤ size) :
    (octets.slice offset first firstInside).toList ++
        (octets.slice (offset + first) second secondInside).toList =
      (octets.slice offset (first + second) inside).toList := by
  simp only [slice]
  rw [List.take_add, List.drop_drop]

/-- The field that spans a string is the string. -/
theorem toList_slice_whole (octets : Octets size)
    (inside : 0 + size ≤ size) :
    (octets.slice 0 size inside).toList = octets.toList := by
  simp only [slice, List.drop_zero]
  exact List.take_of_length_le (Nat.le_of_eq octets.length_toList)

/-- The front of a list is a string of some size followed by the rest. -/
theorem take?_eq_some_iff {list : List UInt8} {octets : Octets size} :
    take? size list = some octets ↔
      list = octets.toList ++ list.drop size := by
  constructor
  · intro found
    unfold take? at found
    split at found
    · cases found
      exact (List.take_append_drop size list).symm
    · cases found
  · intro whole
    rw [whole]
    exact take?_append octets _

end Octets

/-! ## Words -/

theorem littleEndianValue_lt (octets : List UInt8) :
    littleEndianValue octets < 256 ^ octets.length := by
  induction octets with
  | nil => decide
  | cons octet rest ih =>
      have small := octet.toNat_lt
      simp only [littleEndianValue, List.length_cons, Nat.pow_succ]
      omega

theorem littleEndianValue_append (front back : List UInt8) :
    littleEndianValue (front ++ back) =
      littleEndianValue front +
        256 ^ front.length * littleEndianValue back := by
  induction front with
  | nil => simp [littleEndianValue]
  | cons octet rest ih =>
      rw [List.cons_append, littleEndianValue, ih, littleEndianValue,
        List.length_cons, Nat.pow_succ', Nat.mul_add, Nat.mul_assoc,
        Nat.add_assoc]

/-- A number that fits reads back. -/
theorem littleEndianValue_littleEndian {width value : Nat}
    (fits : value < 256 ^ width) :
    littleEndianValue (littleEndian width value) = value := by
  induction width generalizing value with
  | zero =>
      simp only [Nat.pow_zero] at fits
      simp only [littleEndian, littleEndianValue]
      omega
  | succ width ih =>
      have smaller : value / 256 < 256 ^ width := by
        rw [Nat.div_lt_iff_lt_mul (by decide)]
        simpa [Nat.pow_succ] using fits
      simp only [littleEndian, littleEndianValue, ih smaller,
        UInt8.toNat_ofNat']
      omega

/-- Octets that were read write back. -/
theorem littleEndian_littleEndianValue (octets : List UInt8) :
    littleEndian octets.length (littleEndianValue octets) = octets := by
  induction octets with
  | nil => rfl
  | cons octet rest ih =>
      have small := octet.toNat_lt
      simp only [littleEndianValue, List.length_cons, littleEndian]
      congr 1
      · apply UInt8.toNat_inj.mp
        simp only [UInt8.toNat_ofNat']
        omega
      · rw [show (octet.toNat + 256 * littleEndianValue rest) / 256 =
          littleEndianValue rest by omega]
        exact ih

@[simp]
theorem bigEndianValue_nil : bigEndianValue [] = 0 :=
  rfl

theorem bigEndianValue_cons (octet : UInt8) (rest : List UInt8) :
    bigEndianValue (octet :: rest) =
      256 ^ rest.length * octet.toNat + bigEndianValue rest := by
  rw [bigEndianValue, List.reverse_cons, littleEndianValue_append,
    List.length_reverse]
  exact Nat.add_comm _ _

theorem bigEndianValue_bigEndian {width value : Nat}
    (fits : value < 256 ^ width) :
    bigEndianValue (bigEndian width value) = value := by
  simp [bigEndian, bigEndianValue, littleEndianValue_littleEndian fits]

theorem bigEndian_bigEndianValue (octets : List UInt8) :
    bigEndian octets.length (bigEndianValue octets) = octets := by
  have back := littleEndian_littleEndianValue octets.reverse
  rw [List.length_reverse] at back
  simp [bigEndian, bigEndianValue, back]

namespace Octets

variable {width : Nat} (octets : Octets width)

theorem littleEndianValue_lt :
    littleEndianValue octets.toList < 256 ^ width := by
  simpa only [octets.length_toList] using
    Tunnel.littleEndianValue_lt octets.toList

theorem bigEndianValue_lt :
    bigEndianValue octets.toList < 256 ^ width := by
  simpa only [bigEndianValue, List.length_reverse, octets.length_toList]
    using Tunnel.littleEndianValue_lt octets.toList.reverse

/-- Octets spell a number exactly if the number is written with them. -/
theorem littleEndianValue_eq_iff {value : Nat}
    (fits : value < 256 ^ width) :
    littleEndianValue octets.toList = value ↔
      octets.toList = littleEndian width value := by
  constructor
  · rintro rfl
    have back := littleEndian_littleEndianValue octets.toList
    rw [octets.length_toList] at back
    exact back.symm
  · intro written
    rw [written]
    exact littleEndianValue_littleEndian fits

theorem bigEndianValue_eq_iff {value : Nat}
    (fits : value < 256 ^ width) :
    bigEndianValue octets.toList = value ↔
      octets.toList = bigEndian width value := by
  constructor
  · rintro rfl
    have back := bigEndian_bigEndianValue octets.toList
    rw [octets.length_toList] at back
    exact back.symm
  · intro written
    rw [written]
    exact bigEndianValue_bigEndian fits

end Octets

end Tunnel
