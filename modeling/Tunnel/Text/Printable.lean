import Tunnel.Text.CombiningMark
import Tunnel.Text.Unassigned

/-!
# Printable characters

A character is printable unless it is a control, a format character, a
separator other than the space, a filler that is drawn as nothing, for private
use or unassigned.  A combining mark has no printed form without the character
before it, so it is not printable either.
-/

namespace Tunnel.Text

/-- Controls, format characters, separators, fillers and private use. -/
def invisibleRanges : List (Nat × Nat) :=
  [(0x0, 0x1F), (0x7F, 0xA0), (0xAD, 0xAD), (0x600, 0x605), (0x61C, 0x61C),
    (0x6DD, 0x6DD), (0x70F, 0x70F), (0x890, 0x891), (0x8E2, 0x8E2), (0x115F, 0x1160),
    (0x1680, 0x1680), (0x180E, 0x180E), (0x2000, 0x200F), (0x2028, 0x202F),
    (0x205F, 0x2064), (0x2066, 0x206F), (0x3000, 0x3000), (0x3164, 0x3164),
    (0xE000, 0xF8FF), (0xFEFF, 0xFEFF), (0xFFA0, 0xFFA0), (0xFFF9, 0xFFFB),
    (0x110BD, 0x110BD), (0x110CD, 0x110CD), (0x13430, 0x1343F), (0x1BCA0, 0x1BCA3),
    (0x1D173, 0x1D17A), (0xE0001, 0xE0001), (0xE0020, 0xE007F), (0xF0000, 0xFFFFD),
    (0x100000, 0x10FFFD)]

/-- A code point lies in one of some ranges, ends included. -/
def inRanges (ranges : List (Nat × Nat)) (code : Nat) : Bool :=
  ranges.any fun (first, last) => first ≤ code && code ≤ last

/-- The character can be printed by itself. -/
def isPrintable (character : Char) : Bool :=
  let code := character.toNat
  character = ' ' ||
    !(inRanges invisibleRanges code || inRanges combiningMarkRanges code ||
      inRanges unassignedRanges code)

end Tunnel.Text
