import Tunnel.Config.Printer
import Tunnel.Image.Decode

/-!
# Reports on an image

A report is the canonical document of a decoded configuration, followed by a
comment for each peer with traffic or a handshake.  Since the added lines are
comments, the report is a document of the same configuration.
-/

namespace Tunnel.Image

/-- Anything was counted for a peer. -/
def PeerStats.isActive (stats : PeerStats) : Bool :=
  0 < stats.sent || 0 < stats.received || 0 < stats.lastHandshake

/-- The comment on the counters of the peer at an index. -/
def statsLine (index : Nat) (stats : PeerStats) : List Char :=
  (s!"# peer {index}: rx {stats.received.toNat} B, " ++
    s!"tx {stats.sent.toNat} B, " ++
    s!"last handshake {stats.lastHandshake.toNat}").toList

/-- The comments on the peers from an index on. -/
def statsLines : (index : Nat) → List PeerStats → List (List Char)
  | _, [] => []
  | index, stats :: rest =>
      (if stats.isActive then [statsLine index stats] else []) ++
        statsLines (index + 1) rest

/-- The report on a decoded image. -/
def Decoded.report (decoded : Decoded) : List Char :=
  decoded.config.toText ++
    (statsLines 0 decoded.stats).flatMap (· ++ ['\n'])

end Tunnel.Image
