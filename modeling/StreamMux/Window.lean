/-
Credit of one direction of one stream. The sender spends credit on DATA; the
receiver counts what it may still be sent and what the application has read
since it last gave credit back. Credit goes back in batches of at least a
threshold, so that not every read costs a frame.

    initial = remaining + buffered + unacked

holds at the receiver as long as everything received was read or is still
buffered. The arithmetic is that of 32-bit words: an oversized grant or return
stops at the largest word instead of wrapping.
-/
namespace StreamMux

/-- The sum of two words, or the largest word if there is no room for it. -/
def saturatingAdd (a b : UInt32) : UInt32 :=
  if a.toNat + b.toNat < UInt32.size then a + b else UInt32.ofNat (UInt32.size - 1)

/-- Bytes that have to be read before credit goes back: `percent` of the
initial window, at least one byte. -/
def updateThreshold (initialWindow : UInt32) (percent : UInt8) : UInt32 :=
  max (initialWindow.toNat * percent.toNat / 100).toUInt32 1

/-- Credit this side may still spend on DATA. -/
structure SendWindow where
  credit : UInt32
deriving DecidableEq, Repr, Inhabited

namespace SendWindow

/-- Spends up to `want` bytes of credit and says how many. -/
def reserve (w : SendWindow) (want : Nat) : Nat × SendWindow :=
  let n := min want w.credit.toNat
  (n, ⟨w.credit - n.toUInt32⟩)

/-- Adds the peer's grant; `false` if it did not fit. -/
def grant (w : SendWindow) (delta : UInt32) : Bool × SendWindow :=
  (w.credit.toNat + delta.toNat < UInt32.size, ⟨saturatingAdd w.credit delta⟩)

end SendWindow

/-- The peer sent more than it had credit for. -/
structure WindowOverrun where
  length : Nat
  remaining : UInt32
deriving DecidableEq, Repr

def WindowOverrun.message (e : WindowOverrun) : String :=
  s!"received {e.length} bytes with only {e.remaining} bytes of window left"

/-- Credit the peer may still spend, and bytes read but not yet given back. -/
structure RecvWindow where
  remaining : UInt32
  unacked : UInt32
  threshold : UInt32
deriving DecidableEq, Repr, Inhabited

namespace RecvWindow

def make (initial threshold : UInt32) : RecvWindow := ⟨initial, 0, max threshold 1⟩

/-- Counts an inbound payload of `length` bytes. -/
def receive (w : RecvWindow) (length : Nat) : Except WindowOverrun RecvWindow :=
  if length > w.remaining.toNat then .error ⟨length, w.remaining⟩
  else .ok { w with remaining := w.remaining - length.toUInt32 }

/-- Counts `n` bytes as read and answers the credit to give back, once there
is enough of it. -/
def consume (w : RecvWindow) (n : Nat) : Option UInt32 × RecvWindow :=
  let unacked := saturatingAdd w.unacked n.toUInt32
  if unacked < w.threshold then (none, { w with unacked })
  else (some unacked, { w with unacked := 0, remaining := saturatingAdd w.remaining unacked })

end RecvWindow
end StreamMux
