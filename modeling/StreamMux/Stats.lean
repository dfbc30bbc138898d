/-
Counters of one session. Each message is counted once where it leaves or
arrives; resets are counted by the session, however a stream came by one.

They are kept in 64-bit words, and no session lives long enough for one to
wrap: until 2^64 bytes and events have been counted, the words hold these
numbers (`Proofs.Counters`).
-/
namespace StreamMux

structure Stats where
  /-- Frames the connection has taken. -/
  framesSent : Nat
  /-- Their bytes, headers included. -/
  bytesSent : Nat
  /-- Messages that came in. -/
  framesReceived : Nat
  bytesReceived : Nat
  /-- Inbound messages thrown away: malformed, or about a stream not known. -/
  framesDropped : Nat
  streamsOpened : Nat
  /-- Streams handed out by accept. -/
  streamsAccepted : Nat
  /-- Inbound streams refused because too many were waiting. -/
  streamsRefused : Nat
  streamsReset : Nat
deriving DecidableEq, Repr

namespace Stats

def zero : Stats := ⟨0, 0, 0, 0, 0, 0, 0, 0, 0⟩

instance : Inhabited Stats := ⟨zero⟩

def sent (s : Stats) (length : Nat) : Stats :=
  { s with framesSent := s.framesSent + 1, bytesSent := s.bytesSent + length }

def received (s : Stats) (length : Nat) : Stats :=
  { s with framesReceived := s.framesReceived + 1, bytesReceived := s.bytesReceived + length }

def dropped (s : Stats) : Stats := { s with framesDropped := s.framesDropped + 1 }
def opened (s : Stats) : Stats := { s with streamsOpened := s.streamsOpened + 1 }
def accepted (s : Stats) : Stats := { s with streamsAccepted := s.streamsAccepted + 1 }
def refused (s : Stats) : Stats := { s with streamsRefused := s.streamsRefused + 1 }
def reset (s : Stats) : Stats := { s with streamsReset := s.streamsReset + 1 }

/-- The counters by the names under which they are exported. -/
def entries (s : Stats) : List (String × Nat) :=
  [("frames_sent", s.framesSent), ("bytes_sent", s.bytesSent),
    ("frames_received", s.framesReceived), ("bytes_received", s.bytesReceived),
    ("frames_dropped", s.framesDropped), ("streams_opened", s.streamsOpened),
    ("streams_accepted", s.streamsAccepted), ("streams_refused", s.streamsRefused),
    ("streams_reset", s.streamsReset)]

/-- Share of inbound messages that were dropped; zero when none came. Both
counts are rounded to the nearest double before the division. -/
def dropRate (s : Stats) : Float :=
  if s.framesReceived = 0 then 0.0
  else Float.ofNat s.framesDropped / Float.ofNat s.framesReceived

end Stats
end StreamMux
