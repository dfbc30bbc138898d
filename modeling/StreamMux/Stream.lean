/-
One stream: two byte directions that close one by one, and an abort that ends
both at once.

    open ──local FIN──▶ halfClosedLocal ──peer's FIN──┐
     │                                                ▼
     └──peer's FIN──▶ halfClosedRemote ──local FIN──▶ closed

    any of these but closed ──abort──▶ reset

`closed` and `reset` are final. An abort throws unread bytes away, except when
the whole session goes: then what has arrived can still be read.

A stream also records whether a read or a write is suspended on it. Whatever
lets such an operation go on clears the mark and wakes the call in the same step:
beside each operation that does stands which calls it wakes.
-/
import StreamMux.Config
import StreamMux.Frame
import StreamMux.Diagnostic

namespace StreamMux

inductive Phase
  | open
  /-- Our FIN is queued; the peer may still send. -/
  | halfClosedLocal
  /-- The peer's FIN came; we may still send. -/
  | halfClosedRemote
  | closed
  | reset
deriving DecidableEq, Repr

def Phase.name : Phase → String
  | .open => "Open"
  | halfClosedLocal => "HalfClosedLocal"
  | halfClosedRemote => "HalfClosedRemote"
  | closed => "Closed"
  | reset => "Reset"

/-- Why a stream was aborted. -/
inductive ResetCause
  /-- On this side: the application asked for it, or the stream was refused. -/
  | here
  /-- The peer sent RST. -/
  | peer
  /-- The peer broke the rules of the stream. -/
  | violation
  /-- The session ended. -/
  | teardown (cause : Fault)
deriving DecidableEq, Repr

namespace ResetCause

/-- Whether unread bytes are lost with the stream. -/
def discardsData : ResetCause → Bool
  | teardown _ => false
  | _ => true

/-- What reads and writes on the stream fail with. -/
def fault (id : UInt32) : ResetCause → Fault
  | teardown cause => cause
  | _ => .streamReset id

end ResetCause

/-- What the application has of a stream. -/
inductive Handle
  /-- Nothing yet: the peer opened it and nobody has accepted it. -/
  | unclaimed
  | held
  | dropped
deriving DecidableEq, Repr

/-- A suspended call that is woken, to be tried again. -/
inductive Wake
  /-- The read on this stream. -/
  | reader (id : UInt32)
  /-- The write on this stream. -/
  | writer (id : UInt32)
deriving DecidableEq, Repr

structure Stream where
  id : UInt32
  send : SendWindow
  recv : RecvWindow
  /-- Unread payloads in order of arrival, the first perhaps partly read. -/
  chunks : List Bytes
  /-- Number of unread bytes. -/
  buffered : Nat
  localClosed : Bool
  remoteClosed : Bool
  reset : Option ResetCause
  handle : Handle
  /-- The session still routes frames to it. -/
  tracked : Bool
  /-- A read is suspended on the stream. -/
  readWaiting : Bool
  /-- A write is suspended on the stream. -/
  writeWaiting : Bool
deriving DecidableEq, Repr

namespace Stream

def make (id : UInt32) (config : Config) (handle : Handle) : Stream where
  id
  send := ⟨config.initialWindow⟩
  recv := .make config.initialWindow config.threshold
  chunks := []
  buffered := 0
  localClosed := false
  remoteClosed := false
  reset := none
  handle
  tracked := true
  readWaiting := false
  writeWaiting := false

def phase (s : Stream) : Phase :=
  if s.reset.isSome then .reset
  else match s.localClosed, s.remoteClosed with
    | false, false => .open
    | true, false => .halfClosedLocal
    | false, true => .halfClosedRemote
    | true, true => .closed

def isTerminal (s : Stream) : Bool := s.phase = .closed || s.phase = .reset

/-- Whether the session may forget the stream. -/
def retirable (s : Stream) : Bool :=
  s.reset.isSome ||
    (s.localClosed && s.remoteClosed && (s.buffered == 0 || s.handle = .dropped))

/-- The unread bytes. -/
def unread (s : Stream) : Bytes := s.chunks.flatten

/-- Takes up to `room` bytes off the front of a list of chunks. A chunk is
dropped when its last byte is taken. -/
def takeBytes : Nat → List Bytes → Bytes × List Bytes
  | 0, chunks => ([], chunks)
  | _, [] => ([], [])
  | room, c :: rest =>
    if c.length ≤ room then
      let (taken, left) := takeBytes (room - c.length) rest
      (c ++ taken, left)
    else (c.take room, c.drop room :: rest)

/-- Takes up to `room` unread bytes. -/
def drain (s : Stream) (room : Nat) : Bytes × Stream :=
  let (taken, chunks) := takeBytes room s.chunks
  (taken, { s with chunks, buffered := s.buffered - taken.length })

/-- The read to be woken, if one is suspended. -/
def reader (s : Stream) : List Wake := if s.readWaiting then [.reader s.id] else []

/-- The write to be woken, if one is suspended. -/
def writer (s : Stream) : List Wake := if s.writeWaiting then [.writer s.id] else []

/-- Aborts the stream; `false` if it was already final. -/
def abort (s : Stream) (cause : ResetCause) : Bool × Stream :=
  if s.isTerminal then (false, s)
  else
    let kept := if cause.discardsData then { s with chunks := [], buffered := 0 } else s
    (true, { kept with reset := some cause, readWaiting := false, writeWaiting := false })

def wokenByAbort (s : Stream) : List Wake := if s.isTerminal then [] else s.reader ++ s.writer

/-- What becomes of an inbound payload. -/
inductive Arrival
  | buffered
  /-- Nobody will read it: it is gone, and this credit goes straight back. -/
  | discarded (credit : Option UInt32)
  /-- The stream was aborted before. -/
  | ignored
  | violation (v : Violation)
deriving DecidableEq, Repr

def receive (s : Stream) (payload : Bytes) : Arrival × Stream :=
  if s.reset.isSome then (.ignored, s)
  else if s.remoteClosed then (.violation .dataAfterFin, s)
  else match s.recv.receive payload.length with
    | .error e => (.violation (.overrun e), s)
    | .ok recv =>
      let s := { s with recv }
      if s.handle = .dropped then
        let (credit, recv) := s.recv.consume payload.length
        (.discarded credit, { s with recv })
      else if payload.isEmpty then (.buffered, s)
      else
        (.buffered, { s with
          chunks := s.chunks ++ [payload]
          buffered := s.buffered + payload.length
          readWaiting := false })

def wokenByData (s : Stream) (payload : Bytes) : List Wake :=
  match (s.receive payload).1 with
  | .buffered => if payload.isEmpty then [] else s.reader
  | _ => []

/-- Adds credit from the peer; `false` if it did not fit. A final stream has
no use for it. -/
def grant (s : Stream) (credit : UInt32) : Bool × Stream :=
  if s.isTerminal then (true, s)
  else
    let (fitted, send) := s.send.grant credit
    (fitted, { s with send, writeWaiting := false })

def wokenByGrant (s : Stream) : List Wake := if s.isTerminal then [] else s.writer

/-- Takes note of the peer's FIN. -/
def finish (s : Stream) : Stream :=
  if s.reset.isNone && !s.remoteClosed then
    { s with remoteClosed := true, readWaiting := false }
  else s

def wokenByFinish (s : Stream) : List Wake :=
  if s.reset.isNone && !s.remoteClosed then s.reader else []

/-- The text shown for a handle. -/
def describe (s : Stream) : String := s!"Stream \x7b id: {s.id}, phase: {s.phase.name} \x7d"

end Stream
end StreamMux
