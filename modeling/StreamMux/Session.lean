/-
A session: many streams over one connection. This module holds its state and
what every part of it is built from; the calls an application makes are in
`Session.Calls`, what inbound messages do in `Session.Inbound`.

Operations do not touch a connection. Each answers an `Outcome`: its result,
the next session, the frames it queued for the connection in order, the suspended
calls it woke, and what it reported. A session that has ended queues nothing.

Streams are kept by id for as long as the session exists, also after the
session has stopped routing frames to them, because a handle may outlive that.
`tracked` tells the two apart. Ids are never given out twice, so an id names
one stream.
-/
import StreamMux.Stream
import StreamMux.Stats

namespace StreamMux

/-- Which end of the connection a session is. -/
inductive Role
  /-- Gives out odd stream ids. -/
  | client
  /-- Gives out even stream ids. -/
  | server
deriving DecidableEq, Repr

namespace Role

def firstId : Role → UInt32
  | client => 1
  | server => 2

/-- Whether this end gives out `id`. Nobody gives out zero. -/
def owns (role : Role) (id : UInt32) : Bool :=
  id != 0 && ((id % 2 == 1) == (role = .client))

def other : Role → Role
  | client => server
  | server => client

def name : Role → String
  | client => "Client"
  | server => "Server"

end Role

/-- What an operation answers and does. -/
structure Outcome (σ α : Type) where
  result : α
  state : σ
  /-- Frames queued for the connection, in order. -/
  frames : List Frame := []
  /-- The suspended reads and writes that it woke. -/
  wakes : List Wake := []
  /-- What was reported, in order. -/
  notes : List Diagnostic := []

/-- The answer of an operation that may have to be tried again later. -/
inductive Poll (α : Type)
  | ready (value : α)
  | pending
deriving DecidableEq, Repr

structure Session where
  role : Role
  config : Config
  /-- Every stream there ever was, in order of creation. -/
  streams : List Stream
  /-- The id the next local stream gets; none when they are used up. -/
  nextId : Option UInt32
  /-- The highest id the peer has opened. -/
  lastRemoteId : UInt32
  /-- Streams opened by the peer that nobody has accepted yet, in order of arrival. -/
  backlog : List UInt32
  /-- Suspended calls of accept, by number, first come first. -/
  acceptors : List Nat
  /-- Why the session ended, once it has. -/
  ended : Option Fault
  stats : Stats
deriving Repr

namespace Session

def make (role : Role) (config : Config) : Session where
  role
  config
  streams := []
  nextId := some role.firstId
  lastRemoteId := 0
  backlog := []
  acceptors := []
  ended := none
  stats := .zero

/-- The longest queue of waiting streams that can be set up. -/
def maxBacklog : Nat := (UInt64.size - 1) / 8

inductive StartError
  | config (e : ConfigError)
  /-- The accept backlog is too long for a queue to be made. -/
  | backlogTooLong
deriving DecidableEq, Repr

/-- Sets up a session if its settings allow it. -/
def start (role : Role) (config : Config) : Except StartError Session :=
  match config.validate with
  | .error e => .error (.config e)
  | .ok () =>
    if config.acceptBacklog > maxBacklog then .error .backlogTooLong else .ok (make role config)

def isClosed (s : Session) : Bool := s.ended.isSome

def find? (s : Session) (id : UInt32) : Option Stream := s.streams.find? (·.id == id)

/-- The stream frames for `id` are routed to. -/
def tracked? (s : Session) (id : UInt32) : Option Stream :=
  s.streams.find? fun st => st.id == id && st.tracked

/-- The stream `id` if the application holds its handle. -/
def held? (s : Session) (id : UInt32) : Option Stream :=
  s.streams.find? fun st => st.id == id && st.handle = .held

/-- Replaces the stream of this id. -/
def put (s : Session) (st : Stream) : Session :=
  { s with streams := s.streams.map fun old => if old.id = st.id then st else old }

/-- Number of streams the session still routes frames to. -/
def streamCount (s : Session) : Nat := s.streams.countP (·.tracked)

/-- Queues a frame, unless the session has ended: then why it did. -/
def queue (s : Session) (f : Frame) : Except Fault (List Frame) :=
  match s.ended with
  | some cause => .error cause
  | none => .ok [f]

/-- Queues a frame whose loss need not be told: the session has ended then. -/
def queueQuietly (s : Session) (f : Frame) : List Frame :=
  match s.queue f with
  | .ok frames => frames
  | .error _ => []

/-- Stops routing frames to `id`. -/
def retire (s : Session) (id : UInt32) : Session × List Diagnostic :=
  match s.tracked? id with
  | some st => (s.put { st with tracked := false }, [.streamRetired id])
  | none => (s, [])

/-- Stops routing frames to the stream if it has nothing left to do. -/
def retireIf (s : Session) (finished : Bool) (id : UInt32) : Session × List Diagnostic :=
  if finished then s.retire id else (s, [])

/-- Aborts a stream on the session's own initiative and tells the peer. -/
def resetStream (s : Session) (st : Stream) (cause : ResetCause) : Outcome Session Unit :=
  let wakes := st.wokenByAbort
  let (aborted, st) := st.abort cause
  let s := s.put st
  let frames := if aborted then s.queueQuietly (.rst st.id) else []
  let s := if aborted then { s with stats := s.stats.reset } else s
  let (s, notes) := s.retire st.id
  { result := (), state := s, frames, wakes, notes }

/-- Ends the session. Every stream it still routes frames to is aborted with
`cause`, which keeps unread bytes readable. Only the first call does anything. -/
def terminate (s : Session) (cause : Fault) : Outcome Session Unit :=
  match s.ended with
  | some _ => { result := (), state := s }
  | none =>
    { result := ()
      state := { s with
        ended := some cause
        streams := s.streams.map fun st =>
          if st.tracked then { (st.abort (.teardown cause)).2 with tracked := false } else st }
      wakes := s.streams.flatMap fun st => if st.tracked then st.wokenByAbort else []
      notes := [.sessionEnded cause s.streamCount] }

/-- Counts a frame that the connection has taken. -/
def recordSent (s : Session) (f : Frame) : Session :=
  { s with stats := s.stats.sent f.encodedLength }

/-- The text shown for a session. -/
def describe (s : Session) : String :=
  s!"Session \x7b role: {s.role.name}, closed: {s.isClosed}, streams: {s.streamCount} \x7d"

end Session
end StreamMux
