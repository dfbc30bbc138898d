/-
A session as one machine: everything that can happen to it is an event, and a
step answers what the event did. Calls that name a stream need its handle; a
call without one does nothing.

`Reachable` are the sessions that can be met, whatever the peer sends and the
application asks for.
-/
import StreamMux.Session.Calls
import StreamMux.Session.Inbound

namespace StreamMux.Session

/-- What an application can ask for. -/
inductive Call
  | openStream
  | accept (ticket : Nat)
  | cancelAccept (ticket : Nat)
  | read (id : UInt32) (room : Nat) (expired : Bool)
  | write (id : UInt32) (bytes : Bytes) (expired : Bool)
  | closeWrite (id : UInt32)
  | reset (id : UInt32)
  | dropHandle (id : UInt32)
  | close
deriving DecidableEq, Repr

inductive Event
  | call (c : Call)
  /-- The reader takes a message. It may do so after the end of the session, until it
  finds out: when that is, a run tells by the messages in it. -/
  | message (bytes : Bytes)
  /-- The peer sends no more messages. -/
  | connectionEnded
  /-- Receiving or sending failed. -/
  | connectionFailed (text : String)
  /-- The connection has taken a frame. -/
  | sent (f : Frame)
deriving DecidableEq, Repr

inductive Reply
  | nothing
  /-- The call names a stream whose handle the application does not hold. -/
  | noHandle
  | opened (r : Except Fault UInt32)
  | accepted (r : Poll (Except Fault UInt32))
  | got (r : Poll (Except Fault Bytes))
  | wrote (r : Poll (Except Fault Nat))
  | closed (r : Except Fault Unit)

/-- Keeps what an operation did and puts its result into words. -/
def Outcome.as {α : Type} (o : Outcome Session α) (reply : α → Reply) : Outcome Session Reply :=
  { result := reply o.result, state := o.state, frames := o.frames, wakes := o.wakes
    notes := o.notes }

/-- An operation on a stream whose handle is needed. -/
def onHeld (s : Session) (id : UInt32) (op : Stream → Outcome Session Reply) :
    Outcome Session Reply :=
  match s.held? id with
  | some st => op st
  | none => { result := .noHandle, state := s }

def call (s : Session) : Call → Outcome Session Reply
  | .openStream => Outcome.as s.openStream .opened
  | .accept ticket => Outcome.as (s.accept ticket) .accepted
  | .cancelAccept ticket => { result := .nothing, state := s.cancelAccept ticket }
  | .read id room expired => s.onHeld id fun st => Outcome.as (s.read st room expired) .got
  | .write id bytes expired => s.onHeld id fun st => Outcome.as (s.write st bytes expired) .wrote
  | .closeWrite id => s.onHeld id fun st => Outcome.as (s.closeWrite st) .closed
  | .reset id => s.onHeld id fun st => Outcome.as (s.reset st) fun _ => .nothing
  | .dropHandle id => s.onHeld id fun st => Outcome.as (s.dropHandle st) fun _ => .nothing
  | .close => Outcome.as s.close fun _ => .nothing

def step (s : Session) : Event → Outcome Session Reply
  | .call c => s.call c
  | .message bytes => Outcome.as (s.receive bytes) fun _ => .nothing
  | .connectionEnded => Outcome.as s.connectionEnded fun _ => .nothing
  | .connectionFailed text => Outcome.as (s.connectionFailed text) fun _ => .nothing
  | .sent f => { result := .nothing, state := s.recordSent f }

/-- The session after a sequence of events. -/
def after (s : Session) (events : List Event) : Session :=
  events.foldl (fun s e => (s.step e).state) s

/-- The frames a sequence of events queues, in order. -/
def framesOf (s : Session) : List Event → List Frame
  | [] => []
  | e :: rest => (s.step e).frames ++ framesOf (s.step e).state rest

/-- A sequence of events, each with what it was answered. -/
def trace (s : Session) : List Event → List (Event × Reply)
  | [] => []
  | e :: rest => (e, (s.step e).result) :: trace (s.step e).state rest

/-- The sessions of this role and configuration that can be met. -/
inductive Reachable (role : Role) (config : Config) : Session → Prop
  | start : Reachable role config (make role config)
  | step {s : Session} (e : Event) :
    Reachable role config s → Reachable role config (s.step e).state

theorem reachable_after {role : Role} {config : Config} {s : Session}
    (h : Reachable role config s) (events : List Event) :
    Reachable role config (s.after events) := by
  induction events generalizing s with
  | nil => exact h
  | cons e rest ih => exact ih (h.step e)

end StreamMux.Session
