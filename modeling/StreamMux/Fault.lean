/-
Why an operation on a session or a stream fails. One cause of teardown is
handed to every stream it ends, so a fault is a plain value.
-/
namespace StreamMux

inductive Fault
  /-- The session was closed on this side. -/
  | sessionClosed
  /-- The connection failed or ended. -/
  | connection (text : String)
  /-- The peer broke the framing so badly that the session had to end. -/
  | protocol (text : String)
  /-- The stream's local direction was closed before. -/
  | writeClosed (id : UInt32)
  /-- The stream was aborted by either side. -/
  | streamReset (id : UInt32)
  /-- A deadline passed before the operation could complete. -/
  | deadline
  /-- Every stream id of this side has been given out. -/
  | idsExhausted
deriving DecidableEq, Repr

/-- The class of an input or output failure. -/
inductive FailureKind
  | notConnected | connectionAborted | invalidData | brokenPipe | connectionReset | timedOut | other
deriving DecidableEq, Repr

def FailureKind.name : FailureKind → String
  | notConnected => "NotConnected"
  | connectionAborted => "ConnectionAborted"
  | invalidData => "InvalidData"
  | brokenPipe => "BrokenPipe"
  | connectionReset => "ConnectionReset"
  | timedOut => "TimedOut"
  | other => "Other"

namespace Fault

def message : Fault → String
  | sessionClosed => "session closed"
  | connection text => s!"connection error: {text}"
  | protocol text => s!"protocol error: {text}"
  | writeClosed id => s!"stream {id} closed for writing"
  | streamReset id => s!"stream {id} reset"
  | deadline => "deadline elapsed"
  | idsExhausted => "stream ids exhausted"

/-- Whether the fault ended the whole session and not only one stream. -/
def endsSession : Fault → Bool
  | sessionClosed | connection _ | protocol _ => true
  | _ => false

/-- The class under which a read or write reports the fault. -/
def kind : Fault → FailureKind
  | sessionClosed => .notConnected
  | connection _ => .connectionAborted
  | protocol _ => .invalidData
  | writeClosed _ => .brokenPipe
  | streamReset _ => .connectionReset
  | deadline => .timedOut
  | idsExhausted => .other

end Fault
end StreamMux
