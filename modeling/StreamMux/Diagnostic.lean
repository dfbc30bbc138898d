/-
What a session reports while it runs. Each report is a constructor with the
values it is about; its level, text and fields are given by one table below.
-/
import StreamMux.Frame.Error
import StreamMux.Window
import StreamMux.Fault

namespace StreamMux

/-- How serious a report is, the most serious first. -/
inductive Level
  | error | warn | info | debug | trace
deriving DecidableEq, Repr

def Level.name : Level → String
  | error => "ERROR"
  | warn => "WARN"
  | info => "INFO"
  | debug => "DEBUG"
  | trace => "TRACE"

/-- A report in its written form. -/
structure LogEvent where
  /-- The part of the program that speaks. -/
  target : String
  level : Level
  text : String
  fields : List (String × String)
deriving DecidableEq, Repr

/-- How a peer broke the rules of one stream. -/
inductive Violation
  | dataAfterFin
  | overrun (e : WindowOverrun)
deriving DecidableEq, Repr

def Violation.message : Violation → String
  | dataAfterFin => "DATA after FIN"
  | overrun e => e.message

inductive Diagnostic
  | sessionStarted
  | streamOpened (id : UInt32)
  /-- The session has forgotten the stream. -/
  | streamRetired (id : UInt32)
  | streamQueued (id : UInt32)
  | streamRefused (id : UInt32)
  | synIgnored (id : UInt32)
  | dataForUnknown (id : UInt32) (length : Nat)
  | controlForUnknown (id : UInt32) (type : FrameType)
  | grantOverflowed (id credit : UInt32)
  | resetByPeer (id : UInt32)
  | resetHere (id : UInt32)
  | resetForViolation (id : UInt32) (violation : Violation)
  | resetForLostData (id : UInt32)
  | malformedDropped (error : FrameError)
  /-- The session ended with this many streams still known. -/
  | sessionEnded (cause : Fault) (streams : Nat)
  | connectionClosed
  | connectionCloseFailed (text : String)
  | connectionCloseTimedOut
  /-- Closing the session gave up waiting for the connection. -/
  | connectionGivenUp
  /-- A message that cannot carry a frame was passed over. -/
  | nonBinaryIgnored
deriving DecidableEq, Repr

namespace Diagnostic

/-- The name of a control frame in reports. -/
def wireName : FrameType → String
  | .syn => "SYN"
  | .data => "DATA"
  | .windowUpdate => "WINDOW_UPDATE"
  | .fin => "FIN"
  | .rst => "RST"

private def session (level : Level) (text : String) (fields : List (String × String)) : LogEvent :=
  ⟨"session", level, text, fields⟩

private def ofStream (id : UInt32) : String × String := ("stream_id", s!"{id}")

def event : Diagnostic → LogEvent
  | sessionStarted => session .debug "session started" []
  | streamOpened id => session .debug "stream opened" [ofStream id]
  | streamRetired id => session .debug "stream retired" [ofStream id]
  | streamQueued id => session .debug "stream queued for accept" [ofStream id]
  | streamRefused id => session .warn "accept backlog full, refusing stream" [ofStream id]
  | synIgnored id =>
    session .warn "ignoring SYN for an invalid or reused stream id" [ofStream id]
  | dataForUnknown id n =>
    session .warn "dropping DATA for unknown stream" [("len", s!"{n}"), ofStream id]
  | controlForUnknown id t =>
    session .debug "dropping frame for unknown stream" [("kind", wireName t), ofStream id]
  | grantOverflowed id credit =>
    session .warn "window update overflowed send window" [("credit", s!"{credit}"), ofStream id]
  | resetByPeer id => session .debug "stream reset by peer" [ofStream id]
  | resetHere id => ⟨"stream", .debug, "stream reset locally", [ofStream id]⟩
  | resetForViolation id v =>
    session .warn "resetting stream after protocol violation"
      [("reason", v.message), ofStream id]
  | resetForLostData id => session .warn "resetting stream after losing a DATA frame" [ofStream id]
  | malformedDropped e => session .warn "dropping malformed frame" [("error", e.message)]
  | sessionEnded .sessionClosed n => session .info "session closed" [("streams", s!"{n}")]
  | sessionEnded cause n =>
    session .warn "session terminated" [("error", cause.message), ("streams", s!"{n}")]
  | connectionClosed => session .debug "connection closed" []
  | connectionCloseFailed text => session .debug "connection close failed" [("error", text)]
  | connectionCloseTimedOut => session .debug "connection close timed out" []
  | connectionGivenUp => session .warn "connection did not close in time, dropping it" []
  | nonBinaryIgnored => ⟨"ws", .trace, "ignoring non-binary websocket message", []⟩

end Diagnostic
end StreamMux
