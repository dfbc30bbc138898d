/-
What a load check and its relay report, and how a stream can fail the check.
-/
import StreamMux.Config
import StreamMux.Diagnostic
import StreamMux.Load.Handshake

namespace StreamMux.Load

/-- Why a stream did not pass. -/
inductive Failure
  /-- It could not be opened. -/
  | notOpened (cause : Fault)
  /-- Writing or reading failed. -/
  | broken (id : UInt32) (cause : Fault)
  /-- Other bytes came back than were sent. -/
  | mismatch (id : UInt32) (got sent : Nat)
deriving DecidableEq, Repr

def Failure.message : Failure → String
  | notOpened cause => cause.message
  | broken id cause => s!"stream {id}: {cause.message}"
  | mismatch id got sent => s!"stream {id}: echo mismatch ({got} of {sent} bytes)"

inductive Report
  | started (url : String) (streams size : Nat)
  | verified (id : UInt32) (size : Nat)
  | failed (failure : Failure)
  | finished (streams failures : Nat)
  /-- The relay has a session on a new connection. -/
  | established
  /-- The relay could not set up a connection. -/
  | handshakeFailed (why : HandshakeFault)
  /-- The relay could not set up a session. -/
  | rejected (e : ConfigError)
  | echoed (id : UInt32) (size : Nat)
  | echoAborted (id : UInt32) (cause : Fault)
  /-- The relay's session ended. -/
  | sessionEnded (cause : Fault) (streams bytesIn bytesOut dropped : Nat)
deriving DecidableEq, Repr

namespace Report

private def ofCheck (level : Level) (text : String) (fields : List (String × String)) : LogEvent :=
  ⟨"load", level, text, fields⟩

private def ofRelay (level : Level) (text : String) (fields : List (String × String)) : LogEvent :=
  ⟨"serve", level, text, fields⟩

def event : Report → LogEvent
  | started url streams size =>
    ofCheck .info "load check started"
      [("size", s!"{size}"), ("streams", s!"{streams}"), ("url", url)]
  | verified id size =>
    ofCheck .debug "stream verified" [("bytes", s!"{size}"), ("stream_id", s!"{id}")]
  | failed failure => ofCheck .error s!"stream failed: {failure.message}" []
  | finished streams failures =>
    ofCheck .info "load check finished"
      [("failures", s!"{failures}"), ("streams", s!"{streams}")]
  | established => ofRelay .info "session established" []
  | handshakeFailed why => ofRelay .warn s!"connection failed: {why.message}" []
  | rejected e => ofRelay .warn s!"connection failed: {e.message}" []
  | echoed id size =>
    ofRelay .debug "stream echoed" [("bytes", s!"{size}"), ("stream_id", s!"{id}")]
  | echoAborted id cause =>
    ofRelay .debug "echo aborted" [("error", cause.message), ("stream_id", s!"{id}")]
  | sessionEnded cause streams bytesIn bytesOut dropped =>
    ofRelay .info "session ended"
      [("bytes_in", s!"{bytesIn}"), ("bytes_out", s!"{bytesOut}"), ("cause", cause.message),
       ("dropped", s!"{dropped}"), ("streams", s!"{streams}")]

end Report
end StreamMux.Load
