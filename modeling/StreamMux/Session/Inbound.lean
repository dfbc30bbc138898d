/-
What a session does with the messages of its peer. A message that is no frame
is dropped, and the stream it robbed of DATA is aborted; one too short for a
header ends the session. Frames for streams the session does not know are
dropped: the peer may have sent them before it learned that the stream is gone.

The reader does not look for the end of the session before it takes a message, so
it may take some that were waiting already when the session ended. They are counted
and find no stream; a SYN only uses up its id.
-/
import StreamMux.Session
import StreamMux.Frame.Codec

namespace StreamMux.Session

/-- A report with no other effect. -/
private def noted (s : Session) (notes : List Diagnostic) : Outcome Session Unit :=
  { result := (), state := s, notes }

/-- The stream ids a peer may open are its own, each above all before it. -/
def mayOpen (s : Session) (id : UInt32) : Bool :=
  id != 0 && !s.role.owns id && id > s.lastRemoteId

def onSyn (s : Session) (id : UInt32) : Outcome Session Unit :=
  if s.mayOpen id then
    if s.isClosed then noted { s with lastRemoteId := id } []
    else
      let st := Stream.make id s.config .unclaimed
      let s := { s with lastRemoteId := id, streams := s.streams ++ [st] }
      if s.backlog.length < s.config.acceptBacklog then
        noted { s with backlog := s.backlog ++ [id] } [.streamQueued id]
      else
        let refused := { s with stats := s.stats.refused }.resetStream st .here
        { refused with notes := .streamRefused id :: refused.notes }
  else noted { s with stats := s.stats.dropped } [.synIgnored id]

def onData (s : Session) (id : UInt32) (payload : Bytes) : Outcome Session Unit :=
  match s.tracked? id with
  | none => noted { s with stats := s.stats.dropped } [.dataForUnknown id payload.length]
  | some st =>
    let wakes := st.wokenByData payload
    let (arrival, st) := st.receive payload
    let s := s.put st
    match arrival with
    | .buffered => { noted s [] with wakes }
    | .discarded none => noted s []
    | .discarded (some credit) =>
      { result := (), state := s, frames := s.queueQuietly (.windowUpdate id credit) }
    | .ignored => noted { s with stats := s.stats.dropped } []
    | .violation v =>
      let o := { s with stats := s.stats.dropped }.resetStream st .violation
      { o with notes := .resetForViolation id v :: o.notes }

/-- A control frame for a stream the session does not know. -/
def onUnknown (s : Session) (id : UInt32) (type : FrameType) : Outcome Session Unit :=
  noted { s with stats := s.stats.dropped } [.controlForUnknown id type]

def onWindowUpdate (s : Session) (id credit : UInt32) : Outcome Session Unit :=
  match s.tracked? id with
  | none => s.onUnknown id .windowUpdate
  | some st =>
    let wakes := st.wokenByGrant
    let (fitted, st) := st.grant credit
    { noted (s.put st) (if fitted then [] else [.grantOverflowed id credit]) with wakes }

def onFin (s : Session) (id : UInt32) : Outcome Session Unit :=
  match s.tracked? id with
  | none => s.onUnknown id .fin
  | some st =>
    let wakes := st.wokenByFinish
    let st := st.finish
    let (s, notes) := (s.put st).retireIf st.retirable id
    { noted s notes with wakes }

def onRst (s : Session) (id : UInt32) : Outcome Session Unit :=
  match s.tracked? id with
  | none => s.onUnknown id .rst
  | some st =>
    let s := s.put (st.abort .peer).2
    let (s, notes) := { s with stats := s.stats.reset }.retire id
    { noted s (notes ++ [.resetByPeer id]) with wakes := st.wokenByAbort }

/-- Routes a frame to its stream. -/
def onFrame (s : Session) (f : Frame) : Outcome Session Unit :=
  match f.type with
  | .syn => s.onSyn f.streamId
  | .data => s.onData f.streamId f.payload
  | .windowUpdate => s.onWindowUpdate f.streamId (f.credit?.getD 0)
  | .fin => s.onFin f.streamId
  | .rst => s.onRst f.streamId

/-- DATA for `id` was lost: the stream has a hole now and cannot go on. -/
def onLostData (s : Session) (id : UInt32) : Outcome Session Unit :=
  match s.tracked? id with
  | none => noted s []
  | some st =>
    let o := s.resetStream st .violation
    { o with notes := .resetForLostData id :: o.notes }

/-- A message that is no frame. -/
def onMalformed (s : Session) (e : FrameError) : Outcome Session Unit :=
  if e.isFatal then s.terminate (.protocol e.message)
  else
    let s := { s with stats := s.stats.dropped }
    let o := match e.damagedStream? with
      | some id => s.onLostData id
      | none => noted s []
    { o with notes := .malformedDropped e :: o.notes }

/-- Takes one message from the connection. -/
def receive (s : Session) (message : Bytes) : Outcome Session Unit :=
  let s := { s with stats := s.stats.received message.length }
  match Frame.decode message s.config.maxFramePayload with
  | .ok f => s.onFrame f
  | .error e => s.onMalformed e

/-- The peer will send no more messages. -/
def connectionEnded (s : Session) : Outcome Session Unit :=
  s.terminate (.connection "connection closed by peer")

/-- Receiving or sending failed with this text. -/
def connectionFailed (s : Session) (text : String) : Outcome Session Unit :=
  s.terminate (.connection text)

end StreamMux.Session
