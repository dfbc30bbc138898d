/-
What an application can ask of a session and of the streams it holds.

Reads, writes and accepts may have to wait. They then answer `pending`, leave
a mark of the waiting call, and are tried again once they are woken. Whether a
deadline has passed is the caller's to say (`expired`); it matters only to a
call that would have to wait.
-/
import StreamMux.Session

namespace StreamMux.Session

/-- Opens a stream: the SYN is queued and the stream can be used at once. -/
def openStream (s : Session) : Outcome Session (Except Fault UInt32) :=
  match s.ended with
  | some cause => { result := .error cause, state := s }
  | none =>
    match s.nextId with
    | none => { result := .error .idsExhausted, state := s }
    | some id =>
      let next := if id.toNat + 2 < UInt32.size then some (id + 2) else none
      match s.queue (.syn id) with
      | .error cause => { result := .error cause, state := { s with nextId := next } }
      | .ok frames =>
        { result := .ok id
          state := { s with
            nextId := next
            streams := s.streams ++ [.make id s.config .held]
            stats := s.stats.opened }
          frames
          notes := [.streamOpened id] }

/-- One try of the accept call `ticket`. Calls are served in the order of their
first try, and streams in the order of arrival. -/
def accept (s : Session) (ticket : Nat) : Outcome Session (Poll (Except Fault UInt32)) :=
  let acceptors := if ticket ∈ s.acceptors then s.acceptors else s.acceptors ++ [ticket]
  if acceptors.head? = some ticket then
    match s.ended with
    | some cause =>
      { result := .ready (.error cause), state := { s with acceptors := acceptors.erase ticket } }
    | none =>
      match s.backlog with
      | id :: rest =>
        let s := { s with
          acceptors := acceptors.erase ticket
          backlog := rest
          stats := s.stats.accepted }
        match s.find? id with
        | some st => { result := .ready (.ok id), state := s.put { st with handle := .held } }
        | none => { result := .ready (.ok id), state := s }
      | [] => { result := .pending, state := { s with acceptors } }
  else { result := .pending, state := { s with acceptors } }

/-- The accept call `ticket` is given up. It takes no stream along. -/
def cancelAccept (s : Session) (ticket : Nat) : Session :=
  { s with acceptors := s.acceptors.erase ticket }

/-- Reads up to `room` bytes. An empty answer to a read with room is the end of
the stream. -/
def read (s : Session) (st : Stream) (room : Nat) (expired : Bool) :
    Outcome Session (Poll (Except Fault Bytes)) :=
  let failed (cause : Fault) : Outcome Session (Poll (Except Fault Bytes)) :=
    { result := .ready (.error cause), state := s }
  if room = 0 then { result := .ready (.ok []), state := s }
  else match st.reset.filter (·.discardsData) with
  | some cause => failed (cause.fault st.id)
  | none =>
    if st.buffered = 0 then
      if st.remoteClosed then { result := .ready (.ok []), state := s }
      else match st.reset with
        | some cause => failed (cause.fault st.id)
        | none =>
          let s := s.put { st with readWaiting := true }
          { result := if expired then .ready (.error .deadline) else .pending, state := s }
    else
      let (taken, st) := st.drain room
      let (credit, recv) := st.recv.consume taken.length
      let st := { st with recv }
      let frames := match credit with
        | some credit =>
          if !st.remoteClosed && st.reset.isNone then
            s.queueQuietly (.windowUpdate st.id credit)
          else []
        | none => []
      let (s, notes) := (s.put st).retireIf st.retirable st.id
      { result := .ready (.ok taken), state := s, frames, notes }

/-- Writes as many of the bytes as one frame and the credit allow. -/
def write (s : Session) (st : Stream) (bytes : Bytes) (expired : Bool) :
    Outcome Session (Poll (Except Fault Nat)) :=
  let failed (cause : Fault) : Outcome Session (Poll (Except Fault Nat)) :=
    { result := .ready (.error cause), state := s }
  match st.reset with
  | some cause => failed (cause.fault st.id)
  | none =>
    if st.localClosed then failed (.writeClosed st.id)
    else if bytes.isEmpty then { result := .ready (.ok 0), state := s }
    else
      let (n, send) := st.send.reserve (bytes.take s.config.maxFramePayload.toNat).length
      if n = 0 then
        let s := s.put { st with writeWaiting := true }
        { result := if expired then .ready (.error .deadline) else .pending, state := s }
      else
        let s' := s.put { st with send }
        match s.queue (.data st.id (bytes.take n)) with
        | .ok frames => { result := .ready (.ok n), state := s', frames }
        | .error cause => { result := .ready (.error cause), state := s' }

/-- Ends the local direction. A second time, or on an aborted stream, it does
nothing. -/
def closeWrite (s : Session) (st : Stream) : Outcome Session (Except Fault Unit) :=
  if st.localClosed || st.reset.isSome then { result := .ok (), state := s }
  else
    let wakes := st.writer
    let st := { st with localClosed := true, writeWaiting := false }
    match s.queue (.fin st.id) with
    | .error cause => { result := .error cause, state := s.put st, wakes }
    | .ok frames =>
      let (s, notes) := (s.put st).retireIf st.retirable st.id
      { result := .ok (), state := s, frames, wakes, notes }

/-- Aborts the stream and throws its unread bytes away. -/
def reset (s : Session) (st : Stream) : Outcome Session Unit :=
  let wakes := st.wokenByAbort
  let (aborted, st) := st.abort .here
  let s := s.put st
  let frames := if aborted then s.queueQuietly (.rst st.id) else []
  let s := if aborted then { s with stats := s.stats.reset } else s
  let (s, retired) := s.retire st.id
  { result := (), state := s, frames, wakes
    notes := (if aborted then [.resetHere st.id] else []) ++ retired }

/-- Gives up the handle. The credit of unread bytes goes back to the peer, who
would wait for it in vain, and the local direction ends. -/
def dropHandle (s : Session) (st : Stream) : Outcome Session Unit :=
  -- Whoever gives up the handle waits for no call on it, so marks are left by cancelled
  -- calls only and nobody is woken.
  let st := { st with handle := .dropped, readWaiting := false, writeWaiting := false }
  if st.reset.isSome then
    let (s, notes) := (s.put st).retireIf st.retirable st.id
    { result := (), state := s, notes }
  else
    let unread := st.buffered
    let st := { st with chunks := [], buffered := 0 }
    let (credit, st) :=
      if st.remoteClosed then (none, st)
      else
        let (credit, recv) := st.recv.consume unread
        (credit, { st with recv })
    let update := match credit with
      | some credit => s.queueQuietly (.windowUpdate st.id credit)
      | none => []
    let fin := if st.localClosed then [] else s.queueQuietly (.fin st.id)
    let st := { st with localClosed := true }
    let (s, notes) := (s.put st).retireIf st.retirable st.id
    { result := (), state := s, frames := update ++ fin, notes }

/-- Closes the session. -/
def close (s : Session) : Outcome Session Unit := s.terminate .sessionClosed

/-- One try of waiting for the end of the session: why it ended. -/
def closed (s : Session) : Poll Fault :=
  match s.ended with
  | some cause => .ready cause
  | none => .pending

end StreamMux.Session
