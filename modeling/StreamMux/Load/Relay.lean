/-
The relay a load check runs against: it accepts every stream and sends back
what comes. Relays that misbehave in one way or another show what the check
notices.
-/
import StreamMux.Load.Check

namespace StreamMux.Load

inductive Relay
  /-- Sends back every byte as it comes. -/
  | echo
  /-- Sends back everything at the end, the last byte changed. -/
  | corrupt
  /-- Sends back everything but the last byte. -/
  | truncate
  /-- Sends back one byte more. -/
  | extend
  /-- Accepts streams and does nothing. -/
  | silent
  /-- Aborts every stream. -/
  | reset
  /-- Closes the session on the first stream. -/
  | hangup
  /-- Does not set up a connection at all. -/
  | refuse
deriving DecidableEq, Repr

/-- The last byte with its lowest bit changed. -/
def changeLast : Bytes → Bytes
  | [] => []
  | [b] => [b ^^^ 1]
  | b :: rest => b :: changeLast rest

/-- What a relay that waits for the end of a stream sends back. -/
def Relay.answerTo (r : Relay) (bytes : Bytes) : Bytes :=
  match r with
  | .corrupt => changeLast bytes
  | .truncate => bytes.dropLast
  | .extend => bytes ++ [0]
  | _ => bytes

/-- How far the relay has come with one stream. -/
inductive Service
  /-- Copies: `held` was read and not written back, `room` is left in the
  buffer, `total` was written. -/
  | copying (held : Bytes) (room : Nat) (ended : Bool) (total : Nat)
  /-- Reads to the end; the last piece is kept first. -/
  | collecting (got : List Bytes)
  /-- Writes back what is left. -/
  | returning (rest : Bytes)
  /-- Keeps the stream and does nothing with it. -/
  | holding
  | over
deriving DecidableEq, Repr

/-- Size of the buffer a stream is copied through. -/
def copyBuffer : Nat := 8192

/-- The relay's work on one stream. -/
structure Serving where
  id : UInt32
  service : Service
deriving Repr

namespace Serving

/-- What the relay does with a stream it has accepted. -/
def start (r : Relay) (id : UInt32) : Serving :=
  ⟨id, match r with
    | .echo => .copying [] copyBuffer false 0
    | .corrupt | .truncate | .extend => .collecting []
    | _ => .holding⟩

/-- Whether a turn would change nothing: there is no more work, or it waits for
bytes on the mark it left on its stream. -/
def rests (s : Serving) (l : Link) : Bool :=
  let waits := ((l.endOf .server).session.held? s.id).any (·.readWaiting)
  match s.service with
  | .holding | .over => true
  | .copying held _ ended _ => held.isEmpty && !ended && waits
  | .collecting _ => waits
  | .returning _ => false

/-- Drops the handle. -/
def release (l : Link) (id : UInt32) : Link :=
  match (l.endOf .server).session.held? id with
  | none => l
  | some st => (l.perform .server (·.dropHandle st)).2

/-- Sends FIN. -/
def closeWrite (l : Link) (id : UInt32) : Except Fault Unit × Link :=
  match (l.endOf .server).session.held? id with
  | none => (.ok (), l)
  | some st => l.perform .server (·.closeWrite st)

/-- Writes until it has to wait; answers what is left. -/
def writeAll (l : Link) (id : UInt32) : Nat → Bytes → Except Fault Bytes × Link
  | _, [] => (.ok [], l)
  | 0, rest => (.ok rest, l)
  | fuel + 1, rest =>
    let (answer, l) := Check.tryCall l .server id fun s st => s.write st rest false
    match answer with
    | .pending => (.ok rest, l)
    | .ready (.error cause) => (.error cause, l)
    | .ready (.ok n) => writeAll l id fuel (rest.drop n)

/-- Reads once into the room that is left in the copy buffer; answers what
came, or that nothing came yet. -/
def fill (l : Link) (id : UInt32) (room : Nat) : Except Fault (Option Bytes) × Link :=
  let (answer, l) := Check.tryCall l .server id fun s st => s.read st room false
  match answer with
  | .pending => (.ok none, l)
  | .ready (.error cause) => (.error cause, l)
  | .ready (.ok bytes) => (.ok (some bytes), l)

/-- How copying stands after as many reads and writes as were possible. -/
abbrev Copied := Except Fault (Bytes × Nat × Bool × Nat)

/-- Copies until it has to wait or the stream has ended and all is written
back. Every round that goes on has emptied a buffer it had read something into,
so unread bytes bound the number of rounds. -/
def copy (l : Link) (id : UInt32) (held : Bytes) (room : Nat) (ended : Bool) (total : Nat) :
    Nat → Copied × Link
  | 0 => (.ok (held, room, ended, total), l)
  | fuel + 1 =>
    let space := room
    let (filled, l) := if space > 0 && !ended then fill l id space else (.ok none, l)
    match filled with
    | .error cause => (.error cause, l)
    | .ok came =>
      let ended := ended || came == some []
      let bytes := came.getD []
      let held := held ++ bytes
      let room := room - bytes.length
      let (left, l) := writeAll l id held.length held
      match left with
      | .error cause => (.error cause, l)
      | .ok left =>
        let total := total + (held.length - left.length)
        if !left.isEmpty then (.ok (left, room, ended, total), l)
        else if ended || (came.isNone && space > 0) then (.ok ([], copyBuffer, ended, total), l)
        else copy l id [] copyBuffer ended total fuel

/-- Reads everything that is there; answers it and whether the stream ended. -/
def collect (l : Link) (id : UInt32) (got : List Bytes) :
    Nat → Except Fault (Bool × List Bytes) × Link
  | 0 => (.ok (false, got), l)
  | fuel + 1 =>
    let (answer, l) := fill l id copyBuffer
    match answer with
    | .error cause => (.error cause, l)
    | .ok none => (.ok (false, got), l)
    | .ok (some []) => (.ok (true, got), l)
    | .ok (some bytes) => collect l id (bytes :: got) fuel

/-- Writes back what is left and ends the stream. -/
def giveBack (s : Serving) (l : Link) (rest : Bytes) : Serving × Link :=
  let (left, l) := writeAll l s.id rest.length rest
  match left with
  | .error _ => ({ s with service := .over }, release l s.id)
  | .ok [] => ({ s with service := .over }, release (closeWrite l s.id).2 s.id)
  | .ok rest => ({ s with service := .returning rest }, l)

/-- One turn of the relay's work on a stream, and what it reports of it. -/
def turn (s : Serving) (r : Relay) (l : Link) : Serving × Link × List Report :=
  match s.service with
  | .holding | .over => (s, l, [])
  | .returning rest => let (s, l) := s.giveBack l rest; (s, l, [])
  | .collecting got =>
    let (answer, l) := collect l s.id got (Check.unreadCount l .server s.id + 1)
    match answer with
    | .error _ => ({ s with service := .over }, release l s.id, [])
    | .ok (false, got) => ({ s with service := .collecting got }, l, [])
    | .ok (true, got) =>
      let (s, l) := s.giveBack l (r.answerTo got.reverse.flatten)
      (s, l, [])
  | .copying held room ended total =>
    let aborted (cause : Fault) (l : Link) : Serving × Link × List Report :=
      ({ s with service := .over }, release l s.id, [.echoAborted s.id cause])
    let (copied, l) := copy l s.id held room ended total (Check.unreadCount l .server s.id + 2)
    match copied with
    | .error cause => aborted cause l
    | .ok (held, room, ended, total) =>
      if ended && held.isEmpty then
        match closeWrite l s.id with
        | (.error cause, l) => aborted cause l
        | (.ok (), l) => ({ s with service := .over }, release l s.id, [.echoed s.id total])
      else ({ s with service := .copying held room ended total }, l, [])

end Serving
end StreamMux.Load
