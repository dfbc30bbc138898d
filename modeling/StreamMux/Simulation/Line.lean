/-
A connection as one session and its peer see it. The peer is not a session but
a script: it may send anything, stop sending, or vanish. The connection can be
stalled, so that it takes nothing, and made to fail.

Two kinds of connection differ in how they end. A pipe in memory just ends. A
WebSocket is closed by a close message, which the other end repeats; a peer
that vanishes without one is an error.
-/
import StreamMux.Frame.Codec
import StreamMux.Writer

namespace StreamMux

inductive Transport
  | memory
  | webSocket
deriving DecidableEq, Repr

/-- Why a WebSocket is closed, if the closing end says so. -/
structure CloseReason where
  code : Nat
  text : String
deriving DecidableEq, Repr

namespace CloseReason

/-- Codes an endpoint may put into a close message. The others are reserved for
reports that never travel, or belong to nobody. -/
def allowed (code : Nat) : Bool :=
  (1000 ≤ code && code ≤ 1003) || (1007 ≤ code && code ≤ 1013) || (3000 ≤ code && code ≤ 4999)

/-- How an end repeats the close message it got: as it is, unless its code
breaks the rules. -/
def repeated (r : CloseReason) : CloseReason :=
  if allowed r.code then r else ⟨1002, "Protocol violation"⟩

end CloseReason

/-- Something that reaches the peer. -/
inductive Parcel
  | message (bytes : Bytes)
  /-- Answer to a ping. -/
  | pong (bytes : Bytes)
  | closing (reason : Option CloseReason)
  /-- The connection is gone. -/
  | ended
deriving DecidableEq, Repr

inductive PeerState
  | sending
  /-- It has ended its sending half. -/
  | closed
  | vanished
deriving DecidableEq, Repr

structure Line where
  transport : Transport
  stalled : Bool
  /-- Every send and close fails with this text. -/
  sendFault : Option String
  peer : PeerState
  /-- A close message was read and not repeated yet, with the reason to repeat. -/
  closeRead : Option (Option CloseReason)
  /-- The session's side has sent a close message that repeats none. -/
  closeSent : Bool
  /-- The peer of a WebSocket vanished when the session read no more, so that
  only sending or closing will tell. -/
  unnoticed : Bool
  /-- The session's side has let go of the connection. -/
  gone : Bool
  /-- What reached the peer since the last step of the script began. -/
  arrived : List Parcel
  /-- What reached the peer and has not been carried further. -/
  parcels : List Parcel
deriving Repr

namespace Line

def make (transport : Transport) : Line where
  transport
  stalled := false
  sendFault := none
  peer := .sending
  closeRead := none
  closeSent := false
  unnoticed := false
  gone := false
  arrived := []
  parcels := []

/-- Hands parcels to the peer, if it is still there. -/
def hand (l : Line) (parcels : List Parcel) : Line :=
  if l.peer = .vanished then l
  else { l with arrived := l.arrived ++ parcels, parcels := l.parcels ++ parcels }

/-- What writing to a peer fails with that vanished without notice. -/
def brokenPipe : String := "IO error: broken pipe"

/-- What keeps the connection from taking a frame, apart from stalls and
injected failures. -/
def sendObstacle (l : Line) : Option String :=
  match l.transport with
  | .memory => if l.peer = .vanished then some "memory transport peer is gone" else none
  | .webSocket =>
    if l.closeRead.isSome then
      some "WebSocket protocol error: Sending after closing is not allowed"
    else if l.unnoticed then some brokenPipe
    else if l.peer = .vanished then some "Trying to work with closed connection"
    else none

/-- What keeps the connection from being closed in order. -/
def closeObstacle (l : Line) : Option String := if l.unnoticed then some brokenPipe else none

/-- How a connection reacts that has, or has not, something in its way. -/
def reaction : Option String → Reaction
  | none => .done
  | some text => .failed text

/-- How the connection reacts to its sending half now. -/
def outlet (l : Line) : Outlet :=
  match l.sendFault with
  | some text => ⟨.failed text, .failed text⟩
  | none =>
    if l.stalled then ⟨.blocked, .blocked⟩
    else ⟨reaction l.sendObstacle, reaction l.closeObstacle⟩

/-- The session's side closes the connection in order. -/
def closeOrderly (l : Line) : Line :=
  match l.transport with
  | .memory => l
  | .webSocket =>
    { l.hand [.closing (l.closeRead.getD none)] with closeSent := l.closeRead.isNone }

/-- The session's side lets go of the connection. -/
def release (l : Line) : Line :=
  if l.gone then l else { l.hand [.ended] with gone := true }

/-- How an effect of the session's writer ends the connection, if it does. -/
def afterEffect (l : Line) : Writer.Effect → Line
  | .delivered _ _ => l
  | .broke _ | .abandoned _ => l.release
  | .closed => l.closeOrderly.release

/-- The connection after a run of the session's writer. Nothing is delivered
after the end, so all messages go first. -/
def afterRun (l : Line) (effects : List Writer.Effect) : Line :=
  effects.foldl afterEffect (l.hand (effects.filterMap fun
    | .delivered f _ => some (.message f.encode)
    | _ => none))

/-- Most bytes a message of a WebSocket may have that this end accepts. -/
def messageLimit : Nat := 16777216

/-- What receiving a binary message of this length fails with, if it does. -/
def messageFault (l : Line) (length : Nat) : Option String :=
  if l.transport = .webSocket && messageLimit < length then
    some s!"Space limit exceeded: Message too long: {length} > {messageLimit}"
  else none

/-- Most bytes the control messages of a WebSocket may carry. -/
def controlLimit : Nat := 125

/-- What receiving a control message fails with that carries more. -/
def controlFault : String :=
  s!"WebSocket protocol error: Control frame too big (payload must be {controlLimit} bytes or less)"

/-- Whether the peer's sending half can still be used. -/
def peerCanSend (l : Line) : Bool := l.peer = .sending && !l.gone

end Line
end StreamMux
