/-
A client and a server session joined by a connection that keeps messages in
order and delivers each once. Frames that a session queues wait at its end
until they are written, and messages travel until they are read; each of these
is a move of its own, so that every interleaving is a sequence of moves. The
connection may be cut at any moment: of what is under way then only a first
part still arrives, in each direction. An end finds out when it next reads or
writes, or at any other time, but a frame written to a cut connection may also be
lost unnoticed.
-/
import StreamMux.Session.Event

namespace StreamMux

/-- One end of the connection. -/
structure End where
  session : Session
  /-- Frames queued and not written yet. -/
  queue : List Frame
  /-- Messages this end has written and the other has not read. -/
  underWay : List Bytes
  /-- This end has closed the connection behind its last message. -/
  hungUp : Bool

structure Link where
  client : End
  server : End
  cut : Bool

namespace Link

def newEnd (session : Session) : End := ⟨session, [], [], false⟩

/-- Two sessions with nothing queued or under way between them. -/
def join (client server : Session) : Link := ⟨newEnd client, newEnd server, false⟩

/-- Two new sessions of one configuration. -/
def make (config : Config) : Link := join (.make .client config) (.make .server config)

def endOf (l : Link) : Role → End
  | .client => l.client
  | .server => l.server

def setEnd (l : Link) (role : Role) (e : End) : Link :=
  match role with
  | .client => { l with client := e }
  | .server => { l with server := e }

/-- An operation on one session; what it queues waits at its end. -/
def perform {α : Type} (l : Link) (role : Role) (op : Session → Outcome Session α) : α × Link :=
  let e := l.endOf role
  let o := op e.session
  (o.result, l.setEnd role { e with session := o.state, queue := e.queue ++ o.frames })

/-- One end writes the next frame it has queued. On a connection that was cut
this fails and ends its session. -/
def write (l : Link) (role : Role) : Link :=
  let e := l.endOf role
  match e.queue with
  | [] => l
  | f :: rest =>
    if l.cut then (l.perform role (·.connectionFailed "connection cut")).2
    else
      l.setEnd role { e with
        queue := rest
        underWay := e.underWay ++ [f.encode]
        session := e.session.recordSent f }

/-- One end reads the next message of the other, or finds that none will come. -/
def read (l : Link) (role : Role) : Link :=
  let other := l.endOf role.other
  match other.underWay with
  | message :: rest =>
    ((l.setEnd role.other { other with underWay := rest }).perform role (·.receive message)).2
  | [] =>
    if other.hungUp || l.cut then (l.perform role (·.connectionEnded)).2 else l

/-- An end whose session is over and that has written everything closes the
connection on its side. -/
def hangUp (l : Link) (role : Role) : Link :=
  let e := l.endOf role
  if e.session.isClosed && e.queue.isEmpty then l.setEnd role { e with hungUp := true } else l

/-- The connection is cut. So many messages of each end still arrive; the others
that were under way are lost. -/
def sever (l : Link) (ofClient ofServer : Nat) : Link :=
  { client := { l.client with underWay := l.client.underWay.take ofClient }
    server := { l.server with underWay := l.server.underWay.take ofServer }
    cut := true }

/-- One end writes the next frame it has queued to a connection that was cut,
and does not notice that it is lost. -/
def lose (l : Link) (role : Role) : Link :=
  let e := l.endOf role
  match e.queue with
  | [] => l
  | f :: rest =>
    if l.cut then l.setEnd role { e with queue := rest, session := e.session.recordSent f } else l

/-- One end finds out that the connection was cut. -/
def fail (l : Link) (role : Role) (text : String) : Link :=
  if l.cut then (l.perform role (·.connectionFailed text)).2 else l

inductive Move
  | call (role : Role) (c : Session.Call)
  | write (role : Role)
  | read (role : Role)
  | hangUp (role : Role)
  | sever (ofClient ofServer : Nat)
  | lose (role : Role)
  | fail (role : Role) (text : String)

def step (l : Link) : Move → Session.Reply × Link
  | .call role c => l.perform role (·.call c)
  | .write role => (.nothing, l.write role)
  | .read role => (.nothing, l.read role)
  | .hangUp role => (.nothing, l.hangUp role)
  | .sever ofClient ofServer => (.nothing, l.sever ofClient ofServer)
  | .lose role => (.nothing, l.lose role)
  | .fail role text => (.nothing, l.fail role text)

/-- The link after a sequence of moves. -/
def after (l : Link) (moves : List Move) : Link := moves.foldl (fun l m => (l.step m).2) l

/-- A sequence of moves, each with what it was answered. -/
def trace (l : Link) : List Move → List (Move × Session.Reply)
  | [] => []
  | m :: rest => (m, (l.step m).1) :: trace (l.step m).2 rest

/-- The links of this configuration that can be met. -/
inductive Reachable (config : Config) : Link → Prop
  | start : Reachable config (make config)
  | step {l : Link} (m : Move) : Reachable config l → Reachable config (l.step m).2

/-- No frame waits to be written and no message to be read. -/
def Quiet (l : Link) : Prop :=
  l.client.queue = [] ∧ l.server.queue = [] ∧ l.client.underWay = [] ∧ l.server.underWay = []

end Link
end StreamMux
