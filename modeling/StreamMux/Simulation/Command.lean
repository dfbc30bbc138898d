/-
The steps a script is made of, and what each answers. After every step all
that can run by itself has run: sessions have taken the messages they were
sent, waiting calls that can go on have done so, and writers have handed out
what their connections take.
-/
import StreamMux.Simulation.World

namespace StreamMux.Simulation

/-- Why a step is not carried out. -/
inductive Refusal
  | noHandle | noSide | noSession | noTask | taskExists | handleExists | busy
  | peerGone | memoryClosed | notWebSocket | webSocketClosed
deriving DecidableEq, Repr

def Refusal.name : Refusal → String
  | noHandle => "NoHandle"
  | noSide => "NoSide"
  | noSession => "NoSession"
  | noTask => "NoTask"
  | taskExists => "TaskExists"
  | handleExists => "HandleExists"
  | busy => "Busy"
  | peerGone => "PeerGone"
  | memoryClosed => "MemoryClosed"
  | notWebSocket => "NotWs"
  | webSocketClosed => "WsClosed"

/-- Something a WebSocket peer may send that carries no frame. -/
inductive Signal
  | text
  | ping (bytes : Bytes)
  | pong (bytes : Bytes)
  | close (reason : Option CloseReason)
deriving DecidableEq, Repr

/-- Number of bytes a control message carries; a close message has two for the
code. -/
def Signal.controlLength : Signal → Nat
  | text | close none => 0
  | ping bytes | pong bytes => bytes.length
  | close (some reason) => 2 + reason.text.utf8ByteSize

/-- Whether a session cannot read on behind it. -/
def Signal.isOverlong (s : Signal) : Bool := Line.controlLimit < s.controlLength

/-- What a step does on a stream. -/
inductive StreamCommand
  | read (room : Nat)
  | readExact (count : Nat)
  | readAll (room : Nat)
  | write (bytes : Bytes)
  | writeAll (bytes : Bytes)
  | close | shutdown | flush | reset | drop
  | readDeadline (ms : Option Nat)
  | writeDeadline (ms : Option Nat)
  | describe
deriving Repr

/-- What a step does on one side. -/
inductive SideCommand
  | inject (message : Bytes)
  | signal (s : Signal)
  | peerClose | peerDrop
  | peerError (text : String)
  | failSends (text : String)
  | stall | unstall
  | openStream (handle : String)
  | accept (handle : String)
  | closed | closeSession | dropSession | describe | role | stats
deriving Repr

inductive Command
  | advance (ms : Nat)
  | cancel (task : String)
  /-- Carries parcels from the peer of `sender` to the other side. -/
  | deliver (sender : Role) (count : Nat)
  | pump
  | onStream (handle : String) (c : StreamCommand)
  /-- Without a role it is about a side that does not exist. -/
  | onSide (role : Option Role) (c : SideCommand)
deriving Repr

/-- What a step answers. -/
inductive Answer
  | ended (r : Result)
  /-- It goes on in the background. -/
  | started
  /-- It was given up after this much. -/
  | pending (p : Progress)
  | progress (p : Progress)
  | refused (r : Refusal)
  | text (s : String)
  | stats (s : Stats)
  | number (n : Nat)
  | pair (a b : Nat)
deriving Repr

namespace World

/-- A world with a session on each given side, all on connections of one kind. -/
def make (transport : Transport) (client server : Option Config) :
    Except Session.StartError World := do
  let side (role : Role) (config : Option Config) : Except Session.StartError (Option Side) :=
    match config with
    | none => .ok none
    | some config => do
      let session ← Session.start role config
      return some {
        toEndpoint := .make session, present := true, line := .make transport, closing := false }
  let client ← side .client client
  let server ← side .server server
  let started (s : Option Side) : List Diagnostic := if s.isSome then [.sessionStarted] else []
  return {
    now := 0, client, server, handles := [], tasks := [], woken := [], nextTicket := 0
    log := started client ++ started server, finished := [] }

/-- The side a step is about when it names none. -/
def defaultRole (w : World) : Role := if w.client.isSome then .client else .server

/-- The side a step is about, if there is one. -/
def target? (w : World) (role : Option Role) : Option (Role × Side) := do
  let role ← role
  let side ← w.side? role
  return (role, side)

/-! ### What peers do -/

/-- A message reaches the session of `role`, or the connection breaks on it. Since all that
can run has run by then, the reader of a session that has ended has stopped. -/
def deliverMessage (w : World) (role : Role) (side : Side) (message : Bytes) : World :=
  if side.session.isClosed then run w
  else
    run (w.onSession role fun s =>
      match side.line.messageFault message.length with
      | none => s.receive message
      | some text => s.connectionFailed text)

/-- The peer of `role` sends a message. -/
def inject (w : World) (role : Role) (side : Side) (message : Bytes) : World × Option Refusal :=
  if side.line.peer = .vanished then (w, some .peerGone)
  else if side.line.peerCanSend then (w.deliverMessage role side message, none)
  else
    (w, some (match side.line.transport with
      | .memory => .memoryClosed
      | .webSocket => .webSocketClosed))

/-- The peer of `role` ends its sending half; over a WebSocket with a close
message that gives this reason. -/
def endPeer (w : World) (role : Role) (side : Side) (reason : Option CloseReason) : World :=
  let w := w.updateLine role fun l => { l with
    peer := .closed
    closeRead :=
      if l.transport = .webSocket && !side.session.isClosed then
        some (reason.map (·.repeated))
      else l.closeRead }
  run (w.onSession role (·.connectionEnded))

/-- The peer of `role` sends a control message the session cannot read. -/
def overrunControl (w : World) (role : Role) (s : Signal) : World :=
  let w := match s with
    | .close _ => w.updateLine role fun l => { l with peer := .closed }
    | _ => w
  run (w.onSession role (·.connectionFailed Line.controlFault))

def peerClose (w : World) (role : Role) (side : Side) : World × Option Refusal :=
  match side.line.peer with
  | .vanished => (w, some .peerGone)
  | .closed => (w, none)
  | .sending =>
    if side.line.closeSent then (w, some .webSocketClosed)
    else if side.line.gone then (w.updateLine role fun l => { l with peer := .closed }, none)
    else (w.endPeer role side none, none)

def peerDrop (w : World) (role : Role) (side : Side) : World :=
  let w := w.updateLine role fun l => { l with
    peer := .vanished
    unnoticed :=
      if l.peer = .vanished then l.unnoticed
      else l.transport = .webSocket && side.session.isClosed }
  run (w.onSession role fun s =>
    match side.line.transport, side.line.peer with
    | .webSocket, .sending =>
      s.connectionFailed "WebSocket protocol error: Connection reset without closing handshake"
    | _, _ => s.connectionEnded)

/-- A message without a frame reaches a session that still reads. -/
def signal (w : World) (role : Role) (side : Side) (s : Signal) : World × Option Refusal :=
  if side.line.transport = .memory || side.line.peer = .vanished then (w, some .notWebSocket)
  else if !side.line.peerCanSend then (w, some .webSocketClosed)
  else if s.isOverlong then (w.overrunControl role s, none)
  else
    match s with
    | .close reason => (w.endPeer role side reason, none)
    | .text | .pong _ =>
      (if side.session.isClosed then w else w.report [.nonBinaryIgnored], none)
    | .ping bytes =>
      (if side.session.isClosed then w
        else (w.updateLine role (·.hand [.pong bytes])).report [.nonBinaryIgnored], none)

/-- Carries one parcel that reached the peer of `sender` to the other session.
What cannot be given there is lost. -/
def carry (w : World) (sender : Role) (p : Parcel) : World :=
  match w.side? sender.other with
  | none => w
  | some side =>
    match p with
    | .message bytes => (w.inject sender.other side bytes).1
    | .ended => (w.peerClose sender.other side).1
    | .pong _ | .closing _ => w

/-- Carries the next parcel from the peer of `sender`, if there is one. -/
def carryNext (w : World) (sender : Role) : Option World :=
  match w.side? sender with
  | none => none
  | some side =>
    match side.line.parcels with
    | [] => none
    | p :: rest => some ((w.updateLine sender fun l => { l with parcels := rest }).carry sender p)

/-- Carries up to `limit` parcels; answers how many there were. -/
def carryUpTo (w : World) (sender : Role) : Nat → World × Nat
  | 0 => (w, 0)
  | limit + 1 =>
    match w.carryNext sender with
    | none => (w, 0)
    | some w =>
      let (w, n) := w.carryUpTo sender limit
      (w, n + 1)

/-- The bytes of a parcel, and one for the parcel itself. -/
def weight : Parcel → Nat
  | .message bytes => bytes.length + 1
  | .pong _ | .closing _ | .ended => 1

/-- The sum of what each element of a list counts for. -/
def total {α : Type} (count : α → Nat) (l : List α) : Nat := l.foldr (fun a n => count a + n) 0

/-- An upper bound on the parcels two sessions can still exchange while only
carried messages move them: what lies at the peers or on the way there, what
unread and unsent bytes can still cause, and the ends of both connections. -/
def traffic (w : World) : Nat :=
  let ofSide (s : Option Side) : Nat :=
    match s with
    | none => 0
    | some s =>
      total weight s.line.parcels + total (·.encodedLength) s.writer.queue +
        s.session.streams.length + total (·.buffered) s.session.streams + 4
  let ofTask (t : Task) : Nat :=
    match t.work with
    | .write _ bytes | .writeAll _ bytes _ => bytes.length
    | _ => 0
  4 * (ofSide w.client + ofSide w.server + total ofTask w.tasks + 2)

/-- Carries parcels back and forth until a round moves none; `fuel` bounds the
rounds and `limit` the parcels of a half round. -/
def pumpRounds (w : World) (limit : Nat) (a b : Nat) : Nat → World × Nat × Nat
  | 0 => (w, a, b)
  | fuel + 1 =>
    let (w, n) := w.carryUpTo .client limit
    let (w, m) := w.carryUpTo .server limit
    if n + m = 0 then (w, a, b) else w.pumpRounds limit (a + n) (b + m) fuel

def pump (w : World) : World × Nat × Nat :=
  let limit := w.traffic
  w.pumpRounds limit 0 0 limit

/-! ### Calls of the application -/

/-- A call that is given up leaves the line it waits in. -/
def forget (w : World) : Work → World
  | .accept role ticket _ =>
    run (w.updateSide role fun s => { s with session := s.session.cancelAccept ticket })
  | _ => w

/-- Starts a call. In the foreground it is given up if it has to wait, unless
it is `patient`: then time passes until it has ended. -/
def startCall (w : World) (name : Option String) (work : Work) (patient : Bool) : World × Answer :=
  let w := run { w with tasks := w.tasks ++ [⟨name, work, false⟩] }
  if name.isSome then (w, .started)
  else
    let w := if patient then w.awaitCurrent (w.tasks.length + 4) else w
    match w.finished.find? (·.1.isNone) with
    | some (_, result) => ({ w with finished := w.finished.filter (·.1.isSome) }, .ended result)
    | none =>
      match w.tasks.find? (·.name.isNone) with
      | none => (w, .pending .nothing)
      | some t =>
        let w := { w with tasks := w.tasks.filter (·.name.isSome) }
        (w.forget t.work, .pending t.work.progress)

def reads (w : World) (handle : String) : Bool :=
  w.tasks.any (·.work.readsFrom? == some handle)

def writes (w : World) (handle : String) : Bool :=
  w.tasks.any (·.work.writesTo? == some handle)

/-- Applies an operation to the stream behind a handle. -/
def onHandle {α : Type} (w : World) (h : Held) (op : Session → Stream → Outcome Session α) :
    World × Option α :=
  match w.stream? h with
  | none => (w, none)
  | some (side, st) =>
    let o := op side.session st
    (run (w.settleOutcome h.role side o), some o.result)

def setHandle (w : World) (name : String) (f : Held → Held) : World :=
  { w with handles := w.handles.map fun h => if h.name = name then f h else h }

def streamCommand (w : World) (h : Held) (task : Option String) :
    StreamCommand → World × Answer
  | .read room => reading (.read h.name room)
  | .readExact count => reading (.readExact h.name count [])
  | .readAll room => reading (.readAll h.name room [])
  | .write bytes => writing (.write h.name bytes)
  | .writeAll bytes => writing (.writeAll h.name bytes 0)
  | .close =>
    let (w, r) := w.onHandle h (·.closeWrite ·)
    (w, .ended (match r with
      | some (.error f) => .fault f
      | _ => .ok))
  | .shutdown =>
    let (w, r) := w.onHandle h (·.closeWrite ·)
    (w, .ended (match r with
      | some (.error f) => .ioFault f .nothing
      | _ => .ok))
  | .flush => (w, .ended .ok)
  | .reset => ((w.onHandle h (·.reset ·)).1, .ended .ok)
  | .drop =>
    if w.reads h.name || w.writes h.name then (w, .refused .busy)
    else
      let w := (w.onHandle h (·.dropHandle ·)).1
      ({ w with handles := w.handles.filter (·.name != h.name) }, .ended .ok)
  | .readDeadline ms =>
    if w.reads h.name then (w, .refused .busy)
    else
      let deadline := ms.map (w.now + ·)
      (w.setHandle h.name fun h => { h with readDeadline := deadline }, .ended .ok)
  | .writeDeadline ms =>
    if w.writes h.name then (w, .refused .busy)
    else
      let deadline := ms.map (w.now + ·)
      (w.setHandle h.name fun h => { h with writeDeadline := deadline }, .ended .ok)
  | .describe => (w, .text (((w.stream? h).map (·.2.describe)).getD ""))
where
  reading (work : Work) : World × Answer :=
    if w.reads h.name then (w, .refused .busy) else w.startCall task work false
  writing (work : Work) : World × Answer :=
    if w.writes h.name then (w, .refused .busy) else w.startCall task work false

/-- Whether a handle of this name exists or is being waited for. -/
def nameTaken (w : World) (name : String) : Bool :=
  w.handles.any (·.name == name) || w.tasks.any fun t =>
    match t.work with
    | .accept _ _ n => n == name
    | _ => false

/-- A step on a session that is still there. -/
def sessionCommand (w : World) (role : Role) (side : Side) (task : Option String) :
    SideCommand → World × Answer
  | .openStream name =>
    if w.nameTaken name then (w, .refused .handleExists)
    else
      let o := side.session.openStream
      let w := run (w.settleOutcome role side o)
      match o.result with
      | .error f => (w, .ended (.fault f))
      | .ok id =>
        ({ w with handles := w.handles ++ [⟨name, role, id, none, none⟩] }, .ended (.opened id))
  | .accept name =>
    if w.nameTaken name then (w, .refused .handleExists)
    else
      let ticket := w.nextTicket
      { w with nextTicket := ticket + 1 }.startCall task (.accept role ticket name) false
  | .closed => w.startCall task (.closed role) false
  | .closeSession => w.startCall task (.closeSession role none) true
  | .dropSession =>
    if w.tasks.any (·.work.role? == some role) then (w, .refused .busy)
    else
      let w := w.updateSide role fun s => { s with present := false }
      (run (w.onSession role (·.close)), .ended .ok)
  | .describe => (w, .text side.session.describe)
  | .role => (w, .text role.name)
  | .stats => (w, .stats side.session.stats)
  | _ => (w, .ended .ok)

def sideCommand (w : World) (role : Role) (side : Side) (task : Option String)
    (c : SideCommand) : World × Answer :=
  let told (r : World × Option Refusal) : World × Answer :=
    (r.1, match r.2 with
      | none => .ended .ok
      | some refusal => .refused refusal)
  let onLine (f : Line → Line) : World × Answer := (run (w.updateLine role f), .ended .ok)
  match c with
  | .inject message => told (w.inject role side message)
  | .signal s => told (w.signal role side s)
  | .peerClose => told (w.peerClose role side)
  | .peerDrop => (w.peerDrop role side, .ended .ok)
  | .peerError text => (run (w.onSession role (·.connectionFailed text)), .ended .ok)
  | .failSends text => onLine fun l => { l with sendFault := some text }
  | .stall => onLine fun l => { l with stalled := true }
  | .unstall => onLine fun l => { l with stalled := false }
  | c => if side.present then w.sessionCommand role side task c else (w, .refused .noSession)

/-- Forgets what the last step reported. -/
def beginStep (w : World) : World :=
  let clear (s : Side) : Side := { s with line := { s.line with arrived := [] } }
  { w with client := w.client.map clear, server := w.server.map clear, log := [], finished := [] }

/-- Carries out one step. `task` names it if it may go on in the background. -/
def execute (w : World) (task : Option String) (c : Command) : World × Answer :=
  if task.isSome && w.tasks.any (·.name == task) then (w, .refused .taskExists)
  else
    match c with
    | .advance ms => (w.advance ms, .ended .ok)
    | .cancel name =>
      match w.tasks.find? (·.name == some name) with
      | none => (w, .refused .noTask)
      | some t =>
        let w := { w with tasks := w.tasks.filter (·.name != some name) }
        (w.forget t.work, .progress t.work.progress)
    | .deliver sender count =>
      let (w, n) := w.carryUpTo sender count
      (w, .number n)
    | .pump =>
      let (w, a, b) := w.pump
      (w, .pair a b)
    | .onStream handle c =>
      match w.handle? handle with
      | none => (w, .refused .noHandle)
      | some h => w.streamCommand h task c
    | .onSide role c =>
      match w.target? role with
      | none => (w, .refused .noSide)
      | some (role, side) => w.sideCommand role side task c

end World
end StreamMux.Simulation
