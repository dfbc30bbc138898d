/-
Sessions on connections whose far ends are scripted, under a clock that only
the script moves: the state of such a world, and how the parts that run by
themselves move on.

Work that waits is not tried again and again. A read or write is tried when it
starts, when the session has woken it, and when its deadline has come; so a session
that forgot to wake it would leave it waiting.
-/
import StreamMux.Endpoint
import StreamMux.Simulation.Line

namespace StreamMux.Simulation

/-- One end with its connection. -/
structure Side extends Endpoint where
  /-- The application still has the session. -/
  present : Bool
  line : Line
  /-- A closing call waits, or has waited, for the writer. -/
  closing : Bool
deriving Repr

/-- A stream handle of the script. -/
structure Held where
  name : String
  role : Role
  id : UInt32
  readDeadline : Option Nat
  writeDeadline : Option Nat
deriving Repr

/-- A call that may have to wait, with what it has achieved so far. Bytes read
are kept in pieces, the last piece first. -/
inductive Work
  | read (handle : String) (room : Nat)
  /-- Reads until `missing` further bytes are there. -/
  | readExact (handle : String) (missing : Nat) (got : List Bytes)
  /-- Reads `room` bytes at a time until the stream ends. -/
  | readAll (handle : String) (room : Nat) (got : List Bytes)
  | write (handle : String) (bytes : Bytes)
  /-- Writes all of `rest`; `count` bytes are written. -/
  | writeAll (handle : String) (rest : Bytes) (count : Nat)
  /-- Waits for a stream, which gets the name `handle`. -/
  | accept (role : Role) (ticket : Nat) (handle : String)
  /-- Waits for the end of the session. -/
  | closed (role : Role)
  /-- Closes the session and waits for its writer, if there is a deadline. -/
  | closeSession (role : Role) (deadline : Option Nat)
deriving Repr

/-- How far a call has come. -/
inductive Progress
  | nothing
  | bytes (got : Bytes)
  | count (n : Nat)
deriving Repr

/-- How a call ended. -/
inductive Result
  | ok
  | opened (id : UInt32)
  | bytes (got : Bytes)
  /-- The stream ended before all bytes were there. -/
  | endedEarly (got : Bytes)
  | count (n : Nat)
  /-- A call on a session failed. -/
  | fault (f : Fault)
  /-- A read, write or shutdown failed after some progress. -/
  | ioFault (f : Fault) (before : Progress)
deriving Repr

structure Task where
  /-- Its name in the script; none for the call of the current step. -/
  name : Option String
  work : Work
  started : Bool
deriving Repr

structure World where
  now : Nat
  client : Option Side
  server : Option Side
  handles : List Held
  tasks : List Task
  /-- Reads and writes that were woken since they last had to wait. -/
  woken : List (Role × Wake)
  /-- Number of the next accept call. -/
  nextTicket : Nat
  /-- Reports since the last step of the script began. -/
  log : List Diagnostic
  /-- Tasks that ended since then. -/
  finished : List (Option String × Result)
deriving Repr

namespace Work

def role? : Work → Option Role
  | accept role _ _ | closed role | closeSession role _ => some role
  | _ => none

/-- The handle the call reads from. -/
def readsFrom? : Work → Option String
  | read h _ | readExact h _ _ | readAll h _ _ => some h
  | _ => none

/-- The handle the call writes to. -/
def writesTo? : Work → Option String
  | write h _ | writeAll h _ _ => some h
  | _ => none

def progress : Work → Progress
  | readExact _ _ got | readAll _ _ got => .bytes got.reverse.flatten
  | writeAll _ _ n => .count n
  | _ => .nothing

end Work

/-- Whether a deadline has come. -/
def due (deadline : Option Nat) (now : Nat) : Bool :=
  match deadline with
  | some d => d ≤ now
  | none => false

namespace World

def side? (w : World) : Role → Option Side
  | .client => w.client
  | .server => w.server

def setSide (w : World) (role : Role) (s : Side) : World :=
  match role with
  | .client => { w with client := some s }
  | .server => { w with server := some s }

def updateSide (w : World) (role : Role) (f : Side → Side) : World :=
  match w.side? role with
  | some s => w.setSide role (f s)
  | none => w

def updateLine (w : World) (role : Role) (f : Line → Line) : World :=
  w.updateSide role fun s => { s with line := f s.line }

def handle? (w : World) (name : String) : Option Held := w.handles.find? (·.name == name)

def report (w : World) (notes : List Diagnostic) : World := { w with log := w.log ++ notes }

/-- Remembers whom the session of `role` has woken. -/
def wake (w : World) (role : Role) (wakes : List Wake) : World :=
  { w with woken := w.woken ++ wakes.map (role, ·) }

/-- A call that has to wait counts as woken no longer. -/
def suspend (w : World) (role : Role) (call : Wake) : World :=
  { w with woken := w.woken.filter (· ≠ (role, call)) }

/-- Takes over what an operation on the session of `role` did. -/
def settleOutcome {α : Type} (w : World) (role : Role) (side : Side) (o : Outcome Session α) :
    World :=
  ((w.setSide role { side with toEndpoint := side.settle o }).wake role o.wakes).report o.notes

/-- Runs an operation on the session of `role`. -/
def onSession (w : World) (role : Role) (op : Session → Outcome Session Unit) : World :=
  match w.side? role with
  | some side => w.settleOutcome role side (op side.session)
  | none => w

/-- The stream behind a handle, with its side. -/
def stream? (w : World) (h : Held) : Option (Side × Stream) := do
  let side ← w.side? h.role
  let st ← side.session.held? h.id
  return (side, st)

/-! ### The writers -/

/-- Lets the writer of `role` move as far as its connection allows. -/
def runWriter (w : World) (role : Role) : World :=
  match w.side? role with
  | none => w
  | some side =>
    let (e, effects, wakes, notes) := side.write side.line.outlet w.now
    ((w.setSide role { side with
      toEndpoint := e
      line := side.line.afterRun effects }).wake role wakes).report notes

/-! ### Calls that may wait -/

/-- One read on a handle. -/
def tryRead (w : World) (name : String) (room : Nat) : World × Poll (Except Fault Bytes) :=
  match w.handle? name with
  | none => (w, .pending)
  | some h =>
    match w.stream? h with
    | none => (w, .pending)
    | some (side, st) =>
      let o := side.session.read st room (due h.readDeadline w.now)
      let w := w.settleOutcome h.role side o
      (match o.result with
        | .pending => w.suspend h.role (.reader h.id)
        | .ready _ => w, o.result)

/-- One write on a handle. -/
def tryWrite (w : World) (name : String) (bytes : Bytes) : World × Poll (Except Fault Nat) :=
  match w.handle? name with
  | none => (w, .pending)
  | some h =>
    match w.stream? h with
    | none => (w, .pending)
    | some (side, st) =>
      let o := side.session.write st bytes (due h.writeDeadline w.now)
      let w := w.settleOutcome h.role side o
      (match o.result with
        | .pending => w.suspend h.role (.writer h.id)
        | .ready _ => w, o.result)

/-- Number of unread bytes behind a handle. -/
def unreadCount (w : World) (name : String) : Nat :=
  match w.handle? name with
  | none => 0
  | some h => ((w.stream? h).map (·.2.buffered)).getD 0

/-- Either the call goes on waiting, or it has ended. -/
abbrev Turn := Work ⊕ Result

/-- Reads for `readExact` until it has to wait. Each read takes at least one of
the bytes that are missing, so `missing` bounds the number of reads. -/
def pollReadExact (w : World) (handle : String) (got : List Bytes) :
    Nat → Nat → World × Turn
  | _, 0 => (w, .inr (.bytes got.reverse.flatten))
  | 0, missing => (w, .inl (.readExact handle missing got))
  | fuel + 1, missing =>
    let (w, answer) := w.tryRead handle missing
    match answer with
    | .pending => (w, .inl (.readExact handle missing got))
    | .ready (.error f) => (w, .inr (.ioFault f (.bytes got.reverse.flatten)))
    | .ready (.ok []) => (w, .inr (.endedEarly got.reverse.flatten))
    | .ready (.ok bytes) => pollReadExact w handle (bytes :: got) fuel (missing - bytes.length)

/-- Reads for `readAll` until it has to wait. Each read but the last takes at
least one unread byte, so these bound the number of reads. -/
def pollReadAll (w : World) (handle : String) (room : Nat) (got : List Bytes) :
    Nat → World × Turn
  | 0 => (w, .inl (.readAll handle room got))
  | fuel + 1 =>
    let (w, answer) := w.tryRead handle room
    match answer with
    | .pending => (w, .inl (.readAll handle room got))
    | .ready (.error f) => (w, .inr (.ioFault f (.bytes got.reverse.flatten)))
    | .ready (.ok []) => (w, .inr (.bytes got.reverse.flatten))
    | .ready (.ok bytes) => pollReadAll w handle room (bytes :: got) fuel

/-- Writes for `writeAll` until it has to wait. Each write takes at least one
byte of the rest, so its length bounds the number of writes. -/
def pollWriteAll (w : World) (handle : String) : Nat → Bytes → Nat → World × Turn
  | _, [], count => (w, .inr (.count count))
  | 0, rest, count => (w, .inl (.writeAll handle rest count))
  | fuel + 1, rest, count =>
    let (w, answer) := w.tryWrite handle rest
    match answer with
    | .pending => (w, .inl (.writeAll handle rest count))
    | .ready (.error f) => (w, .inr (.ioFault f (.count count)))
    | .ready (.ok n) => pollWriteAll w handle fuel (rest.drop n) (count + n)

/-- Closing a session waits for its writer, but only the first such call does
and only for `closeGrace`; then the connection is dropped. -/
def pollClose (w : World) (role : Role) (deadline : Option Nat) : World × Turn :=
  match w.side? role, deadline with
  | none, _ => (w, .inr .ok)
  | some side, none =>
    let w := w.onSession role (·.close)
    if side.closing then (w, .inr .ok)
    else
      (w.updateSide role fun s => { s with closing := true },
        .inl (.closeSession role (some (w.now + closeGrace))))
  | some side, some d =>
    if side.writer.phase = .finished then (w, .inr .ok)
    else if d ≤ w.now then
      let w := w.updateSide role fun s =>
        { s with toEndpoint := s.toEndpoint.giveUp, line := s.line.release }
      (w.report [.connectionGivenUp], .inr .ok)
    else (w, .inl (.closeSession role (some d)))

/-- Tries a call once. -/
def poll (w : World) : Work → World × Turn
  | .read handle room =>
    let (w, answer) := w.tryRead handle room
    (w, match answer with
      | .pending => .inl (.read handle room)
      | .ready (.ok bytes) => .inr (.bytes bytes)
      | .ready (.error f) => .inr (.ioFault f .nothing))
  | .readExact handle missing got => w.pollReadExact handle got missing missing
  | .readAll handle room got => w.pollReadAll handle room got (w.unreadCount handle + 1)
  | .write handle bytes =>
    let (w, answer) := w.tryWrite handle bytes
    (w, match answer with
      | .pending => .inl (.write handle bytes)
      | .ready (.ok n) => .inr (.count n)
      | .ready (.error f) => .inr (.ioFault f .nothing))
  | .writeAll handle rest count => w.pollWriteAll handle rest.length rest count
  | .accept role ticket handle =>
    match w.side? role with
    | none => (w, .inl (.accept role ticket handle))
    | some side =>
      let o := side.session.accept ticket
      let w := w.settleOutcome role side o
      match o.result with
      | .pending => (w, .inl (.accept role ticket handle))
      | .ready (.error f) => (w, .inr (.fault f))
      | .ready (.ok id) =>
        ({ w with handles := w.handles ++ [⟨handle, role, id, none, none⟩] }, .inr (.opened id))
  | .closed role =>
    match w.side? role with
    | none => (w, .inl (.closed role))
    | some side =>
      match side.session.closed with
      | .pending => (w, .inl (.closed role))
      | .ready cause => (w, .inr (.fault cause))
  | .closeSession role deadline => w.pollClose role deadline

/-- Whether a waiting call has been given a reason to be tried again. -/
def roused (w : World) (work : Work) : Bool :=
  let onStream (name : String) (call : UInt32 → Wake) (deadline : Held → Option Nat) : Bool :=
    match w.handle? name with
    | none => false
    | some h => due (deadline h) w.now || w.woken.contains (h.role, call h.id)
  match work with
  | .read h _ | .readExact h _ _ | .readAll h _ _ => onStream h .reader (·.readDeadline)
  | .write h _ | .writeAll h _ _ => onStream h .writer (·.writeDeadline)
  | .accept role ticket _ =>
    match w.side? role with
    | none => false
    | some side =>
      side.session.acceptors.head? = some ticket &&
        (side.session.isClosed || !side.session.backlog.isEmpty)
  | .closed role =>
    match w.side? role with
    | none => false
    | some side => side.session.isClosed
  | .closeSession role deadline =>
    match w.side? role with
    | none => true
    | some side => side.writer.phase = .finished || due deadline w.now

/-- Whether a task is to be tried now. -/
def wants (w : World) (t : Task) : Bool := !t.started || w.roused t.work

/-- Tries the tasks that are to be tried, in order, and answers those left. -/
def runTasks (w : World) : List Task → World × List Task
  | [] => (w, [])
  | t :: rest =>
    if w.wants t then
      let (w, turn) := w.poll t.work
      match turn with
      | .inl work =>
        let (w, left) := w.runTasks rest
        (w, { t with work, started := true } :: left)
      | .inr result => { w with finished := w.finished ++ [(t.name, result)] }.runTasks rest
    else
      let (w, left) := w.runTasks rest
      (w, t :: left)

/-- Lets everything run until no task is to be tried. A task that goes on
waiting is roused again only by the end of a session or by its turn in a line,
so `fuel` rounds are enough. -/
def runRounds (w : World) : Nat → World
  | 0 => w
  | fuel + 1 =>
    let (w, tasks) := w.runTasks w.tasks
    let w := (({ w with tasks }).runWriter .client).runWriter .server
    if w.tasks.any w.wants then w.runRounds fuel else w

def run (w : World) : World := w.runRounds (3 * w.tasks.length + 8)

/-! ### Time -/

/-- The deadlines of a waiting task. -/
def taskDeadline? (w : World) (t : Task) : Option Nat :=
  match t.work with
  | .closeSession _ deadline => deadline
  | work =>
    match work.readsFrom?, work.writesTo? with
    | some h, _ => (w.handle? h).bind (·.readDeadline)
    | none, some h => (w.handle? h).bind (·.writeDeadline)
    | none, none => none

def writerDeadline? (s : Side) : Option Nat :=
  match s.writer.phase with
  | .draining d => some d
  | _ => none

/-- Every deadline that is still to come. -/
def deadlines (w : World) : List Nat :=
  (w.tasks.filterMap w.taskDeadline? ++ (w.client.bind writerDeadline?).toList ++
    (w.server.bind writerDeadline?).toList).filter (w.now < ·)

/-- The next deadline, if there is one. -/
def nextDeadline? (w : World) : Option Nat := w.deadlines.min?

/-- Moves the clock to `target`, stopping at every deadline on the way. -/
def advanceTo (w : World) (target : Nat) : Nat → World
  | 0 => { w with now := target }
  | fuel + 1 =>
    match w.nextDeadline? with
    | some d =>
      if d ≤ target then (run { w with now := d }).advanceTo target fuel
      else { w with now := target }
    | none => { w with now := target }

def advance (w : World) (ms : Nat) : World :=
  w.advanceTo (w.now + ms) (w.tasks.length + 4)

/-- Moves the clock from deadline to deadline until the call of the current
step has ended or nothing is left to wait for. -/
def awaitCurrent (w : World) : Nat → World
  | 0 => w
  | fuel + 1 =>
    if w.tasks.all (·.name.isSome) then w
    else match w.nextDeadline? with
      | some d => (run { w with now := d }).awaitCurrent fuel
      | none => w

end World
end StreamMux.Simulation
