/-
One stream of a load check: it sends its payload and FIN, and at the same time
reads until the stream ends. It passes if it read back what it sent. The first
failure of either half ends it, sending coming first.
-/
import StreamMux.Link
import StreamMux.Load.Payload
import StreamMux.Load.Report

namespace StreamMux.Load

/-- How far sending has come. -/
inductive Sending
  | writing (rest : Bytes)
  | done
deriving DecidableEq, Repr

/-- How far a stream's check has come. Pieces that were read are kept with the
last one first. -/
inductive Stage
  | toOpen
  | running (id : UInt32) (sending : Sending) (ended : Bool) (got : List Bytes)
  | passed (id : UInt32)
  | failed (why : Failure)
deriving DecidableEq, Repr

structure Check where
  seed : Nat
  /-- Its read deadline has come. -/
  expired : Bool
  stage : Stage
deriving Repr

namespace Check

def isOver (c : Check) : Bool :=
  match c.stage with
  | .passed _ | .failed _ => true
  | _ => false

/-- Whether a turn would change nothing: the check is over, or waits on the marks
it left on its stream. -/
def rests (c : Check) (l : Link) : Bool :=
  match c.stage with
  | .toOpen => false
  | .passed _ | .failed _ => true
  | .running id sending ended _ =>
    !c.expired && ((l.endOf .client).session.held? id).any fun st =>
      (ended || st.readWaiting) && (sending = .done || st.writeWaiting)

/-- Most bytes asked for in one read. -/
def readSize (size : Nat) : Nat := max size 32

/-- A read or write on a stream of the client, if its handle is held. -/
def tryCall {α : Type} (l : Link) (role : Role) (id : UInt32)
    (op : Session → Stream → Outcome Session (Poll (Except Fault α))) :
    Poll (Except Fault α) × Link :=
  match (l.endOf role).session.held? id with
  | none => (.pending, l)
  | some st => l.perform role fun s => op s st

/-- Writes what is left until it has to wait, then sends FIN. A write that does
not wait takes at least one byte, so the length of the rest bounds their number. -/
def send (l : Link) (id : UInt32) : Nat → Bytes → Except Fault Sending × Link
  | _, [] =>
    match (l.endOf .client).session.held? id with
    | none => (.ok .done, l)
    | some st =>
      let (r, l) := l.perform .client (·.closeWrite st)
      (r.map fun _ => .done, l)
  | 0, rest => (.ok (.writing rest), l)
  | fuel + 1, rest =>
    let (answer, l) := tryCall l .client id fun s st => s.write st rest false
    match answer with
    | .pending => (.ok (.writing rest), l)
    | .ready (.error cause) => (.error cause, l)
    | .ready (.ok n) => send l id fuel (rest.drop n)

/-- Reads until it has to wait or the stream ends. Every read but the last
takes at least one unread byte, so these bound their number. -/
def receive (l : Link) (id : UInt32) (room : Nat) (expired : Bool) (got : List Bytes) :
    Nat → Except Fault (Bool × List Bytes) × Link
  | 0 => (.ok (false, got), l)
  | fuel + 1 =>
    let (answer, l) := tryCall l .client id fun s st => s.read st room expired
    match answer with
    | .pending => (.ok (false, got), l)
    | .ready (.error cause) => (.error cause, l)
    | .ready (.ok []) => (.ok (true, got), l)
    | .ready (.ok bytes) => receive l id room expired (bytes :: got) fuel

/-- Unread bytes of a stream whose handle is held. -/
def unreadCount (l : Link) (role : Role) (id : UInt32) : Nat :=
  (((l.endOf role).session.held? id).map (·.buffered)).getD 0

/-- The check is over; its handle is dropped. -/
def finish (l : Link) (id : UInt32) : Link :=
  match (l.endOf .client).session.held? id with
  | none => l
  | some st => (l.perform .client (·.dropHandle st)).2

/-- Both halves in turn, as far as they come. -/
def advance (c : Check) (size : Nat) (l : Link) (id : UInt32) (sending : Sending) (ended : Bool)
    (got : List Bytes) : Check × Link :=
  let (sent, l) := match sending with
    | .writing rest => send l id rest.length rest
    | .done => (.ok .done, l)
  match sent with
  | .error cause => ({ c with stage := .failed (.broken id cause) }, finish l id)
  | .ok sending =>
    let (received, l) :=
      if ended then (.ok (true, got), l)
      else receive l id (readSize size) c.expired got (unreadCount l .client id + 1)
    match received with
    | .error cause => ({ c with stage := .failed (.broken id cause) }, finish l id)
    | .ok (ended, got) =>
      if ended && sending = .done then
        let back := got.reverse.flatten
        let stage :=
          if back = payload c.seed size then .passed id
          else .failed (.mismatch id back.length size)
        ({ c with stage }, finish l id)
      else ({ c with stage := .running id sending ended got }, l)

/-- One turn of the check. -/
def turn (c : Check) (size : Nat) (l : Link) : Check × Link :=
  match c.stage with
  | .toOpen =>
    let (r, l) := l.perform .client (·.openStream)
    match r with
    | .error cause => ({ c with stage := .failed (.notOpened cause) }, l)
    | .ok id => c.advance size l id (.writing (payload c.seed size)) false []
  | .running id sending ended got => c.advance size l id sending ended got
  | .passed _ | .failed _ => (c, l)

/-- What is reported of a check that was not over `before` this turn. -/
def reports (c : Check) (before : Check) (size : Nat) : List Report :=
  if before.isOver then []
  else match c.stage with
    | .failed why => [.failed why]
    | .passed id => [.verified id size]
    | _ => []

end Check
end StreamMux.Load
