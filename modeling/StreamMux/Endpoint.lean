/-
A session with its sending half: one end of a connection. Of the connection
only its reactions are seen, so that every way in which it takes, delays or
refuses frames is a sequence of moves.

`queuedBy` and `effectsOf` are the two histories of a run: the frames that the
session queued, and what its writer did with them.
-/
import StreamMux.Session.Event
import StreamMux.Writer

namespace StreamMux

structure Endpoint where
  session : Session
  writer : Writer
deriving Repr

namespace Endpoint

def make (session : Session) : Endpoint := ⟨session, .idle⟩

/-- The endpoint after an operation on its session: what that queued goes to
the writer. -/
def settle {α : Type} (e : Endpoint) (o : Outcome Session α) : Endpoint :=
  ⟨o.state, e.writer.enqueue o.frames⟩

/-- What the session learns from an effect of its writer, whom that wakes, and what is
reported. -/
def learn (e : Endpoint) : Writer.Effect → Endpoint × List Wake × List Diagnostic
  | .delivered f counted =>
    (if counted then { e with session := e.session.recordSent f } else e, [], [])
  | .broke text =>
    let o := e.session.connectionFailed text
    (e.settle o, o.wakes, o.notes)
  | .closed => (e, [], [.connectionClosed])
  | .abandoned why => (e, [], [why])

/-- What the session learns from several effects in order. -/
def learnAll (e : Endpoint) : List Writer.Effect → Endpoint × List Wake × List Diagnostic
  | [] => (e, [], [])
  | effect :: rest =>
    let (e, wakes, notes) := e.learn effect
    let (e, moreWakes, moreNotes) := e.learnAll rest
    (e, wakes ++ moreWakes, notes ++ moreNotes)

/-- Lets the writer move until it waits. -/
def write (e : Endpoint) (out : Outlet) (now : Nat) :
    Endpoint × List Writer.Effect × List Wake × List Diagnostic :=
  let (writer, effects) := e.writer.run out e.session.isClosed now
  let (e, wakes, notes) := { e with writer }.learnAll effects
  (e, effects, wakes, notes)

/-- Lets go of the connection without waiting for the writer any longer. -/
def giveUp (e : Endpoint) : Endpoint := { e with writer := e.writer.finish }

/-! ### Single moves -/

inductive Move
  | call (c : Session.Call)
  /-- A message came in. -/
  | message (bytes : Bytes)
  /-- The peer sends no more messages. -/
  | connectionEnded
  /-- Receiving failed. -/
  | connectionFailed (text : String)
  /-- The writer makes one move, if it can. -/
  | write (out : Outlet) (now : Nat)
  /-- A call that closed the session at `since` waits for the writer no longer. -/
  | giveUp (since now : Nat)
deriving DecidableEq, Repr

/-- What a move did. -/
structure Progress where
  state : Endpoint
  /-- Frames the session queued. -/
  queued : List Frame := []
  effects : List Writer.Effect := []

/-- The session takes an event. -/
def react (e : Endpoint) (event : Session.Event) : Progress :=
  let o := e.session.step event
  { state := e.settle o, queued := o.frames }

def step (e : Endpoint) : Move → Progress
  | .call c => e.react (.call c)
  | .message bytes => e.react (.message bytes)
  | .connectionEnded => e.react .connectionEnded
  | .connectionFailed text => e.react (.connectionFailed text)
  | .write out now =>
    match e.writer.step out e.session.isClosed now with
    | none => { state := e }
    | some (writer, effects) => { state := ({ e with writer }.learnAll effects).1, effects }
  | .giveUp since now =>
    if e.session.isClosed && e.writer.phase ≠ .finished && since + closeGrace ≤ now then
      { state := e.giveUp, effects := [.abandoned .connectionGivenUp] }
    else { state := e }

def after (e : Endpoint) (moves : List Move) : Endpoint :=
  moves.foldl (fun e m => (e.step m).state) e

/-- The frames a sequence of moves queues, in order. -/
def queuedBy (e : Endpoint) : List Move → List Frame
  | [] => []
  | m :: rest => (e.step m).queued ++ queuedBy (e.step m).state rest

/-- What the writer does during a sequence of moves, in order. -/
def effectsOf (e : Endpoint) : List Move → List Writer.Effect
  | [] => []
  | m :: rest => (e.step m).effects ++ effectsOf (e.step m).state rest

/-- The messages the connection takes during a sequence of moves, in order. -/
def messagesOf (e : Endpoint) (moves : List Move) : List Bytes :=
  (e.effectsOf moves).filterMap fun
    | .delivered f _ => some f.encode
    | _ => none

end Endpoint
end StreamMux
