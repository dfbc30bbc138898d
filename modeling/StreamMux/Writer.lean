/-
The sending half of a session. It takes queued frames one at a time into a
slot and waits until the connection has taken the frame from there. When the
session has ended it stops waiting, hands out what is left for at most
`closeGrace` milliseconds, and closes the connection.

A frame whose sending was given up at the end of the session stays in the slot
and goes out before all others if the connection takes frames again in time.
It is not counted as sent.

`step` is one move. How the connection reacts, whether the session has ended
and what time it is are given from outside, so that every behaviour of a
connection is a sequence of moves.
-/
import StreamMux.Frame
import StreamMux.Diagnostic

namespace StreamMux

/-- How long queued frames may take to go out after the end, in milliseconds. -/
def closeGrace : Nat := 2000

/-- How a connection reacts to something it is asked to do. -/
inductive Reaction
  | done
  /-- Not now; it may react later. -/
  | blocked
  | failed (text : String)
deriving DecidableEq, Repr

/-- How a connection reacts to a frame and to being closed. -/
structure Outlet where
  send : Reaction
  close : Reaction
deriving DecidableEq, Repr

/-- The frame on its way into the connection. -/
structure Slot where
  frame : Frame
  /-- Its sending is still awaited, and it counts once it is done. -/
  awaited : Bool
deriving DecidableEq, Repr

inductive WriterPhase
  | running
  /-- The session has ended; the rest has to go out by `deadline`. -/
  | draining (deadline : Nat)
  /-- The connection has been closed, or let go of. -/
  | finished
deriving DecidableEq, Repr

structure Writer where
  /-- Frames queued and not yet taken, in order. -/
  queue : List Frame
  slot : Option Slot
  phase : WriterPhase
deriving DecidableEq, Repr

/-- What a move of the writer does to the outside. -/
inductive Writer.Effect
  /-- The connection has taken the frame; `counted` if its sending was awaited. -/
  | delivered (frame : Frame) (counted : Bool)
  /-- Sending failed while the session was running, as far as the writer knew. -/
  | broke (text : String)
  /-- The connection has been closed in order. -/
  | closed
  /-- The connection is let go of without having been closed. -/
  | abandoned (why : Diagnostic)
deriving DecidableEq, Repr

namespace Writer

def idle : Writer := ⟨[], none, .running⟩

def enqueue (w : Writer) (frames : List Frame) : Writer := { w with queue := w.queue ++ frames }

/-- Takes the next frame into the slot. -/
def load (w : Writer) (f : Frame) (rest : List Frame) : Writer :=
  { w with queue := rest, slot := some ⟨f, true⟩ }

/-- Lets go of the connection. Frames still queued are lost. -/
def finish (w : Writer) : Writer := { w with slot := none, phase := .finished }

/-- A move while the session is running, as far as the writer knows. A frame
that is waiting goes before the news that the session has ended. -/
def stepRunning (w : Writer) (out : Outlet) (ended : Bool) (now : Nat) :
    Option (Writer × List Effect) :=
  match w.slot with
  | some slot =>
    match out.send with
    | .done => some ({ w with slot := none }, [.delivered slot.frame true])
    | .failed text => some (w.finish, [.broke text])
    | .blocked =>
      if ended then
        some ({ w with
          slot := some { slot with awaited := false }
          phase := .draining (now + closeGrace) }, [])
      else none
  | none =>
    match w.queue with
    | f :: rest => some (w.load f rest, [])
    | [] => if ended then some ({ w with phase := .draining (now + closeGrace) }, []) else none

/-- What a blocked writer does: nothing, until its time is up. -/
def waitUntil (w : Writer) (deadline now : Nat) : Option (Writer × List Effect) :=
  if deadline ≤ now then some (w.finish, [.abandoned .connectionCloseTimedOut]) else none

/-- A move after the end of the session. -/
def stepDraining (w : Writer) (out : Outlet) (deadline now : Nat) :
    Option (Writer × List Effect) :=
  match w.slot with
  | some slot =>
    match out.send with
    | .done => some ({ w with slot := none }, [.delivered slot.frame slot.awaited])
    | .failed text => some (w.finish, [.abandoned (.connectionCloseFailed text)])
    | .blocked => w.waitUntil deadline now
  | none =>
    match w.queue with
    | f :: rest => some (w.load f rest, [])
    | [] =>
      match out.close with
      | .done => some (w.finish, [.closed])
      | .failed text => some (w.finish, [.abandoned (.connectionCloseFailed text)])
      | .blocked => w.waitUntil deadline now

/-- The next move, if there is one. -/
def step (w : Writer) (out : Outlet) (ended : Bool) (now : Nat) : Option (Writer × List Effect) :=
  match w.phase with
  | .running => w.stepRunning out ended now
  | .draining deadline => w.stepDraining out deadline now
  | .finished => none

/-- Bounds the number of moves that are left: each takes a frame out of the
queue, empties the slot, or goes on to a later phase. -/
def work (w : Writer) : Nat :=
  2 * w.queue.length + (if w.slot.isSome then 1 else 0) +
    match w.phase with
    | .running => 2
    | .draining _ => 1
    | .finished => 0

theorem work_lt_of_step {w w' : Writer} {out : Outlet} {ended : Bool} {now : Nat}
    {effects : List Effect} (h : w.step out ended now = some (w', effects)) : w'.work < w.work := by
  obtain ⟨queue, slot, phase⟩ := w
  simp only [step, stepRunning, stepDraining, waitUntil, load, finish] at h
  repeat' split at h
  all_goals simp_all
  all_goals obtain ⟨rfl, _⟩ := h
  all_goals simp_all [work]
  all_goals omega

/-- Moves until the writer waits, with the effects of all moves in order. -/
def run (w : Writer) (out : Outlet) (ended : Bool) (now : Nat) : Writer × List Effect :=
  match _moved : w.step out ended now with
  | none => (w, [])
  | some (w', effects) =>
    let (last, more) := run w' out ended now
    (last, effects ++ more)
termination_by w.work
decreasing_by exact work_lt_of_step (by assumption)

end Writer
end StreamMux
