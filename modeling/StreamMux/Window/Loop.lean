/-
A sender and a receiver of one direction with nothing between them: what the
sender reserves arrives at once, and credit that the receiver returns is
granted at once. Parameters need not come from a valid configuration.
-/
import StreamMux.Window

namespace StreamMux

/-- Both windows of one direction and the bytes received but not read. -/
structure CreditLoop where
  send : SendWindow
  recv : RecvWindow
  buffered : Nat
deriving DecidableEq, Repr

namespace CreditLoop

def make (initial : UInt32) (percent : UInt8) : CreditLoop :=
  ⟨⟨initial⟩, .make initial (updateThreshold initial percent), 0⟩

inductive Step
  /-- Send as much of `n` bytes as there is credit for. -/
  | send (n : Nat)
  /-- Read as much of `n` bytes as is buffered. -/
  | read (n : Nat)
deriving DecidableEq, Repr

/-- What a step did. -/
inductive Answer
  /-- Bytes reserved, and whether they fitted the receiver's window. -/
  | sent (reserved : Nat) (arrival : Except WindowOverrun Unit)
  /-- Bytes read, the credit returned for them, and whether it fitted. -/
  | got (count : Nat) (credit : Option UInt32) (fitted : Option Bool)

def step (l : CreditLoop) : Step → Answer × CreditLoop
  | .send n =>
    let (m, send) := l.send.reserve n
    match l.recv.receive m with
    | .ok recv => (.sent m (.ok ()), { send, recv, buffered := l.buffered + m })
    | .error e => (.sent m (.error e), { l with send })
  | .read n =>
    let m := min n l.buffered
    let (credit, recv) := l.recv.consume m
    match credit with
    | none => (.got m none none, { l with recv, buffered := l.buffered - m })
    | some c =>
      let (fitted, send) := l.send.grant c
      (.got m (some c) (some fitted), { send, recv, buffered := l.buffered - m })

/-- The answers of a sequence of steps, each with the state after it. -/
def run (l : CreditLoop) : List Step → List (Answer × CreditLoop)
  | [] => []
  | s :: rest => let r := l.step s; r :: run r.2 rest

end CreditLoop
end StreamMux
