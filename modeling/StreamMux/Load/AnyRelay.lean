/-
A load check and a relay of which nothing is known. The checks make their calls one at a
time, in any order, as in `Load.Interleaving`. Of the relay and the connection only that
is there which the client's session meets with: any message at any time, a frame that is
taken, the end of the connection, its failure. The far end of the link takes no part.
-/
import StreamMux.Load.Interleaving

namespace StreamMux.Load

namespace System

inductive Encounter
  /-- One call of the check at this place. -/
  | check (i : Nat) (what : Check.Step)
  /-- The read deadlines have come. -/
  | expire
  /-- The relay's next message. -/
  | message (bytes : Bytes)
  /-- The relay sends no more messages. -/
  | connectionEnded
  | connectionFailed (text : String)
  /-- The connection has taken a frame. -/
  | sent (f : Frame)

/-- Something happens to the client's session that none of its checks has asked for. -/
def befall (s : System) (e : Session.Event) : System :=
  { s with link := (s.link.perform .client (·.step e)).2 }

def meet (s : System) : Encounter → System
  | .check i what => s.act (.check i what)
  | .expire => s.expire
  | .message bytes => s.befall (.message bytes)
  | .connectionEnded => s.befall .connectionEnded
  | .connectionFailed text => s.befall (.connectionFailed text)
  | .sent f => s.befall (.sent f)

/-- The system after a sequence of encounters. -/
def meeting (s : System) (encounters : List Encounter) : System := encounters.foldl meet s

/-- A load check with this configuration before anything is done. -/
def unanswered (config : Config) (size streams : Nat) (expired : Bool) : System :=
  make (Link.make config) .silent size streams expired

/-- What a load check of this many streams comes to. -/
def verdict (s : System) (streams : Nat) : Verdict :=
  if countFailures s = 0 then .passed s.link.client.session.stats
    else .failed (countFailures s) streams

end System

theorem runChecks_verdict (p : Parameters) (link : Link) :
    (runChecks p link).2 =
      ((System.make link p.relay p.size p.streams (p.timeout == 0)).run).verdict p.streams := by
  unfold runChecks
  generalize (System.make link p.relay p.size p.streams (p.timeout == 0)).run = s
  rfl

end StreamMux.Load
