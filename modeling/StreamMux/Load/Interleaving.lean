/-
The tasks of a load check call by call. A turn (`System.step`) takes a task as far as it
comes; here a task makes one call at a time, and any other task or connection may move
before it makes the next. The link answers the calls, and what a task does with the
answer is what it does with it in a turn.

Only the relay that echoes is taken apart.
-/
import StreamMux.Load.Run

namespace StreamMux.Load

namespace Check

inductive Step
  | openStream
  /-- Writes once, or sends FIN if nothing is left to write. -/
  | send
  /-- Reads once, with this much room. -/
  | receive (room : Nat)
  /-- Both halves are done: compares the bytes. -/
  | conclude
deriving DecidableEq, Repr

/-- The first failure of a half ends the check. -/
def breakOff (c : Check) (id : UInt32) (cause : Fault) (call : Link.Move) :
    Check × List Link.Move :=
  ({ c with stage := .failed (.broken id cause) }, [call, .call .client (.dropHandle id)])

def openStream (c : Check) (size : Nat) (l : Link) : Check × List Link.Move :=
  match c.stage with
  | .toOpen =>
    let call := .call .client .openStream
    match (l.step call).1 with
    | .opened (.ok id) =>
      ({ c with stage := .running id (.writing (payload c.seed size)) false [] }, [call])
    | .opened (.error cause) => ({ c with stage := .failed (.notOpened cause) }, [call])
    | _ => (c, [call])
  | _ => (c, [])

def sendOnce (c : Check) (l : Link) : Check × List Link.Move :=
  match c.stage with
  | .running id (.writing []) ended got =>
    let call := .call .client (.closeWrite id)
    match (l.step call).1 with
    | .closed (.error cause) => c.breakOff id cause call
    | _ => ({ c with stage := .running id .done ended got }, [call])
  | .running id (.writing rest) ended got =>
    let call := .call .client (.write id rest false)
    match (l.step call).1 with
    | .wrote (.ready (.ok n)) =>
      ({ c with stage := .running id (.writing (rest.drop n)) ended got }, [call])
    | .wrote (.ready (.error cause)) => c.breakOff id cause call
    | _ => (c, [call])
  | _ => (c, [])

def receiveOnce (c : Check) (l : Link) (room : Nat) : Check × List Link.Move :=
  match c.stage with
  | .running id sending false got =>
    if room = 0 then (c, [])
    else
      let call := .call .client (.read id room c.expired)
      match (l.step call).1 with
      | .got (.ready (.ok [])) => ({ c with stage := .running id sending true got }, [call])
      | .got (.ready (.ok bytes)) =>
        ({ c with stage := .running id sending false (bytes :: got) }, [call])
      | .got (.ready (.error cause)) => c.breakOff id cause call
      | _ => (c, [call])
  | _ => (c, [])

def conclude (c : Check) (size : Nat) : Check × List Link.Move :=
  match c.stage with
  | .running id .done true got =>
    let back := got.reverse.flatten
    let stage := if back = payload c.seed size then .passed id
      else .failed (.mismatch id back.length size)
    ({ c with stage }, [.call .client (.dropHandle id)])
  | _ => (c, [])

/-- The check after one step, and its calls. A step that is not its turn does nothing. -/
def take (c : Check) (size : Nat) (l : Link) : Step → Check × List Link.Move
  | .openStream => c.openStream size l
  | .send => c.sendOnce l
  | .receive room => c.receiveOnce l room
  | .conclude => c.conclude size

end Check

namespace Serving

inductive Step
  /-- Reads once into the room that is left in the copy buffer. -/
  | fill
  /-- Writes once what the copy buffer holds. -/
  | put
  /-- All is copied: sends FIN. -/
  | shut
  /-- FIN is sent: drops the handle. -/
  | release
deriving DecidableEq, Repr

/-- What a step leads to: the task, its calls, and what it reports. -/
abbrev Taken := Serving × List Link.Move × List Report

def breakOff (s : Serving) (cause : Fault) (call : Link.Move) : Taken :=
  ({ s with service := .over }, [call, .call .server (.dropHandle s.id)], [.echoAborted s.id cause])

def fillOnce (s : Serving) (l : Link) : Taken :=
  match s.service with
  | .copying held room false total =>
    if room = 0 then (s, [], [])
    else
      let call := .call .server (.read s.id room false)
      match (l.step call).1 with
      | .got (.ready (.ok bytes)) =>
        ({ s with service := .copying (held ++ bytes) (room - bytes.length) bytes.isEmpty total },
          [call], [])
      | .got (.ready (.error cause)) => s.breakOff cause call
      | _ => (s, [call], [])
  | _ => (s, [], [])

/-- A buffer that is written out has all its room again. -/
def putOnce (s : Serving) (l : Link) : Taken :=
  match s.service with
  | .copying (b :: held) room ended total =>
    let call := .call .server (.write s.id (b :: held) false)
    match (l.step call).1 with
    | .wrote (.ready (.ok n)) =>
      let left := (b :: held).drop n
      let room := if left.isEmpty then copyBuffer else room
      let written := (b :: held).length - left.length
      ({ s with service := .copying left room ended (total + written) }, [call], [])
    | .wrote (.ready (.error cause)) => s.breakOff cause call
    | _ => (s, [call], [])
  | _ => (s, [], [])

def shut (s : Serving) (l : Link) : Taken :=
  match s.service with
  | .copying [] _ true _ =>
    let call := .call .server (.closeWrite s.id)
    match (l.step call).1 with
    | .closed (.error cause) => s.breakOff cause call
    | _ => (s, [call], [])
  | _ => (s, [], [])

/-- Sending FIN again would do nothing. -/
def isShut (s : Serving) (l : Link) : Bool :=
  ((l.endOf .server).session.held? s.id).all fun st => st.localClosed || st.reset.isSome

def leave (s : Serving) (l : Link) : Taken :=
  match s.service with
  | .copying [] _ true total =>
    if s.isShut l then
      ({ s with service := .over }, [.call .server (.dropHandle s.id)], [.echoed s.id total])
    else (s, [], [])
  | _ => (s, [], [])

/-- The task after one step. A step that is not its turn does nothing. -/
def take (s : Serving) (l : Link) : Step → Taken
  | .fill => s.fillOnce l
  | .put => s.putOnce l
  | .shut => s.shut l
  | .release => s.leave l

end Serving

namespace System

/-- One call of a task, or one write or read of a connection. -/
inductive Act
  | check (i : Nat) (what : Check.Step)
  /-- The relay's call of accept; it has only one at a time. -/
  | accept
  | serve (i : Nat) (what : Serving.Step)
  | write (role : Role)
  | read (role : Role)
deriving DecidableEq, Repr

/-- The moves on the link that an act is. -/
def calls (s : System) : Act → List Link.Move
  | .check i what =>
    match s.checks[i]? with
    | some c => (c.take s.size s.link what).2
    | none => []
  | .accept => [.call .server (.accept 0)]
  | .serve i what =>
    match s.servings[i]? with
    | some serving => (serving.take s.link what).2.1
    | none => []
  | .write role => [.write role]
  | .read role => [.read role]

def act (s : System) (a : Act) : System :=
  match a with
  | .check i what =>
    match s.checks[i]? with
    | some before =>
      let (c, calls) := before.take s.size s.link what
      { s with
        link := s.link.after calls
        checks := replace s.checks i c
        reports := s.reports ++ c.reports before s.size }
    | none => s
  | .accept => s.acceptStream
  | .serve i what =>
    match s.servings[i]? with
    | some serving =>
      let (serving, calls, reports) := serving.take s.link what
      { s with
        link := s.link.after calls
        servings := replace s.servings i serving
        reports := s.reports ++ reports }
    | none => s
  | .write role => { s with link := s.link.write role }
  | .read role => { s with link := s.link.read role }

/-- The system after a sequence of acts. -/
def after (s : System) (acts : List Act) : System := acts.foldl act s

/-- The moves on the link that a sequence of acts is. -/
def moves (s : System) : List Act → List Link.Move
  | [] => []
  | a :: rest => s.calls a ++ moves (s.act a) rest

/-- A load check against the relay that echoes, before anything is done. Both sessions have
this configuration, and no read deadline comes. -/
def echoing (config : Config) (size streams : Nat) : System :=
  make (Link.make config) .echo size streams false

/-- No message is queued or under way, and whatever is done leaves each task as it is and
puts no message on its way. -/
def Stuck (s : System) : Prop :=
  s.link.Quiet ∧
    ∀ a, (s.act a).checks = s.checks ∧ (s.act a).servings = s.servings ∧ (s.act a).link.Quiet

end System
end StreamMux.Load
