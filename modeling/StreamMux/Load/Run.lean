/-
A load check from start to end: a client session with one check per stream,
joined to a relay. Every task, write and read is a move of its own. The run
below makes them in rounds until nothing moves any more; only then does time
pass, up to the read deadlines, which all streams share.

In a round an end writes a limited number of frames and the other reads them
all before it does anything else. So the relay can accept what has come in
before more streams are opened. The client closes its session after the round
that has ended the last check, or, if it has nothing left to write then, once
nothing moves any more.
-/
import StreamMux.Load.Relay

namespace StreamMux.Load

structure System where
  link : Link
  relay : Relay
  /-- Payload size of each stream. -/
  size : Nat
  checks : List Check
  servings : List Serving
  reports : List Report

namespace System

inductive Move
  /-- A turn of the check at this place. -/
  | check (i : Nat)
  /-- The relay accepts a stream, if one waits. -/
  | accept
  /-- A turn of the relay's work at this place. -/
  | serve (i : Nat)
  | write (role : Role)
  | read (role : Role)
deriving DecidableEq, Repr

def make (link : Link) (relay : Relay) (size streams : Nat) (expired : Bool) : System where
  link
  relay
  size
  checks := (List.range streams).map fun seed => ⟨seed, expired, .toOpen⟩
  servings := []
  reports := []

/-- Replaces the item at a place. -/
def replace {α : Type} (items : List α) (i : Nat) (a : α) : List α := items.set i a

def turnCheck (s : System) (i : Nat) : System :=
  match s.checks[i]? with
  | none => s
  | some before =>
    let (c, link) := before.turn s.size s.link
    { s with
      link
      checks := replace s.checks i c
      reports := s.reports ++ c.reports before s.size }

/-- The relay's call of accept; it has only one at a time. -/
def acceptStream (s : System) : System :=
  let (answer, link) := s.link.perform .server (·.accept 0)
  let s := { s with link }
  match answer with
  | .ready (.ok id) =>
    let s := { s with servings := s.servings ++ [Serving.start s.relay id] }
    match s.relay with
    | .hangup => { s with link := (s.link.perform .server (·.close)).2 }
    | .reset =>
      match s.link.server.session.held? id with
      | some st => { s with link := (s.link.perform .server (·.reset st)).2 }
      | none => s
    | _ => s
  | _ => s

def turnServing (s : System) (i : Nat) : System :=
  match s.servings[i]? with
  | none => s
  | some serving =>
    let (serving, link, reports) := serving.turn s.relay s.link
    { s with link, servings := replace s.servings i serving, reports := s.reports ++ reports }

def step (s : System) : Move → System
  | .check i => s.turnCheck i
  | .accept => s.acceptStream
  | .serve i => s.turnServing i
  | .write role => { s with link := s.link.write role }
  | .read role => { s with link := s.link.read role }

/-- The systems that can be met from a start. -/
inductive Reachable (start : System) : System → Prop
  | start : Reachable start start
  | step {s : System} (m : Move) : Reachable start s → Reachable start (s.step m)

def allOver (s : System) : Bool := s.checks.all (·.isOver)

/-- Most frames an end writes in one go. -/
def batch : Nat := 64

/-! ### Rounds -/

/-- Makes a list of moves. -/
def makeMoves (s : System) (moves : List Move) : System := moves.foldl step s

/-- The places of the items that pass the test. -/
def places {α : Type} (items : List α) (test : α → Bool) : List Nat :=
  (items.zipIdx.filter (test ·.1)).map (·.2)

/-- Every check has a turn that does not rest. -/
def turnChecks (s : System) : System :=
  s.makeMoves ((places s.checks fun c => !c.rests s.link).map .check)

/-- An end writes up to `limit` of the frames it has queued. -/
def writeUpTo (s : System) (role : Role) (limit : Nat) : System :=
  s.makeMoves (List.replicate (min limit (s.link.endOf role).queue.length) (.write role))

/-- An end writes all it has queued. -/
def writeAll (s : System) (role : Role) : System :=
  s.writeUpTo role (s.link.endOf role).queue.length

/-- An end reads all that is under way to it. -/
def readAll (s : System) (role : Role) : System :=
  s.makeMoves (List.replicate (s.link.endOf role.other).underWay.length (.read role))

/-- The relay accepts all waiting streams and works on all it has. -/
def turnRelay (s : System) : System :=
  let s := s.makeMoves (List.replicate (s.link.server.session.backlog.length + 1) .accept)
  s.makeMoves ((places s.servings fun c => !c.rests s.link).map .serve)

/-- The end whose session is over closes the connection behind its last message,
and the other finds out. -/
def passOnEnd (s : System) (role : Role) : System :=
  let s := { s with link := s.link.hangUp role }
  if (s.link.endOf role).hungUp then (s.readAll role.other).step (.read role.other) else s

/-- What a round can change: frames sent, and tasks that came to an end. -/
def activity (s : System) : Nat :=
  s.link.client.session.stats.framesSent + s.link.server.session.stats.framesSent +
    s.servings.length + s.checks.countP (·.isOver) +
    (if s.link.client.session.isClosed then 1 else 0) +
    (if s.link.server.session.isClosed then 1 else 0)

/-- The client writes what it may in one go, and the relay reads it, works on it
and writes in turn. -/
def exchange (s : System) : System :=
  (((s.writeUpTo .client batch).readAll .server).turnRelay).writeUpTo .server batch

/-- Checks, relay and both connections take their turns. -/
def round (s : System) : System := (s.turnChecks.exchange.passOnEnd .server).readAll .client

/-- All checks are over, but not all has been written. -/
def leavesFrames (s : System) : Bool := s.allOver && !s.link.client.queue.isEmpty

/-- Rounds until one changes nothing, or ends the last check and leaves frames.
Every DATA frame carries a byte and every credit frame returns one, so `rounds`
bounds them. -/
def runRounds (s : System) : Nat → System
  | 0 => s
  | fuel + 1 =>
    let after := s.round
    if after.activity = s.activity || after.leavesFrames then after else after.runRounds fuel

/-- More rounds than can change anything. -/
def rounds (s : System) : Nat := s.checks.length * (4 * s.size + 16) + 8

/-- The read deadline of every check that is not over has come. -/
def expire (s : System) : System :=
  { s with checks := s.checks.map fun c => { c with expired := true } }

/-- Runs until the client closes its session. -/
def run (s : System) : System :=
  let s := s.runRounds s.rounds
  if s.allOver then s else s.expire.runRounds s.rounds

/-- The client goes on writing as long as it may not write all in one go. -/
def flush (s : System) : Nat → System
  | 0 => s
  | fuel + 1 => if s.link.client.queue.length < batch then s else s.exchange.flush fuel

/-- The client closes its session and the relay's session ends. -/
def finish (s : System) : System :=
  let s := { s with link := (s.link.perform .client (·.close)).2 }
  let s := s.flush s.link.client.queue.length
  let s := ((s.writeAll .client).passOnEnd .client).turnRelay
  let server := s.link.server.session
  match s.relay, server.ended with
  | .echo, some cause =>
    { s with reports := s.reports ++ [.sessionEnded cause server.stats.streamsAccepted
        server.stats.bytesReceived server.stats.bytesSent server.stats.framesDropped] }
  | _, _ => s

end System

/-! ### The whole check -/

structure Parameters where
  url : String
  streams : Nat
  size : Nat
  /-- Read deadline of every stream, in seconds. -/
  timeout : Nat
  client : Config
  server : Config
  relay : Relay

/-- How a load check ends. -/
inductive Verdict
  | passed (stats : Stats)
  | failed (failures streams : Nat)
  | notConnected (url : String)
  | notConfigured (e : ConfigError)
  /-- No session could be set up with settings that are valid. -/
  | notStarted
deriving Repr

/-- The text a connection that vanishes in the middle fails with. -/
def vanished : String :=
  "WebSocket protocol error: Connection reset without closing handshake"

def countFailures (s : System) : Nat :=
  s.checks.countP fun c =>
    match c.stage with
    | .failed _ => true
    | _ => false

/-- Runs the checks, with what is reported besides. -/
def runChecks (p : Parameters) (link : Link) : System × Verdict :=
  let s := (System.make link p.relay p.size p.streams (p.timeout == 0)).run
  let failures := countFailures s
  let stats := s.link.client.session.stats
  let s := { s with reports := s.reports ++
    [.started p.url p.streams p.size, .finished p.streams failures] }
  (s, if failures = 0 then .passed stats else .failed failures p.streams)

/-- What the relay reports, if it is one that reports. -/
def relayReports (p : Parameters) (reports : List Report) : List Report :=
  if p.relay = .echo then reports else []

/-- The relay's reports on a client that vanished before it opened anything. -/
def relayAlone (p : Parameters) : List Report :=
  relayReports p (match Session.start .server p.server with
    | .ok _ => [.established, .sessionEnded (.connection vanished) 0 0 0 0]
    | .error (.config e) => [.rejected e]
    | .error .backlogTooLong => [])

/-- A load check once the client is connected. -/
def checkConnected (p : Parameters) : Verdict × List Report :=
  match Session.start .client p.client with
  | .error (.config e) => (.notConfigured e, relayAlone p)
  | .error .backlogTooLong => (.notStarted, relayAlone p)
  | .ok client =>
    match Session.start .server p.server with
    | .error e =>
      let client := (client.connectionFailed vanished).state
      let (s, verdict) := runChecks p (.join client (.make .server p.server))
      let rejected := match e with
        | .config e => [.rejected e]
        | .backlogTooLong => []
      (verdict, relayReports p rejected ++ s.reports)
    | .ok server =>
      let (s, verdict) := runChecks p (.join client server)
      (verdict, relayReports p [.established] ++ s.finish.reports)

/-- A whole load check, with all that was reported. -/
def check (p : Parameters) : Verdict × List Report :=
  match approach p.url with
  | .nowhere => (.notConnected p.url, [])
  | .rejected why => (.notConnected p.url, relayReports p [.handshakeFailed why])
  | .connected => if p.relay = .refuse then (.notConnected p.url, []) else checkConnected p

end StreamMux.Load
