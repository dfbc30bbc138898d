/-
A load check of more streams than the client has ids. Checks that take their turns one
after the other pass one after the other, and the ids go with them. When 2^31 have passed
there is none left: the next check fails before it has sent anything, and nothing is ever
done for it, although nothing went wrong between the two ends.

A round is the whole life of one stream. It is told of the stream that was added last, so
that those before it need not be looked at.
-/
import StreamMux.Proofs.Echo

namespace StreamMux

/-- A stream over which nothing but FIN has been sent. -/
def Stream.bare (config : Config) (id : UInt32) (handle : Handle)
    (localClosed remoteClosed : Bool) : Stream :=
  { Stream.make id config handle with
    localClosed, remoteClosed, tracked := !(localClosed && remoteClosed) }

/-! ## The stream that was added last -/

namespace Session

variable {s : Session} {st : Stream} {config : Config} {id : UInt32} {handle : Handle}
  {closed : Bool}

/-- The session with one more stream. -/
def adding (s : Session) (st : Stream) : Session := { s with streams := s.streams ++ [st] }

/-- A session that is open, and has no stream with this id. -/
structure Awaits (s : Session) (id : UInt32) : Prop where
  distinct : s.DistinctIds
  unknown : s.find? id = none
  opened : s.ended = none

theorem Awaits.count (h : s.Awaits id) (stats : Stats) : ({ s with stats } : Session).Awaits id :=
  ⟨h.distinct, h.unknown, h.opened⟩

/-- What a step answers, queues and leaves, but for the counters. No stream is refused. -/
def Does (s : Session) (e : Event) (reply : Reply) (frames : List Frame) (s' : Session) : Prop :=
  (s.step e).result = reply ∧ (s.step e).frames = frames ∧
    ∃ stats, (s.step e).state = { s' with stats } ∧ stats.streamsRefused = s.stats.streamsRefused

theorem does_openStream_of_none (hopen : s.ended = none) (hn : s.nextId = none) :
    s.Does (.call .openStream) (.opened (.error .idsExhausted)) [] s := by
  simp only [Does, step, call, Outcome.as, openStream, hopen, hn]
  exact ⟨trivial, trivial, s.stats, by rw [← hopen, ← hn], rfl⟩

section

variable (h : s.Awaits id)
include h

theorem find?_adding (hid : st.id = id) : (s.adding st).find? id = some st := by
  subst hid
  exact find?_append_self h.unknown rfl

theorem distinct_adding (hid : st.id = id) : (s.adding st).DistinctIds := by
  subst hid
  exact h.distinct.append h.unknown rfl

theorem put_adding (st st' : Stream) (hid : st.id = id) (hid' : st'.id = id) :
    (s.adding st).put st' = s.adding st' := by
  subst hid
  exact put_append s st st' h.unknown hid'

theorem tracked?_adding (hid : st.id = id) (ht : st.tracked = true) :
    (s.adding st).tracked? id = some st := by
  rw [tracked?_eq (distinct_adding h hid), find?_adding h hid, Option.filter_some, if_pos ht]

theorem held?_adding (hid : st.id = id) (hh : st.handle = .held) :
    (s.adding st).held? id = some st := by
  rw [held?_eq (distinct_adding h hid), find?_adding h hid, Option.filter_some,
    if_pos (by simpa using hh)]

theorem onHeld_adding (hid : st.id = id) (hh : st.handle = .held)
    (op : Stream → Outcome Session Reply) : (s.adding st).onHeld id op = op st := by
  rw [onHeld, held?_adding h hid hh]

/-- A stream that is forgotten if it has nothing left to do. -/
theorem retireIf_adding (st st' : Stream) (hid : st.id = id) (hid' : st'.id = id) :
    (((s.adding st).put st').retireIf st'.retirable id).1 = s.adding st'.settle := by
  have hput := retireIf_put st' (distinct_adding h hid) (by rw [hid']; exact find?_adding h hid)
  rw [hid'] at hput
  exact hput.trans (put_adding h _ _ hid hid')

theorem does_closeWrite :
    (s.adding (.bare config id .held false closed)).Does (.call (.closeWrite id))
      (.closed (.ok ())) [.fin id] (s.adding (.bare config id .held true closed)) := by
  have hopen : (s.adding (.bare config id .held false closed)).ended = none := h.opened
  have hstep : (s.adding (.bare config id .held false closed)).step (.call (.closeWrite id)) =
      Outcome.as ((s.adding (.bare config id .held false closed)).closeWrite
        (.bare config id .held false closed)) .closed := onHeld_adding h rfl rfl _
  have hstate := retireIf_adding h (.bare config id .held false closed)
    { Stream.bare config id .held false closed with localClosed := true, writeWaiting := false }
    rfl rfl
  rw [Does, hstep]
  simp only [Outcome.as, closeWrite, queue, hopen]
  refine ⟨rfl, rfl, _, hstate.trans ?_, rfl⟩
  cases closed <;> rfl

theorem does_fin (handle : Handle) :
    (s.adding (.bare config id handle closed false)).Does
      (.message (Frame.fin id).encode) .nothing []
      (s.adding (.bare config id handle closed true)) := by
  let counted : Session := { s with stats := s.stats.received (Frame.fin id).encode.length }
  have hcounted : counted.Awaits id := ⟨h.distinct, h.unknown, h.opened⟩
  have htr : (counted.adding (.bare config id handle closed false)).tracked? id =
      some (.bare config id handle closed false) :=
    tracked?_adding hcounted rfl (by simp [Stream.bare])
  have hstep :
      (s.adding (.bare config id handle closed false)).step (.message (Frame.fin id).encode) =
        Outcome.as ((counted.adding (.bare config id handle closed false)).onFin id)
          fun _ => .nothing :=
    step_of_ok (Frame.decode_encode (show (Frame.fin id).Legal _ from rfl))
  have hstate := retireIf_adding hcounted (.bare config id handle closed false)
    (Stream.bare config id handle closed false).finish rfl rfl
  rw [Does, hstep]
  simp only [Outcome.as, onFin, htr]
  refine ⟨trivial, rfl, counted.stats, hstate.trans ?_, rfl⟩
  cases closed <;> rfl

theorem does_read {room : Nat} (hroom : room ≠ 0) :
    (s.adding (.bare config id .held closed true)).Does (.call (.read id room false))
      (.got (.ready (.ok []))) [] (s.adding (.bare config id .held closed true)) := by
  have hstep : (s.adding (.bare config id .held closed true)).step (.call (.read id room false)) =
      Outcome.as ((s.adding (.bare config id .held closed true)).read
        (.bare config id .held closed true) room false) .got := onHeld_adding h rfl rfl _
  rw [Does, hstep]
  simp only [Outcome.as, read, if_neg hroom]
  exact ⟨rfl, rfl, _, rfl, rfl⟩

/-- Over a stream that has closed in both directions nothing is left to say. -/
theorem does_dropHandle :
    (s.adding (.bare config id .held true true)).Does (.call (.dropHandle id)) .nothing []
      (s.adding (.bare config id .dropped true true)) := by
  have hstep : (s.adding (.bare config id .held true true)).step (.call (.dropHandle id)) =
      Outcome.as ((s.adding (.bare config id .held true true)).dropHandle
        (.bare config id .held true true)) fun _ => .nothing := onHeld_adding h rfl rfl _
  have hstate := retireIf_adding h (.bare config id .held true true)
    (.bare config id .dropped true true) rfl rfl
  rw [Does, hstep]
  exact ⟨rfl, rfl, _, hstate, rfl⟩

theorem does_openStream (hn : s.nextId = some id) :
    s.Does (.call .openStream) (.opened (.ok id)) [.syn id]
      (({ s with
          nextId := if id.toNat + 2 < UInt32.size then some (id + 2) else none } : Session).adding
        (.bare s.config id .held false false)) := by
  simp only [Does, step, call, Outcome.as, openStream, queue, h.opened, hn]
  exact ⟨trivial, trivial, s.stats.opened, by rw [← h.opened]; rfl, rfl⟩

theorem does_syn (hm : s.mayOpen id = true) (hb : s.backlog.length < s.config.acceptBacklog) :
    s.Does (.message (Frame.syn id).encode) .nothing []
      (({ s with lastRemoteId := id, backlog := s.backlog ++ [id] } : Session).adding
        (.bare s.config id .unclaimed false false)) := by
  let counted : Session := { s with stats := s.stats.received (Frame.syn id).encode.length }
  have hstep : s.step (.message (Frame.syn id).encode) =
      Outcome.as (counted.onSyn id) fun _ => .nothing :=
    step_of_ok (Frame.decode_encode (show (Frame.syn id).Legal _ from rfl))
  obtain ⟨hsilent, hstate⟩ := onSyn_of_room (s := counted) h.opened hm hb
  rw [Does, hstep]
  exact ⟨rfl, hsilent.1, counted.stats, hstate, rfl⟩

theorem does_accept (hb : s.backlog = [id]) (ha : s.acceptors = []) :
    (s.adding (.bare config id .unclaimed false false)).Does (.call (.accept 0))
      (.accepted (.ready (.ok id))) []
      (({ s with backlog := [], acceptors := [] } : Session).adding
        (.bare config id .held false false)) := by
  let taking : Session :=
    { s with acceptors := [], backlog := [], ended := none, stats := s.stats.accepted }
  have htaking : taking.Awaits id := ⟨h.distinct, h.unknown, rfl⟩
  have hfind : (taking.adding (.bare config id .unclaimed false false)).find? id =
      some (.bare config id .unclaimed false false) :=
    find?_adding htaking rfl
  have hput := put_adding htaking (.bare config id .unclaimed false false)
    (.bare config id .held false false) rfl rfl
  have hstep : (s.adding (.bare config id .unclaimed false false)).accept 0 =
      { result := .ready (.ok id)
        state := (taking.adding (.bare config id .unclaimed false false)).put
          (.bare config id .held false false) } := by
    have hopen : (s.adding (.bare config id .unclaimed false false)).ended = none := h.opened
    have hwaiting : (s.adding (.bare config id .unclaimed false false)).backlog = [id] := hb
    have hnobody : (s.adding (.bare config id .unclaimed false false)).acceptors = [] := ha
    simp only [accept, hopen, hwaiting, hnobody, List.not_mem_nil, if_false, List.nil_append,
      List.head?_cons, if_true, List.erase_cons_head]
    split
    next st hst =>
      have hst : (taking.adding (.bare config id .unclaimed false false)).find? id = some st := hst
      rw [hfind] at hst
      cases hst
      rfl
    next hst =>
      have hst : (taking.adding (.bare config id .unclaimed false false)).find? id = none := hst
      rw [hfind] at hst
      cases hst
  simp only [Does, step, call, Outcome.as, hstep, hput]
  exact ⟨trivial, trivial, s.stats.accepted, by simp only [taking, adding, h.opened], rfl⟩

end

end Session

/-! ## One act after the other -/

namespace Load.System

open Session (Call)

variable {s : System} {client server : End} {a a' b b' : Session} {checks : List Check}
  {servings : List Serving} {queue queue' frames : List Frame} {underWay rest : List Bytes}
  {message : Bytes} {i : Nat} {id : UInt32} {c c' : Check} {v v' : Serving} {f : Frame}

/-- The system as it is, but for what was reported and counted. No stream was refused. -/
structure Stands (s : System) (client server : End) (checks : List Check)
    (servings : List Serving) : Prop where
  link : ∃ x y : Stats, x.streamsRefused = 0 ∧ y.streamsRefused = 0 ∧
    s.link = ⟨{ client with session.stats := x }, { server with session.stats := y }, false⟩
  size : s.size = 0
  relay : s.relay = .echo
  checks : s.checks = checks
  servings : s.servings = servings

theorem Stands.check {what : Check.Step} {call : Call} {reply : Session.Reply}
    (h : s.Stands ⟨a, queue, underWay, false⟩ server checks servings) (hi : checks[i]? = some c)
    (hd : ∀ stats, ({ a with stats } : Session).Does (.call call) reply frames a')
    (ht : ∀ l : Link, (l.step (.call .client call)).1 = reply →
      c.take 0 l what = (c', [.call .client call])) :
    (s.act (.check i what)).Stands ⟨a', queue ++ frames, underWay, false⟩ server
      (replace checks i c') servings := by
  obtain ⟨⟨x, y, hx, hy, hlink⟩, hsize, hrelay, rfl, rfl⟩ := h
  obtain ⟨hanswer, hframes, stats, hstate, hrefused⟩ := hd x
  have hwent := ht s.link (by rw [hlink]; exact hanswer)
  rw [← hsize] at hwent
  simp only [act, hi, hwent]
  refine ⟨⟨stats, y, hrefused.trans hx, hy, ?_⟩, hsize, hrelay, rfl, rfl⟩
  rw [hlink, ← hframes]
  exact congrArg
    (fun state => (⟨⟨state, _, _, false⟩, { server with session.stats := y }, false⟩ : Link)) hstate

theorem Stands.serve {what : Serving.Step} {call : Call} {reply : Session.Reply}
    (h : s.Stands client ⟨b, queue, underWay, false⟩ checks servings) (hi : servings[i]? = some v)
    (hd : ∀ stats, ({ b with stats } : Session).Does (.call call) reply frames b')
    (ht : ∀ l : Link, (∃ stats, (l.endOf .server).session = { b with stats }) →
      (l.step (.call .server call)).1 = reply →
        ∃ reports, v.take l what = (v', [.call .server call], reports)) :
    (s.act (.serve i what)).Stands client ⟨b', queue ++ frames, underWay, false⟩ checks
      (replace servings i v') := by
  obtain ⟨⟨x, y, hx, hy, hlink⟩, hsize, hrelay, rfl, rfl⟩ := h
  obtain ⟨hanswer, hframes, stats, hstate, hrefused⟩ := hd y
  obtain ⟨reports, hwent⟩ := ht s.link ⟨y, by rw [hlink]; rfl⟩ (by rw [hlink]; exact hanswer)
  simp only [act, hi, hwent]
  refine ⟨⟨x, stats, hx, hrefused.trans hy, ?_⟩, hsize, hrelay, rfl, rfl⟩
  rw [hlink, ← hframes]
  exact congrArg
    (fun state => (⟨{ client with session.stats := x }, ⟨state, _, _, false⟩, false⟩ : Link)) hstate

theorem Stands.accept (h : s.Stands client ⟨b, queue, underWay, false⟩ checks servings)
    (hd : ∀ stats, ({ b with stats } : Session).Does (.call (.accept 0))
      (.accepted (.ready (.ok id))) [] b') :
    (s.act .accept).Stands client ⟨b', queue, underWay, false⟩ checks
      (servings ++ [⟨id, .copying [] copyBuffer false 0⟩]) := by
  obtain ⟨⟨x, y, hx, hy, hlink⟩, hsize, hrelay, rfl, rfl⟩ := h
  obtain ⟨hanswer, hframes, stats, hstate, hrefused⟩ := hd y
  have hperform : s.link.perform .server (·.accept 0) =
      (.ready (.ok id), ⟨{ client with session.stats := x },
        ⟨{ b' with stats }, queue, underWay, false⟩, false⟩) := by
    have hresult : (({ b with stats := y } : Session).accept 0).result = .ready (.ok id) :=
      Session.Reply.accepted.inj hanswer
    have hqueued : (({ b with stats := y } : Session).accept 0).frames = [] := hframes
    rw [hlink, ← hstate]
    simp only [Link.perform, Link.endOf, Link.setEnd, hresult, hqueued, List.append_nil]
    rfl
  simp only [act, acceptStream, hperform, hrelay]
  exact ⟨⟨x, stats, hx, hrefused.trans hy, rfl⟩, hsize, rfl, rfl, rfl⟩

theorem Stands.writeClient (h : s.Stands ⟨a, f :: queue, underWay, false⟩ server checks servings) :
    (s.act (.write .client)).Stands ⟨a, queue, underWay ++ [f.encode], false⟩ server
      checks servings := by
  obtain ⟨⟨x, y, hx, hy, hlink⟩, hsize, hrelay, rfl, rfl⟩ := h
  refine ⟨⟨x.sent f.encodedLength, y, hx, hy, ?_⟩, hsize, hrelay, rfl, rfl⟩
  simp only [act, hlink]
  rfl

theorem Stands.writeServer (h : s.Stands client ⟨b, f :: queue, underWay, false⟩ checks servings) :
    (s.act (.write .server)).Stands client ⟨b, queue, underWay ++ [f.encode], false⟩
      checks servings := by
  obtain ⟨⟨x, y, hx, hy, hlink⟩, hsize, hrelay, rfl, rfl⟩ := h
  refine ⟨⟨x, y.sent f.encodedLength, hx, hy, ?_⟩, hsize, hrelay, rfl, rfl⟩
  simp only [act, hlink]
  rfl

theorem Stands.readServer
    (h : s.Stands ⟨a, queue, message :: rest, false⟩ ⟨b, queue', underWay, false⟩ checks servings)
    (hd : ∀ stats, ({ b with stats } : Session).Does (.message message) .nothing frames b') :
    (s.act (.read .server)).Stands ⟨a, queue, rest, false⟩
      ⟨b', queue' ++ frames, underWay, false⟩ checks servings := by
  obtain ⟨⟨x, y, hx, hy, hlink⟩, hsize, hrelay, rfl, rfl⟩ := h
  obtain ⟨-, hframes, stats, hstate, hrefused⟩ := hd y
  refine ⟨⟨x, stats, hx, hrefused.trans hy, ?_⟩, hsize, hrelay, rfl, rfl⟩
  simp only [act, hlink]
  rw [← hframes]
  exact congrArg (fun state => (⟨⟨_, _, _, false⟩, ⟨state, _, _, false⟩, false⟩ : Link)) hstate

theorem Stands.readClient
    (h : s.Stands ⟨a, queue, underWay, false⟩ ⟨b, queue', message :: rest, false⟩ checks servings)
    (hd : ∀ stats, ({ a with stats } : Session).Does (.message message) .nothing frames a') :
    (s.act (.read .client)).Stands ⟨a', queue ++ frames, underWay, false⟩
      ⟨b, queue', rest, false⟩ checks servings := by
  obtain ⟨⟨x, y, hx, hy, hlink⟩, hsize, hrelay, rfl, rfl⟩ := h
  obtain ⟨-, hframes, stats, hstate, hrefused⟩ := hd x
  refine ⟨⟨stats, y, hrefused.trans hx, hy, ?_⟩, hsize, hrelay, rfl, rfl⟩
  simp only [act, hlink]
  rw [← hframes]
  exact congrArg (fun state => (⟨⟨state, _, _, false⟩, ⟨_, _, _, false⟩, false⟩ : Link)) hstate

/-! ## The ids in turn -/

/-- The id that the stream of check `i` gets when all are opened in turn. -/
def idOf (i : Nat) : UInt32 := UInt32.ofNat (2 * i + 1)

/-- The id that is given out next when `i` are gone. -/
def nextOf (i : Nat) : Option UInt32 := if i < 2 ^ 31 then some (idOf i) else none

theorem toNat_idOf (hi : i < 2 ^ 31) : (idOf i).toNat = 2 * i + 1 := by
  rw [idOf, UInt32.toNat_ofNat']
  exact Nat.mod_eq_of_lt (by omega)

theorem nextOf_succ (hi : i < 2 ^ 31) :
    (if (idOf i).toNat + 2 < UInt32.size then some (idOf i + 2) else none) = nextOf (i + 1) := by
  have hsize : UInt32.size = 2 ^ 32 := rfl
  have hadd : idOf i + 2 = idOf (i + 1) := (UInt32.ofNat_add (2 * i + 1) 2).symm
  rw [toNat_idOf hi, hadd, nextOf]
  by_cases hlast : i + 1 < 2 ^ 31
  · rw [if_pos (by omega), if_pos hlast]
  · rw [if_neg (by omega), if_neg hlast]

/-! ## The acts on one stream -/

section

variable {config : Config} {closed : Bool}

section

variable (ha : a.Awaits id)
include ha

theorem Stands.openStream (hid : a.nextId = some id) (hi : checks[i]? = some ⟨i, false, .toOpen⟩)
    (h : s.Stands ⟨a, queue, underWay, false⟩ server checks servings) :
    (s.act (.check i .openStream)).Stands
      ⟨({ a with
          nextId := if id.toNat + 2 < UInt32.size then some (id + 2) else none } : Session).adding
        (.bare a.config id .held false false), queue ++ [.syn id], underWay, false⟩ server
      (replace checks i ⟨i, false, .running id (.writing []) false []⟩) servings := by
  refine h.check hi (fun stats => Session.does_openStream (ha.count stats) hid) fun l hanswer => ?_
  simp only [Check.take, Check.openStream, hanswer]
  rfl

/-- A check that has nothing to write ends its direction. -/
theorem Stands.finish (hi : checks[i]? = some ⟨i, false, .running id (.writing []) false []⟩)
    (h : s.Stands ⟨a.adding (.bare config id .held false closed), queue, underWay, false⟩ server
      checks servings) :
    (s.act (.check i .send)).Stands
      ⟨a.adding (.bare config id .held true closed), queue ++ [.fin id], underWay, false⟩ server
      (replace checks i ⟨i, false, .running id .done false []⟩) servings := by
  refine h.check hi (fun stats => Session.does_closeWrite (ha.count stats)) fun l hanswer => ?_
  simp only [Check.take, Check.sendOnce, hanswer]

theorem Stands.readEnd (hi : checks[i]? = some ⟨i, false, .running id .done false []⟩)
    (h : s.Stands ⟨a.adding (.bare config id .held true true), queue, underWay, false⟩ server
      checks servings) :
    (s.act (.check i (.receive 1))).Stands
      ⟨a.adding (.bare config id .held true true), queue ++ [], underWay, false⟩ server
      (replace checks i ⟨i, false, .running id .done true []⟩) servings := by
  refine h.check hi (fun stats => Session.does_read (ha.count stats) Nat.one_ne_zero)
    fun l hanswer => ?_
  simp only [Check.take, Check.receiveOnce, hanswer]
  rfl

theorem Stands.pass (hi : checks[i]? = some ⟨i, false, .running id .done true []⟩)
    (h : s.Stands ⟨a.adding (.bare config id .held true true), queue, underWay, false⟩ server
      checks servings) :
    (s.act (.check i .conclude)).Stands
      ⟨a.adding (.bare config id .dropped true true), queue ++ [], underWay, false⟩ server
      (replace checks i ⟨i, false, .passed id⟩) servings :=
  h.check hi (fun stats => Session.does_dropHandle (ha.count stats)) fun _ _ => rfl

end

variable (hb : b.Awaits id)
include hb

/-- The relay reads to the end of the stream. -/
theorem Stands.fill (hi : servings[i]? = some ⟨id, .copying [] copyBuffer false 0⟩)
    (h : s.Stands client ⟨b.adding (.bare config id .held false true), queue, underWay, false⟩
      checks servings) :
    (s.act (.serve i .fill)).Stands client
      ⟨b.adding (.bare config id .held false true), queue ++ [], underWay, false⟩ checks
      (replace servings i ⟨id, .copying [] copyBuffer true 0⟩) := by
  refine h.serve hi (fun stats => Session.does_read (hb.count stats) (by decide : copyBuffer ≠ 0))
    fun l _ hanswer => ?_
  simp only [Serving.take, Serving.fillOnce, hanswer]
  exact ⟨[], rfl⟩

theorem Stands.shut (hi : servings[i]? = some ⟨id, .copying [] copyBuffer true 0⟩)
    (h : s.Stands client ⟨b.adding (.bare config id .held false true), queue, underWay, false⟩
      checks servings) :
    (s.act (.serve i .shut)).Stands client
      ⟨b.adding (.bare config id .held true true), queue ++ [.fin id], underWay, false⟩ checks
      (replace servings i ⟨id, .copying [] copyBuffer true 0⟩) := by
  refine h.serve hi (fun stats => Session.does_closeWrite (hb.count stats)) fun l _ hanswer => ?_
  simp only [Serving.take, Serving.shut, hanswer]
  exact ⟨[], rfl⟩

theorem Stands.release (hi : servings[i]? = some ⟨id, .copying [] copyBuffer true 0⟩)
    (h : s.Stands client ⟨b.adding (.bare config id .held true true), queue, underWay, false⟩
      checks servings) :
    (s.act (.serve i .release)).Stands client
      ⟨b.adding (.bare config id .dropped true true), queue ++ [], underWay, false⟩ checks
      (replace servings i ⟨id, .over⟩) := by
  refine h.serve hi (fun stats => Session.does_dropHandle (hb.count stats)) fun l hl _ => ?_
  obtain ⟨stats, hl⟩ := hl
  have hheld : (l.endOf .server).session.held? id = some (.bare config id .held true true) := by
    rw [hl]
    exact Session.held?_adding hb rfl rfl
  simp only [Serving.take, Serving.leave, Serving.isShut, hheld]
  exact ⟨_, rfl⟩

end

/-! ## The whole life of one stream -/

/-- All of one stream, of which nothing but SYN and two FINs is sent. -/
def oneStream (i : Nat) : List Act :=
  [.check i .openStream, .write .client, .read .server, .accept, .check i .send, .write .client,
    .read .server, .serve i .fill, .serve i .shut, .serve i .release, .write .server, .read .client,
    .check i (.receive 1), .check i .conclude]

/-- The streams of the first `i` checks, when all is over. -/
def gone (config : Config) (i : Nat) : List Stream :=
  (List.range i).map fun j => .bare config (idOf j) .dropped true true

/-- The client when `i` streams have come and gone, and `k` ids are given out. -/
def clientAt (config : Config) (i k : Nat) : Session :=
  { Session.make .client config with streams := gone config i, nextId := nextOf k }

/-- The relay's side when `i` streams have come and gone, and the peer has opened `k`. -/
def serverAt (config : Config) (i k : Nat) : Session :=
  { Session.make .server config with
    streams := gone config i, lastRemoteId := UInt32.ofNat (2 * k - 1) }

section

variable {config : Config}

theorem gone_succ : gone config i ++ [.bare config (idOf i) .dropped true true] =
    gone config (i + 1) := by
  rw [gone, gone, List.range_succ, List.map_append]
  rfl

theorem clientAt_adding (k : Nat) :
    (clientAt config i k).adding (.bare config (idOf i) .dropped true true) =
      clientAt config (i + 1) k := by
  rw [clientAt, clientAt, ← gone_succ]
  rfl

theorem serverAt_adding (k : Nat) :
    (serverAt config i k).adding (.bare config (idOf i) .dropped true true) =
      serverAt config (i + 1) k := by
  rw [serverAt, serverAt, ← gone_succ]
  rfl

theorem awaits_of_gone (hi : i < 2 ^ 31) (hgone : a.streams = gone config i)
    (hopen : a.ended = none) : a.Awaits (idOf i) := by
  have hinj (j k : Nat) (hj : j < 2 ^ 31) (hk : k < 2 ^ 31) (heq : idOf j = idOf k) : j = k := by
    have hnat := congrArg UInt32.toNat heq
    rw [toNat_idOf hj, toNat_idOf hk] at hnat
    omega
  refine ⟨?_, ?_, hopen⟩
  · rw [Session.DistinctIds, hgone, gone, List.map_map]
    refine List.Nodup.map_on (fun j hj k hk heq => ?_) List.nodup_range
    exact hinj j k (by have := List.mem_range.mp hj; omega)
      (by have := List.mem_range.mp hk; omega) heq
  · rw [Session.find?, hgone, List.find?_eq_none]
    intro st hst heq
    obtain ⟨j, hj, rfl⟩ := List.mem_map.mp hst
    have hji := List.mem_range.mp hj
    exact absurd (hinj j i (by omega) hi (eq_of_beq heq)) hji.ne

theorem awaits_clientAt (hi : i < 2 ^ 31) (k : Nat) : (clientAt config i k).Awaits (idOf i) :=
  awaits_of_gone hi rfl rfl

theorem awaits_serverAt (hi : i < 2 ^ 31) (k : Nat) : (serverAt config i k).Awaits (idOf i) :=
  awaits_of_gone hi rfl rfl

variable (hi : i < 2 ^ 31)
include hi

theorem mayOpen_serverAt : (serverAt config i i).mayOpen (idOf i) = true := by
  have hid := toNat_idOf hi
  have hodd : idOf i % 2 = 1 := by
    rw [← UInt32.toNat_inj, UInt32.toNat_mod, hid]
    show (2 * i + 1) % 2 = 1
    omega
  have hzero : idOf i ≠ 0 := fun h => by simp [h] at hid
  have hlast : (serverAt config i i).lastRemoteId < idOf i := by
    show UInt32.ofNat (2 * i - 1) < idOf i
    rw [UInt32.lt_iff_toNat_lt, hid, UInt32.toNat_ofNat', Nat.mod_eq_of_lt (by omega)]
    omega
  have howns : Role.server.owns (idOf i) = false := by simp [Role.owns, hodd]
  have hrole : (serverAt config i i).role = .server := rfl
  simp only [Session.mayOpen, hrole, howns, bne_iff_ne.mpr hzero, decide_eq_true hlast,
    Bool.not_false, Bool.and_self]

theorem Stands.readSyn (hv : config.Valid)
    (h : s.Stands ⟨a, queue, (Frame.syn (idOf i)).encode :: rest, false⟩
      ⟨serverAt config i i, queue', underWay, false⟩ checks servings) :
    (s.act (.read .server)).Stands ⟨a, queue, rest, false⟩
      ⟨({ serverAt config i (i + 1) with backlog := [idOf i] } : Session).adding
        (.bare config (idOf i) .unclaimed false false), queue' ++ [], underWay, false⟩
      checks servings := by
  have hmay : (serverAt config i i).mayOpen (idOf i) = true := mayOpen_serverAt hi
  exact h.readServer fun stats =>
    Session.does_syn ((awaits_serverAt hi i).count stats) hmay (Nat.pos_of_ne_zero hv.2.2.1)

/-- The relay accepts the stream. -/
theorem Stands.take (h : s.Stands client
      ⟨({ serverAt config i (i + 1) with backlog := [idOf i] } : Session).adding
        (.bare config (idOf i) .unclaimed false false), queue, underWay, false⟩ checks servings) :
    (s.act .accept).Stands client
      ⟨(serverAt config i (i + 1)).adding (.bare config (idOf i) .held false false), queue,
        underWay, false⟩ checks (servings ++ [⟨idOf i, .copying [] copyBuffer false 0⟩]) := by
  let waiting : Session := { serverAt config i (i + 1) with backlog := [idOf i] }
  have hwaiting : waiting.Awaits (idOf i) := awaits_of_gone hi rfl rfl
  exact h.accept fun stats => Session.does_accept (hwaiting.count stats) rfl rfl

theorem Stands.readFin
    (h : s.Stands ⟨a, queue, (Frame.fin (idOf i)).encode :: rest, false⟩
      ⟨(serverAt config i (i + 1)).adding (.bare config (idOf i) .held false false), queue',
        underWay, false⟩ checks servings) :
    (s.act (.read .server)).Stands ⟨a, queue, rest, false⟩
      ⟨(serverAt config i (i + 1)).adding (.bare config (idOf i) .held false true), queue' ++ [],
        underWay, false⟩ checks servings :=
  h.readServer fun stats => Session.does_fin ((awaits_serverAt hi (i + 1)).count stats) .held

theorem Stands.readFinBack
    (h : s.Stands
      ⟨(clientAt config i (i + 1)).adding (.bare config (idOf i) .held true false), queue,
        underWay, false⟩
      ⟨b, queue', (Frame.fin (idOf i)).encode :: rest, false⟩ checks servings) :
    (s.act (.read .client)).Stands
      ⟨(clientAt config i (i + 1)).adding (.bare config (idOf i) .held true true), queue ++ [],
        underWay, false⟩
      ⟨b, queue', rest, false⟩ checks servings :=
  h.readClient fun stats => Session.does_fin ((awaits_clientAt hi (i + 1)).count stats) .held

theorem oneStream_stands (hv : config.Valid) (hcount : servings.length = i)
    (h : s.Stands ⟨clientAt config i i, [], [], false⟩ ⟨serverAt config i i, [], [], false⟩
      checks servings)
    (hc : checks[i]? = some ⟨i, false, .toOpen⟩) :
    (s.after (oneStream i)).Stands ⟨clientAt config (i + 1) (i + 1), [], [], false⟩
      ⟨serverAt config (i + 1) (i + 1), [], [], false⟩
      (replace checks i ⟨i, false, .passed (idOf i)⟩) (servings ++ [⟨idOf i, .over⟩]) := by
  have hid : (clientAt config i i).nextId = some (idOf i) := if_pos hi
  have hclient : (clientAt config i (i + 1)).Awaits (idOf i) := awaits_clientAt hi (i + 1)
  have hserver : (serverAt config i (i + 1)).Awaits (idOf i) := awaits_serverAt hi (i + 1)
  have hmine : (servings ++ [⟨idOf i, .copying [] copyBuffer false 0⟩])[i]? =
      some ⟨idOf i, .copying [] copyBuffer false 0⟩ := by
    rw [← hcount]
    exact List.getElem?_concat_length
  have opened := h.openStream (awaits_clientAt hi i) hid hc
  rw [nextOf_succ hi] at opened
  have accepted := (opened.writeClient.readSyn hi hv).take hi
  have finished := ((accepted.finish hclient (getElem?_replace hc)).writeClient).readFin hi
  have shut := (finished.fill hserver hmine).shut hserver (getElem?_replace hmine)
  have released := shut.release hserver (getElem?_replace (getElem?_replace hmine))
  have back := released.writeServer.readFinBack hi
  have passed := (back.readEnd hclient (getElem?_replace (getElem?_replace hc))).pass hclient
    (getElem?_replace (getElem?_replace (getElem?_replace hc)))
  simp only [replace_replace, List.append_nil, clientAt_adding, serverAt_adding] at passed
  have hover : replace (servings ++ [⟨idOf i, .copying [] copyBuffer false 0⟩]) i ⟨idOf i, .over⟩ =
      servings ++ [⟨idOf i, .over⟩] := by
    rw [replace, ← hcount, List.set_append_right _ _ le_rfl, Nat.sub_self]
    rfl
  rw [hover] at passed
  simp only [after, oneStream, List.foldl_cons, List.foldl_nil]
  exact passed

end

/-! ## One stream after the other -/

/-- The checks when the first `k` have passed and the others have not begun. -/
def checksAt (streams k : Nat) : List Check :=
  (List.range streams).map fun i => ⟨i, false, if i < k then .passed (idOf i) else .toOpen⟩

/-- The relay's tasks when `k` streams have come and gone. -/
def servingsAt (k : Nat) : List Serving := (List.range k).map fun i => ⟨idOf i, .over⟩

section

variable {streams k : Nat}

theorem getElem?_checksAt (hi : i < streams) :
    (checksAt streams k)[i]? = some ⟨i, false, if i < k then .passed (idOf i) else .toOpen⟩ := by
  rw [checksAt, List.getElem?_map, List.getElem?_range hi]
  rfl

theorem checksAt_succ :
    replace (checksAt streams k) k ⟨k, false, .passed (idOf k)⟩ = checksAt streams (k + 1) := by
  refine List.ext_getElem (by simp [replace, checksAt]) fun i hi hi' => ?_
  simp only [replace, checksAt, List.getElem_set, List.getElem_map, List.getElem_range]
  by_cases hik : k = i
  · subst hik
    simp
  · have hiff : i < k + 1 ↔ i < k := by omega
    simp [hik, hiff]

/-- Checks that take their turns one after the other pass one after the other. -/
theorem exists_stands {config : Config} (hv : config.Valid) (hk : k ≤ 2 ^ 31) (hks : k ≤ streams) :
    ∃ acts, ((echoing config 0 streams).after acts).Stands ⟨clientAt config k k, [], [], false⟩
      ⟨serverAt config k k, [], [], false⟩ (checksAt streams k) (servingsAt k) := by
  induction k with
  | zero => exact ⟨[], ⟨.zero, .zero, rfl, rfl, rfl⟩, rfl, rfl, rfl, rfl⟩
  | succ k ih =>
    obtain ⟨acts, h⟩ := ih (by omega) (by omega)
    refine ⟨acts ++ oneStream k, ?_⟩
    have hturn := oneStream_stands (by omega) hv (by simp [servingsAt]) h
      ((getElem?_checksAt hks).trans (by rw [if_neg (lt_irrefl k)]))
    have hservings : servingsAt k ++ [⟨idOf k, .over⟩] = servingsAt (k + 1) := by
      rw [servingsAt, servingsAt, List.range_succ, List.map_append]
      rfl
    rwa [checksAt_succ, hservings, ← after_append] at hturn

/-- The check that finds no id left fails, and then nothing can happen any more. -/
theorem Stands.lastCheck {config : Config} (hn : nextOf k = none)
    (h : s.Stands ⟨clientAt config k k, [], [], false⟩ ⟨serverAt config k k, [], [], false⟩
      (checksAt (k + 1) k) (servingsAt k)) :
    (s.act (.check k .openStream)).Stands ⟨clientAt config k k, [], [], false⟩
      ⟨serverAt config k k, [], [], false⟩
      (replace (checksAt (k + 1) k) k ⟨k, false, .failed (.notOpened .idsExhausted)⟩)
      (servingsAt k) := by
  have hc := getElem?_checksAt (k := k) k.lt_succ_self
  rw [if_neg (lt_irrefl k)] at hc
  refine h.check hc (fun stats => Session.does_openStream_of_none rfl hn) fun l hanswer => ?_
  simp only [Check.take, Check.openStream, hanswer]

theorem isOver_of_mem_last (hlast : c'.isOver = true) (hc : c ∈ replace (checksAt (k + 1) k) k c') :
    c.isOver = true := by
  obtain ⟨i, hi⟩ := List.mem_iff_getElem?.mp hc
  obtain ⟨hlt, rfl⟩ := List.getElem?_eq_some_iff.mp hi
  have hlt' : i < k + 1 := by simpa [replace, checksAt] using hlt
  simp only [replace, checksAt, List.getElem_set, List.getElem_map, List.getElem_range]
  split
  next => exact hlast
  next hne =>
    rw [if_pos (by omega)]
    rfl

theorem Stands.stuck (h : s.Stands ⟨a, [], [], false⟩ ⟨b, [], [], false⟩ checks servings)
    (hchecks : ∀ c ∈ checks, c.isOver = true) (hservings : ∀ v ∈ servings, v.service = .over)
    (hb : b.backlog = []) : s.Stuck := by
  obtain ⟨⟨x, y, -, -, hlink⟩, -, -, rfl, rfl⟩ := h
  refine stuck_of_over ?_ ⟨?_, fun r => ?_⟩ hchecks hservings ?_
  · rw [hlink]
    exact ⟨rfl, rfl, rfl, rfl⟩
  · rw [hlink]
  · rw [hlink]
    cases r <;> rfl
  · rw [hlink]
    exact hb

end

/-- With more streams than the client has ids the last of them is never opened: its check fails,
no stream having been refused, and after that nothing can happen any more. -/
theorem exhausted {config : Config} (hv : config.Valid) :
    ∃ acts s, s = (echoing config 0 (2 ^ 31 + 1)).after acts ∧
      (∀ r, (s.link.endOf r).session.stats.streamsRefused = 0) ∧ s.Stuck ∧
      ∃ c ∈ s.checks, c.stage = .failed (.notOpened .idsExhausted) := by
  obtain ⟨acts, h⟩ := exists_stands hv le_rfl (Nat.le_add_right (2 ^ 31) 1)
  generalize hs : (echoing config 0 (2 ^ 31 + 1)).after acts = s at h
  have hlast := h.lastCheck (if_neg (lt_irrefl _))
  have hover : ∀ v ∈ servingsAt (2 ^ 31), v.service = .over := by
    rintro v hv
    obtain ⟨j, -, rfl⟩ := List.mem_map.mp hv
    rfl
  refine ⟨acts ++ [.check (2 ^ 31) .openStream], s.act (.check (2 ^ 31) .openStream),
    ?_, fun r => ?_, hlast.stuck (fun c hc => isOver_of_mem_last rfl hc) hover rfl,
    ⟨2 ^ 31, false, .failed (.notOpened .idsExhausted)⟩, ?_, rfl⟩
  · rw [after_append, hs]
    rfl
  · obtain ⟨x, y, hx, hy, hlink⟩ := hlast.link
    rw [hlink]
    cases r
    · exact hx
    · exact hy
  · rw [hlast.checks]
    exact List.mem_of_getElem? (getElem?_replace (getElem?_checksAt (Nat.lt_succ_self _)))

/-- Not every check of every load check passes: of so many streams one finds no id left. Nor is
every valid configuration one that a load check can be begun with. -/
theorem not_all_pass :
    (∃ acts s, s = (echoing ⟨4, 4, 50, 1⟩ 0 (2 ^ 31 + 1)).after acts ∧
      (∀ r, (s.link.endOf r).session.stats.streamsRefused = 0) ∧ s.Stuck ∧
      ∃ c ∈ s.checks, c.stage = .failed (.notOpened .idsExhausted)) ∧
    (⟨262144, 16384, 50, 2305843009213693952⟩ : Config).Valid ∧
      ∀ role, Session.start role ⟨262144, 16384, 50, 2305843009213693952⟩ =
        .error .backlogTooLong :=
  ⟨exhausted (by decide), by decide, by rintro (_ | _) <;> rfl⟩

end Load.System
end StreamMux
