/-
An echo load check cannot get stuck, and cannot pass wrongly. Say that no message is queued
or under way and that no act changes a task or puts a message on its way, and that a check
is not over. Its stream is held at both ends, for otherwise the relay could accept it, or
would have come to its end and told so. The relay's buffer is empty: what it holds could
only wait for credit, and then the client had bytes to read. So the relay waits to read,
and the client waits for credit; but there is nothing left that could hold credit back.
-/
import StreamMux.Proofs.Ledger
import StreamMux.Proofs.Starvation

namespace StreamMux

namespace Link

variable {config : Config} {moves : List Move} {r : Role} {id : UInt32} {st peer : Stream}

/-- In a calm run in which nothing is queued or under way, a writer is out of credit only
when the other application has bytes to read. -/
theorem Calm.unread_of_starved (hcalm : Calm config moves) (hv : config.Valid)
    (hquiet : ((make config).after moves).Quiet)
    (h : (((make config).after moves).endOf r).session.find? id = some st)
    (hl : st.localClosed = false)
    (hzero : st.send.credit = 0)
    (hpeer : (((make config).after moves).endOf r.other).session.find? id = some peer) :
    peer.unread ≠ [] := by
  intro hunread
  have hlive : st.isTerminal = false := by simp [Stream.isTerminal_eq, hcalm.reset_eq h, hl]
  have hcredit := credit_of_idle hcalm.cut hcalm.isOpen h hlive hl (fun r => hquiet.inFlightOf r id)
      fun peer' hpeer' => by
    obtain rfl := Option.some.inj (hpeer.symm.trans hpeer')
    exact ⟨hcalm.reset_eq hpeer, .inl hunread⟩
  have hbatch := hv.threshold_le
  rw [hzero] at hcredit
  have hz : (0 : UInt32).toNat = 0 := rfl
  omega

end Link

namespace Load

open Link (Calm EndRead entryOf)

variable {config : Config} {moves : List Link.Move} {size streams i seed room total : Nat}
  {id : UInt32} {st : Stream}
  {sending : Sending} {ended : Bool} {got : List Bytes} {rest held : Bytes}

/-! ## Steps that change nothing -/

theorem eq_zero_of_drop {α : Type} {n : Nat} {l : List α} (h : l.drop n = l) (hne : l ≠ []) :
    n = 0 := by
  have hlength := congrArg List.length h
  have hpos := List.length_pos_iff.mpr hne
  rw [List.length_drop] at hlength
  omega

section

variable (hcalm : Calm config moves)
include hcalm

theorem Check.openStream_ne :
    (Check.openStream ⟨seed, false, .toOpen⟩ size ((Link.make config).after moves)).1 ≠
    ⟨seed, false, .toOpen⟩ := by
  unfold Check.openStream
  rcases Session.open_cases (hcalm.isOpen .client) with ⟨id, -, hanswer, -⟩ | ⟨-, hanswer, -⟩
  all_goals
    have hanswer : (((Link.make config).after moves).step (.call .client .openStream)).1 = _ :=
      hanswer
    simp [hanswer]

section

variable (hst : ((((Link.make config).after moves).endOf .client).session.find? id) = some st)
  (hheld : st.handle = .held)
include hst hheld

theorem Check.unread_of_receiveOnce
    (hstays : (Check.receiveOnce ⟨seed, false, .running id sending false got⟩
      ((Link.make config).after moves) 1).1 =
      ⟨seed, false, .running id sending false got⟩) : st.unread = [] ∧ st.remoteClosed = false := by
  have hanswer : (((Link.make config).after moves).step (.call .client (.read id 1 false))).1 = _ :=
    Session.answer_read (Link.wellFormed config moves .client) hst hheld
      (hcalm.reset_eq hst) Nat.one_pos
  unfold Check.receiveOnce at hstays
  cases hunread : st.unread with
  | nil =>
    cases hrc : st.remoteClosed with
    | false => exact ⟨rfl, rfl⟩
    | true => simp [hanswer, hunread, hrc] at hstays
  | cons b unread => simp [hanswer, hunread] at hstays

theorem Check.starved_of_sendOnce (hmax : config.maxFramePayload ≠ 0) (hl : st.localClosed = false)
    (hstays : (Check.sendOnce ⟨seed, false, .running id (.writing rest) ended got⟩
      ((Link.make config).after moves)).1 =
      ⟨seed, false, .running id (.writing rest) ended got⟩) : st.send.credit = 0 := by
  have wf := Link.wellFormed config moves .client
  unfold Check.sendOnce at hstays
  cases rest with
  | nil =>
    have hanswer : (((Link.make config).after moves).step (.call .client (.closeWrite id))).1 = _ :=
      (Session.closeWrite_held wf hst hheld).1
    simp [hanswer] at hstays
  | cons b rest =>
    have hanswer :
        (((Link.make config).after moves).step (.call .client (.write id (b :: rest) false))).1 =
        _ :=
      Session.answer_write wf hst hheld (hcalm.reset_eq hst) hl (List.cons_ne_nil b rest)
    rw [← Link.config_eq config moves .client] at hmax
    refine Session.credit_of_portion hmax (List.cons_ne_nil b rest)
      (Decidable.byContradiction fun hn => ?_)
    simp only [hanswer, if_neg hn, Check.mk.injEq, Stage.running.injEq, Sending.writing.injEq,
      true_and, and_true] at hstays
    exact hn (eq_zero_of_drop hstays (List.cons_ne_nil b rest))

end

section

variable (hst : ((((Link.make config).after moves).endOf .server).session.find? id) = some st)
  (hheld : st.handle = .held)
include hst hheld

theorem Serving.unread_of_fillOnce (hroom : room ≠ 0)
    (hstays : (Serving.fillOnce ⟨id, .copying held room false total⟩
      ((Link.make config).after moves)).1 =
      ⟨id, .copying held room false total⟩) : st.unread = [] ∧ st.remoteClosed = false := by
  have hanswer : (((Link.make config).after moves).step (.call .server (.read id room false))).1 =
      _ :=
    Session.answer_read (Link.wellFormed config moves .server) hst hheld (hcalm.reset_eq hst)
      (Nat.pos_of_ne_zero hroom)
  unfold Serving.fillOnce at hstays
  cases hunread : st.unread with
  | nil =>
    cases hrc : st.remoteClosed with
    | false => exact ⟨rfl, rfl⟩
    | true => simp [hanswer, hunread, hrc, hroom] at hstays
  | cons b unread => simp [hanswer, hunread, hroom] at hstays

theorem Serving.starved_of_putOnce (hmax : config.maxFramePayload ≠ 0) (hl : st.localClosed = false)
    (hne : held ≠ [])
    (hstays : (Serving.putOnce ⟨id, .copying held room ended total⟩
      ((Link.make config).after moves)).1 =
      ⟨id, .copying held room ended total⟩) : st.send.credit = 0 := by
  obtain ⟨b, held, rfl⟩ := List.exists_cons_of_ne_nil hne
  have hanswer :
      (((Link.make config).after moves).step (.call .server (.write id (b :: held) false))).1 = _ :=
    Session.answer_write (Link.wellFormed config moves .server) hst hheld
      (hcalm.reset_eq hst) hl hne
  rw [← Link.config_eq config moves .server] at hmax
  refine Session.credit_of_portion hmax hne (Decidable.byContradiction fun hn => ?_)
  unfold Serving.putOnce at hstays
  simp only [hanswer, if_neg hn, Serving.mk.injEq, Service.copying.injEq, true_and] at hstays
  exact hn (eq_zero_of_drop hstays.1 hne)

/-- A relay that has written all back ends its direction, which queues a frame, or is done. -/
theorem Serving.not_quiet_of_shut
    (hstays : (Serving.leave ⟨id, .copying [] room true total⟩ ((Link.make config).after moves)).1 =
      ⟨id, .copying [] room true total⟩) :
    ¬ (((Link.make config).after moves).after
      (Serving.shut ⟨id, .copying [] room true total⟩
        ((Link.make config).after moves)).2.1).Quiet := by
  have wf := Link.wellFormed config moves .server
  have hr := hcalm.reset_eq hst
  have hanswer : (((Link.make config).after moves).step (.call .server (.closeWrite id))).1 = _ :=
    (Session.closeWrite_held wf hst hheld).1
  have hopen : st.localClosed = false := by
    refine Decidable.byContradiction fun hclosed => ?_
    have hheld? : (((Link.make config).after moves).endOf .server).session.held? id = some st := by
      rw [Session.held?_eq wf.distinct, hst, Option.filter_some, hheld]
      rfl
    simp [Serving.leave, Serving.isShut, hheld?, hclosed] at hstays
  intro hquiet
  unfold Serving.shut at hquiet
  simp only [hanswer] at hquiet
  have hqueue :
      (((((Link.make config).after moves).perform .server (·.call (.closeWrite id))).2).endOf
      .server).queue = [] :=
    hquiet.2.1
  rw [Link.endOf_perform] at hqueue
  have hframes :
      ((((Link.make config).after moves).endOf .server).session.call (.closeWrite id)).frames =
      [.fin id] :=
    Session.closeWrite_frames wf hst hheld hr hopen
  rw [hframes] at hqueue
  exact List.append_ne_nil_of_right_ne_nil _ (List.cons_ne_nil _ _) hqueue

end

end

/-! ## A system that is stuck -/

namespace System

variable {s : System} {streams : Nat} {c : Check} {v : Serving} {peer : Stream}

theorem Stuck.check (h : s.Stuck) (hi : s.checks[i]? = some c) (what : Check.Step) :
    (c.take s.size s.link what).1 = c := by
  have hsame := (h.2 (.check i what)).1
  simp only [act, hi] at hsame
  have hnew : (replace s.checks i (c.take s.size s.link what).1)[i]? =
    some (c.take s.size s.link what).1 := getElem?_replace hi
  rw [hsame, hi] at hnew
  exact (Option.some.inj hnew).symm

theorem Stuck.serve (h : s.Stuck) (hi : s.servings[i]? = some v) (what : Serving.Step) :
    (v.take s.link what).1 = v ∧ (s.link.after (v.take s.link what).2.1).Quiet := by
  obtain ⟨-, hsame, hquiet⟩ := h.2 (.serve i what)
  simp only [act, hi] at hsame hquiet
  have hnew : (replace s.servings i (v.take s.link what).1)[i]? = some (v.take s.link what).1 :=
    getElem?_replace hi
  rw [hsame, hi] at hnew
  exact ⟨(Option.some.inj hnew).symm, hquiet⟩

theorem Stuck.backlog (h : s.Stuck) (hk : s.Kept config moves size streams)
    (hcalm : Calm config moves) :
    (((Link.make config).after moves).endOf .server).session.backlog = [] := by
  refine List.eq_nil_iff_forall_not_mem.mpr fun id hid => ?_
  obtain ⟨first, rest, hb⟩ := List.exists_cons_of_ne_nil (List.ne_nil_of_mem hid)
  have hanswer := Session.Reply.accepted.inj (hcalm.accepts hb)
  have hsame := (h.2 .accept).2.1
  rw [← hk.link] at hanswer
  have hanswer : (s.link.perform .server (·.accept 0)).1 = .ready (.ok first) := hanswer
  simp only [act, acceptStream, hk.relay, hanswer] at hsame
  simp at hsame

/-- The client's end of the stream of a check that can take no step: the check has nothing to
read, or has read all but still writes, and it writes only for want of credit. -/
structure ClientWaits (config : Config) (moves : List Link.Move) (id : UInt32)
    (st : Stream) : Prop where
  reads : st.unread = [] ∧ st.remoteClosed = false ∨ EndRead config moves .client id ∧
    st.localClosed = false
  writes : st.localClosed = false → st.send.credit = 0

/-- The relay's end of the stream of a task that can take no step. -/
inductive RelayWaits (config : Config) (moves : List Link.Move) (id : UInt32) (peer : Stream) : Prop
  | gone : peer.localClosed = true → EndRead config moves .server id →
    RelayWaits config moves id peer
  | starved : peer.localClosed = false → peer.send.credit = 0 → RelayWaits config moves id peer
  | hungry : peer.unread = [] → peer.remoteClosed = false → RelayWaits config moves id peer

section

variable (hv : config.Valid) (hcalm : Calm config moves) (hk : s.Kept config moves size streams)
  (hstuck : s.Stuck)
include hcalm hk hstuck

theorem Stuck.served
    (hst : (((Link.make config).after moves).endOf .client).session.find? id = some st) :
    ∃ peer, (((Link.make config).after moves).endOf .server).session.find? id = some peer ∧
      ∃ v ∈ s.servings, v.id = id := by
  have hquiet := hk.link ▸ hstuck.1
  obtain ⟨peer, hpeer⟩ := Link.peer_of_quiet hcalm.cut hcalm.isOpen hquiet hst
  refine ⟨peer, hpeer, hk.servings.claimed id _ (Link.entry_of_find? hpeer) fun hu => ?_⟩
  have hwaits := hcalm.waits hpeer hu
  rw [show Role.client.other = .server from rfl, hstuck.backlog hk hcalm] at hwaits
  cases hwaits

include hv

theorem Stuck.waiting (hi : s.checks[i]? = some c) (hc : c.stage = .running id sending ended got) :
    ∃ st, (((Link.make config).after moves).endOf .client).session.find? id = some st ∧
      ClientWaits config moves id st := by
  obtain ⟨rfl, hpatient, hhonest⟩ := hk.checks.kept i c hi
  obtain ⟨seed, expired, stage⟩ := c
  obtain rfl : expired = false := hpatient
  obtain rfl : stage = _ := hc
  have hstays := hstuck.check hi
  rw [hk.link] at hstays
  have reads {entry : Link.Entry} (he : entryOf config moves .client id = some entry)
      (hheld : entry.handle = .held) :
      ∃ st, (((Link.make config).after moves).endOf .client).session.find? id = some st ∧
        st.handle = .held ∧ st.localClosed = entry.closed ∧
          (ended = false → st.unread = [] ∧ st.remoteClosed = false) := by
    obtain ⟨st, hst, hhandle, hclosed⟩ := Link.stream_of_entry he
    refine ⟨st, hst, hhandle.trans hheld, hclosed, fun hended => ?_⟩
    subst hended
    exact Check.unread_of_receiveOnce hcalm hst (hhandle.trans hheld) (hstays (.receive 1))
  cases hhonest with
  | writing he _ hended =>
    obtain ⟨st, hst, hheld, hclosed, hreads⟩ := reads he rfl
    refine ⟨st, hst, ?_, fun hl => Check.starved_of_sendOnce hcalm hst hheld hv.2.1 hl
      (hstays .send)⟩
    cases ended with
    | false => exact .inl (hreads rfl)
    | true => exact .inr ⟨hended rfl, hclosed⟩
  | done he hended =>
    obtain ⟨st, hst, hheld, hclosed, hreads⟩ := reads he rfl
    refine ⟨st, hst, .inl (hreads ?_), fun hl => ?_⟩
    · -- Both halves being done, the check could compare the bytes.
      refine Decidable.byContradiction fun hended => ?_
      have hends := hstays .conclude
      simp only [Bool.not_eq_false] at hended
      subst hended
      unfold Check.take Check.conclude at hends
      dsimp only at hends
      split at hends <;> cases hends
    · rw [hclosed] at hl
      cases hl

theorem Stuck.serving (hi : s.servings[i]? = some v)
    (hpeer : (((Link.make config).after moves).endOf .server).session.find? v.id = some peer) :
    RelayWaits config moves v.id peer := by
  have hhonest := hk.servings.honest v (List.mem_of_getElem? hi)
  obtain ⟨id, service⟩ := v
  have hstays := hstuck.serve hi
  rw [hk.link] at hstays
  cases hhonest with
  | @copying held room ended total closed written he hclosed hended hroom =>
    obtain ⟨st, hst, hheld, hl⟩ := Link.stream_of_entry he
    obtain rfl := Option.some.inj (hpeer.symm.trans hst)
    by_cases hnil : held = []
    · subst hnil
      cases ended with
      | true =>
        exact absurd (hstays .shut).2
          (Serving.not_quiet_of_shut hcalm hst hheld (hstays .release).1)
      | false =>
        have hspace : room ≠ 0 := by
          rw [hroom rfl]
          decide
        obtain ⟨hunread, hrc⟩ := Serving.unread_of_fillOnce hcalm hst hheld hspace (hstays .fill).1
        exact .hungry hunread hrc
    · have hopen : peer.localClosed = false := by
        rw [hl]
        exact Bool.eq_false_iff.mpr fun h => hnil (hclosed h).2
      exact .starved hopen (Serving.starved_of_putOnce hcalm hst hheld hv.2.1 hopen hnil
        (hstays .put).1)
  | finished he hread =>
    obtain ⟨st, hst, -, hl⟩ := Link.stream_of_entry he
    obtain rfl := Option.some.inj (hpeer.symm.trans hst)
    exact .gone hl hread

theorem Stuck.not_running (hi : s.checks[i]? = some c) :
    c.stage ≠ .running id sending ended got := by
  intro hc
  obtain ⟨st, hst, hwaiting⟩ := hstuck.waiting hv hcalm hk hi hc
  obtain ⟨peer, hpeer, v, hmem, rfl⟩ := hstuck.served hcalm hk hst
  obtain ⟨j, hj⟩ := List.mem_iff_getElem?.mp hmem
  have hquiet := hk.link ▸ hstuck.1
  have hthere := Link.informed_of_quiet hcalm.cut hcalm.isOpen hquiet hst hpeer
  have hback := Link.informed_of_quiet hcalm.cut hcalm.isOpen hquiet hpeer hst
  have hrc := hthere.remoteClosed_eq (hcalm.reset_eq hpeer)
  have hrc' := hback.remoteClosed_eq (hcalm.reset_eq hst)
  cases hstuck.serving hv hcalm hk hj hpeer with
  | gone hclosed hread =>
    -- The relay has told of the end of its direction, and that the client had ended its own.
    obtain ⟨-, st', hst', hl⟩ := hread.agreed
    obtain rfl := Option.some.inj (hst.symm.trans hst')
    rcases hwaiting.reads with ⟨-, hnot⟩ | ⟨-, hnot⟩
    · rw [hrc', hclosed] at hnot
      cases hnot
    · rw [hl] at hnot
      cases hnot
  | starved hopen hzero =>
    have hunread := hcalm.unread_of_starved hv hquiet hpeer hopen hzero hst
    rcases hwaiting.reads with ⟨hnil, -⟩ | ⟨hread, -⟩
    · exact hunread hnil
    · obtain ⟨-, peer', hpeer', hl⟩ := hread.agreed
      obtain rfl := Option.some.inj (hpeer.symm.trans hpeer')
      rw [hopen] at hl
      cases hl
  | hungry hunread hnot =>
    rw [hrc] at hnot
    exact hcalm.unread_of_starved hv hquiet hst hnot (hwaiting.writes hnot) hpeer hunread

/-- A check that has not passed could not open its stream. -/
theorem Stuck.passed (hi : s.checks[i]? = some c) :
    (∃ id, c.stage = .passed id) ∨ 2 ^ 31 < streams ∧
      c.stage = .failed (.notOpened .idsExhausted) := by
  have hnot : ∀ id sending ended got, c.stage ≠ .running id sending ended got :=
    fun _ _ _ _ => hstuck.not_running hv hcalm hk hi
  obtain ⟨rfl, hpatient, hhonest⟩ := hk.checks.kept i c hi
  have hopen := hstuck.check hi .openStream
  rw [hk.link] at hopen
  obtain ⟨seed, expired, stage⟩ := c
  obtain rfl : expired = false := hpatient
  cases hhonest with
  | toOpen => exact absurd hopen (Check.openStream_ne hcalm)
  | writing | done => exact absurd rfl (hnot _ _ _ _)
  | passed => exact .inl ⟨_, rfl⟩
  | outOfIds hmany => exact .inr ⟨hmany, rfl⟩

end

/-- A check passes only if it was given back what it had sent. -/
theorem Kept.readToEnd (hk : s.Kept config moves size streams) (hi : s.checks[i]? = some c)
    (hc : c.stage = .passed id) : Link.ReadToEnd config moves .client id (payload i size) := by
  have hhonest := (hk.checks.kept i c hi).honest
  rw [hc] at hhonest
  cases hhonest with
  | passed he hread =>
    have hwhole := hread.readToEnd
    rwa [Link.entry_returned he] at hwhole

/-- An echo load check, of any number of streams of any size, with the client and the relay in one
valid configuration, as long as no stream is refused: whatever its tasks, writes and reads do
in whatever order (and a turn is some acts in a row), a check passes only if it has read just
its payload and then the end of its stream; and once no message is queued or under way and
no task can take a step, every check has passed. The one exception is a check that finds all
2³¹ ids of the client given out, when there are more streams than that. -/
theorem never_stuck (config : Config) (hv : config.Valid) (size streams : Nat) :
    (∀ s, (echoing config size streams).Reachable s → ∃ acts,
      s = (echoing config size streams).after acts) ∧
    ∀ acts s, s = (echoing config size streams).after acts →
      (∀ r, (s.link.endOf r).session.stats.streamsRefused = 0) →
      s.checks.length = streams ∧ ∀ (i : Nat) (c : Check), s.checks[i]? = some c →
        (∀ id, c.stage = .passed id →
          Link.ReadToEnd config ((echoing config size streams).moves acts) .client id
            (payload i size)) ∧
        (s.Stuck → (∃ id, c.stage = .passed id) ∨ 2 ^ 31 < streams ∧
          c.stage = .failed (.notOpened .idsExhausted)) := by
  have hechoes := echoes_make config size streams false
  constructor
  · intro s hs
    obtain ⟨acts, hacts⟩ := hs.exists_acts hechoes
    exact ⟨acts, hacts.symm⟩
  · rintro acts s rfl hroomy
    have hcalm : Calm config ((echoing config size streams).moves acts) := by
      refine ⟨plain_moves _ acts, fun r => ?_⟩
      have hlink := hechoes.link_after acts
      have hr := hroomy r
      rw [echoing, hlink] at hr
      exact hr
    have hk := kept_after hcalm
    refine ⟨hk.checks.count, fun i c hi => ⟨fun id hc => hk.readToEnd hi hc, fun hstuck => ?_⟩⟩
    exact hstuck.passed hv hcalm hk hi

/-- Where all tasks are over and no stream waits to be accepted, nothing happens any more. -/
theorem stuck_of_over (hquiet : s.link.Quiet) (hup : s.link.Up)
    (hchecks : ∀ c ∈ s.checks, c.isOver = true)
    (hservings : ∀ v ∈ s.servings, v.service = .over)
    (hbacklog : s.link.server.session.backlog = []) : s.Stuck := by
  have hqueue (r : Role) : (s.link.endOf r).queue = [] := by
    cases r
    · exact hquiet.1
    · exact hquiet.2.1
  have hunderWay (r : Role) : (s.link.endOf r).underWay = [] := by
    cases r
    · exact hquiet.2.2.1
    · exact hquiet.2.2.2
  refine ⟨hquiet, fun a => ?_⟩
  cases a with
  | check i what =>
    cases hi : s.checks[i]? with
    | none => simp only [act, hi]; exact ⟨trivial, trivial, hquiet⟩
    | some c =>
      simp only [act, hi, Check.take_of_isOver (hchecks c (List.mem_of_getElem? hi)),
        replace_self hi]
      exact ⟨trivial, trivial, hquiet⟩
  | serve i what =>
    cases hi : s.servings[i]? with
    | none => simp only [act, hi]; exact ⟨trivial, trivial, hquiet⟩
    | some v =>
      have hrests : v.take s.link what = (v, [], []) := by
        obtain ⟨id, service⟩ := v
        obtain rfl : service = .over := hservings _ (List.mem_of_getElem? hi)
        cases what <;> rfl
      simp only [act, hi, hrests, replace_self hi]
      exact ⟨trivial, trivial, hquiet⟩
  | accept =>
    have hnone (id : UInt32) : (s.link.perform .server (·.accept 0)).1 ≠ .ready (.ok id) := by
      show (s.link.server.session.accept 0).result ≠ .ready (.ok id)
      simp only [Session.accept, hbacklog]
      repeat' split
      all_goals simp
    have hstill : (s.link.perform .server (·.accept 0)).2.Quiet := by
      refine ⟨hquiet.1, ?_, hquiet.2.2.1, hquiet.2.2.2⟩
      show s.link.server.queue ++ (s.link.server.session.accept 0).frames = []
      rw [hquiet.2.1, Session.accept_silent.1]
      rfl
    have hpending : s.acceptStream =
        { s with link := (s.link.perform .server (·.accept 0)).2 } := by
      unfold acceptStream
      dsimp only
      split
      next id hanswer => exact absurd hanswer (hnone id)
      next => rfl
    simp only [act, hpending]
    exact ⟨trivial, trivial, hstill⟩
  | write role =>
    have hsame : s.link.write role = s.link := by
      unfold Link.write
      dsimp only
      rw [hqueue role]
    simp only [act, hsame]
    exact ⟨trivial, trivial, hquiet⟩
  | read role =>
    have hsame : s.link.read role = s.link := by
      unfold Link.read
      simp only [hunderWay role.other, hup.joined, hup.whole, Bool.or_self, Bool.false_eq_true,
        if_false]
    simp only [act, hsame]
    exact ⟨trivial, trivial, hquiet⟩

/-- One stream of two bytes. -/
def oneEcho : List Act :=
  [.check 0 .openStream, .check 0 .send, .check 0 .send, .write .client, .write .client,
    .write .client, .read .server, .read .server, .read .server, .accept, .serve 0 .fill,
    .serve 0 .put, .serve 0 .fill, .serve 0 .shut, .serve 0 .release, .write .server,
    .write .server, .read .client, .read .client, .check 0 (.receive 32), .check 0 (.receive 32),
    .check 0 .conclude]

theorem never_stuck_of_one_echo :
    ∃ c id, ((echoing ⟨4, 4, 50, 1⟩ 2 1).after oneEcho).checks = [c] ∧ c.stage = .passed id ∧
      Link.ReadToEnd ⟨4, 4, 50, 1⟩ ((echoing ⟨4, 4, 50, 1⟩ 2 1).moves oneEcho) .client id
        [0, 31] := by
  have hquiet : ((echoing ⟨4, 4, 50, 1⟩ 2 1).after oneEcho).link.Quiet := by
    refine ⟨?_, ?_, ?_, ?_⟩ <;> decide +kernel
  have hstuck : ((echoing ⟨4, 4, 50, 1⟩ 2 1).after oneEcho).Stuck :=
    stuck_of_over hquiet ⟨by decide +kernel, by rintro (_ | _) <;> decide +kernel⟩
      (by decide +kernel) (by decide +kernel) (by decide +kernel)
  obtain ⟨hcount, h⟩ := (never_stuck ⟨4, 4, 50, 1⟩ (by decide) 2 1).2 oneEcho _ rfl
    (by rintro (_ | _) <;> decide +kernel)
  obtain ⟨c, hc⟩ := List.length_eq_one_iff.mp hcount
  obtain ⟨hpassed, hover⟩ := h 0 c (by rw [hc]; rfl)
  obtain ⟨id, hid⟩ := (hover hstuck).resolve_right fun hmany => absurd hmany.1 (by decide)
  exact ⟨c, id, hc, hid, hpassed id hid⟩

end System

end Load
end StreamMux
