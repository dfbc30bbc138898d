/-
Runs in which nothing goes wrong from outside: the applications only open, accept, read,
write and let go of streams, the connection is left alone, and no stream is refused.
Then nothing goes wrong at all: both sessions stay open and no stream is aborted. A
stream that the peer has opened waits until it is accepted, and a call of accept gets it.
-/
import StreamMux.Proofs.AcceptQueue
import StreamMux.Proofs.Settling
import StreamMux.Proofs.Teardown

namespace StreamMux

namespace Stream

variable {s s' : Stream} {maxPayload : UInt32} {e : Session.Event} {t : Traffic}

/-- A step that leaves a stream without a handle found it so, and does not bring it back. -/
theorem Step.was_unclaimed (h : s.Step maxPayload e t s') (hu : s'.handle = .unclaimed) :
    s.handle = .unclaimed ∧ (s'.reset = none → s.reset = none) := by
  have hreset : s'.reset = none → s.reset = none := fun hnone => by
    cases hr : s.reset with
    | none => rfl
    | some cause => rw [h.reset_of_reset hr] at hnone; cases hnone
  refine ⟨?_, hreset⟩
  cases h with
  | accept | dropAborted | dropHandle => cases hu
  | windowUpdate => rwa [grant_handle] at hu
  | fin => rwa [settle_handle, finish_handle] at hu
  | reset | accused | rst => rwa [aborted_handle] at hu
  | _ => exact hu

end Stream

namespace Session

variable {s s' : Session} {e : Event} {es : List Event} {id : UInt32} {st st' : Stream}
  {role : Role} {config : Config}

theorem refused_le (wf : s.WellFormed) (hopen : s.ended = none) (e : Event) :
    s.stats.streamsRefused ≤ (s.step e).state.stats.streamsRefused := by
  have hq := queueing wf hopen e
  show s.lobby.refused ≤ (s.step e).state.lobby.refused
  generalize (s.step e).state.lobby = l at hq
  cases hq with
  | refused => exact Nat.le_succ _
  | _ => exact Nat.le_refl _

/-- What a session that is open knows of every stream without a handle: it waits to be accepted,
or was aborted. -/
def Waits (s : Session) : Prop :=
  ∀ id st, s.find? id = some st → st.handle = .unclaimed → st.reset = none → id ∈ s.backlog

theorem Turn.waits (h : s.Turn e s') (wf : s.WellFormed) (hopen : s'.ended = none) (hw : s.Waits) :
    s'.Waits := by
  intro id st hst hu hr
  have hhold (hold : s.find? id = some st) : id ∈ s.backlog := hw id st hold hu hr
  have added {new : Stream} (happ : s'.streams = s.streams ++ [new])
      (hfresh : s.find? new.id = none)
      (hold : s.find? id = some st → id ∈ s'.backlog)
        (hnew : id = new.id → st = new → id ∈ s'.backlog) :
      id ∈ s'.backlog := by
    by_cases hi : id = new.id
    · subst hi
      rw [find?_append_self hfresh happ] at hst
      exact hnew rfl (Option.some.inj hst).symm
    · rw [find?_append_ne hi happ] at hst
      exact hold hst
  cases h with
  | quiet | late => exact hhold hst
  | @touched old new t stats hfind _ hstep =>
    by_cases hi : id = old.id
    · subst hi
      have hput : (s.put new).find? new.id = some new :=
        find?_put (by rw [hstep.id_eq]; exact hfind)
      rw [hstep.id_eq] at hput
      obtain rfl : new = st := Option.some.inj (hput.symm.trans hst)
      obtain ⟨hold, hnone⟩ := hstep.was_unclaimed hu
      exact hw _ old hfind hold (hnone hr)
    · exact hhold ((find?_put_ne (by rw [hstep.id_eq]; exact hi)).symm.trans hst)
  | @claimed old ticket rest acceptors stats _ hb hfind =>
    by_cases hi : id = old.id
    · subst hi
      have hput : (s.put { old with handle := .held }).find? old.id =
        some { old with handle := .held } := find?_put hfind
      obtain rfl := Option.some.inj (hput.symm.trans hst)
      cases hu
    · have hother : (s.put { old with handle := .held }).find? id = s.find? id := find?_put_ne hi
      have hmem := hhold (hother.symm.trans hst)
      rw [hb] at hmem
      exact (List.mem_cons.mp hmem).resolve_left hi
  | @opened next stats _ _ hn =>
    refine added rfl (wf.find?_nextId hn) hhold fun _ hnew => ?_
    rw [hnew] at hu
    cases hu
  | @announced message f stats _ _ _ _ hm =>
    refine added rfl (wf.find?_of_mayOpen hm) (fun hold => List.mem_append_left _ (hhold hold))
      fun hi _ => ?_
    rw [hi]
    exact List.mem_append_right _ (List.mem_singleton_self _)
  | @refused message f stats _ _ _ _ hm =>
    refine added rfl (by rw [Stream.aborted_id]; exact wf.find?_of_mayOpen hm) hhold
      fun _ hnew => ?_
    rw [hnew, Stream.refused_reset] at hr
    cases hr
  | ended => cases hopen

theorem waits (hopen : ((make role config).after es).ended = none) :
    ((make role config).after es).Waits := by
  induction es using List.reverseRecOn with
  | nil => exact fun _ _ h => nomatch h
  | append_singleton es e ih =>
    have wf := wellFormed_after role config es
    have hturn := turn_of_step wf e
    have hbefore := ended_after_mono hopen
    rw [after_concat] at hopen ⊢
    exact hturn.waits wf hopen (ih hbefore)

end Session

namespace Link

open Session (Event Call Reply)

variable {config : Config} {l : Link} {m : Move} {moves more : List Move} {r : Role} {id : UInt32}
  {st st' : Stream}

/-- Neither application aborts a stream or closes its session, the client alone opens streams,
the other end has one call of accept, and the connection is left alone. -/
def Move.Plain : Move → Prop
  | .call role .openStream => role = .client
  | .call _ (.accept ticket) => ticket = 0
  | .call _ (.read _ _ _) | .call _ (.write _ _ _) | .call _ (.closeWrite _)
  | .call _ (.dropHandle _) => True
  | .call _ (.cancelAccept _) | .call _ (.reset _) | .call _ .close => False
  | .write _ | .read _ => True
  | .hangUp _ | .sever _ _ | .lose _ | .fail _ _ => False

/-- Only plain moves were made, and no stream was refused. -/
structure Calm (config : Config) (moves : List Move) : Prop where
  plain : ∀ m ∈ moves, m.Plain
  roomy : ∀ r, (((make config).after moves).endOf r).session.stats.streamsRefused = 0

/-! ## Nothing ends -/

/-- The connection is up. -/
structure Up (l : Link) : Prop where
  whole : l.cut = false
  joined : ∀ r, (l.endOf r).hungUp = false

theorem Up.perform {α : Type} {op : Session → Outcome Session α} (h : l.Up) :
    (l.perform r op).2.Up := by
  refine ⟨cut_perform.trans h.whole, fun r' => ?_⟩
  rcases Role.eq_or_eq_other r r' with rfl | rfl
  · rw [endOf_perform]
    exact h.joined r'
  · rw [endOf_perform_other]
    exact h.joined _

theorem Up.setEnd {e : End} (h : l.Up) (he : e.hungUp = false) : (l.setEnd r e).Up := by
  refine ⟨cut_setEnd.trans h.whole, fun r' => ?_⟩
  rcases Role.eq_or_eq_other r r' with rfl | rfl
  · rw [endOf_setEnd]
    exact he
  · rw [endOf_setEnd_other]
    exact h.joined _

theorem Up.step (h : l.Up) (hm : m.Plain) : (l.step m).2.Up := by
  cases m with
  | call role c => exact h.perform
  | write role =>
    simp only [Link.step, write, h.whole]
    split
    · exact h
    · exact h.setEnd (h.joined role)
  | read role =>
    simp only [Link.step, read, h.whole, h.joined]
    split
    · exact (h.setEnd rfl).perform
    · exact h
  | hangUp | sever | lose | fail => cases hm

theorem Up.ends (h : l.Up) (hm : m.Plain) {e : Event} (he : e ∈ l.happens m r) :
    e.ends? = none ∨ ∃ message rest, e = .message message ∧
      (l.endOf r.other).underWay = message :: rest := by
  cases m with
  | call role c =>
    rcases Role.eq_or_eq_other role r with rfl | rfl
    · simp only [happens, only_self, List.mem_singleton] at he
      subst he
      left
      cases c <;> first | rfl | cases hm
    · simp [happens] at he
  | write role =>
    simp only [happens, h.whole] at he
    cases hq : (l.endOf role).queue with
    | nil => simp [hq] at he
    | cons f rest =>
      rcases Role.eq_or_eq_other role r with rfl | rfl
      · simp only [hq, Bool.false_eq_true, if_false, only_self, List.mem_singleton] at he
        exact .inl (by rw [he]; rfl)
      · simp [hq] at he
  | read role =>
    simp only [happens, h.whole, h.joined] at he
    cases hw : (l.endOf role.other).underWay with
    | nil => simp [hw] at he
    | cons message rest =>
      rcases Role.eq_or_eq_other role r with rfl | rfl
      · simp only [hw, only_self, List.mem_singleton] at he
        exact .inr ⟨message, rest, he, hw⟩
      · simp [hw] at he
  | hangUp | sever | lose | fail => cases hm

theorem up_after (hplain : ∀ m ∈ moves, m.Plain) : ((make config).after moves).Up := by
  induction moves using List.reverseRecOn with
  | nil => exact ⟨rfl, fun r => by cases r <;> rfl⟩
  | append_singleton moves m ih =>
    obtain ⟨hbefore, hlast⟩ := List.forall_mem_append.mp hplain
    rw [after_concat]
    exact (ih hbefore).step (List.forall_mem_singleton.mp hlast)

theorem open_after (hplain : ∀ m ∈ moves, m.Plain) (r : Role) :
    (((make config).after moves).endOf r).session.ended = none := by
  induction moves using List.reverseRecOn with
  | nil => cases r <;> rfl
  | append_singleton moves m ih =>
    obtain ⟨hbefore, hlast⟩ := List.forall_mem_append.mp hplain
    have hup : ((make config).after moves).Up := up_after hbefore
    have hopen := ih hbefore
    rw [after_concat, (act_of_step _ m).session r, Session.ended_after (wellFormed config moves r),
      hopen, Option.none_or, List.findSome?_eq_none_iff]
    intro e he
    rcases hup.ends (List.forall_mem_singleton.mp hlast) he with hnone | ⟨message, rest, rfl, hw⟩
    · exact hnone
    · -- What is under way is a frame, so it is not too short.
      have hmem : message ∈ (((make config).after moves).endOf r.other).underWay := by
        rw [hw]; exact List.mem_cons_self
      obtain ⟨f, hdec⟩ := decodes_of_underWay hmem
      simp only [Event.ends?]
      split
      next hshort => rw [Frame.decode_of_short hshort] at hdec; cases hdec
      next => rfl

/-! ## Nothing is aborted -/

theorem Calm.isOpen (h : Calm config moves) (r : Role) :
    (((make config).after moves).endOf r).session.ended = none :=
  open_after h.plain r

theorem Calm.cut (h : Calm config moves) : ((make config).after moves).cut = false :=
  (up_after h.plain).whole

theorem Calm.init (h : Calm config (moves ++ [m])) : Calm config moves := by
  obtain ⟨hbefore, -⟩ := List.forall_mem_append.mp h.plain
  refine ⟨hbefore, fun r => Nat.le_zero.mp ?_⟩
  rw [← h.roomy r, after_concat, (act_of_step _ m).session r]
  rcases (act_of_step ((make config).after moves) m).event r with hnone | ⟨e, he, -⟩
  · rw [hnone]
    exact Nat.le_refl _
  · rw [he]
    exact Session.refused_le (wellFormed config moves r) (open_after hbefore r) e

theorem Calm.before (h : Calm config (moves ++ more)) : Calm config moves := by
  induction more using List.reverseRecOn with
  | nil => simpa using h
  | append_singleton more m ih =>
    rw [← List.append_assoc] at h
    exact ih h.init

theorem refused_of_refuses (h : ((make config).after moves).Refuses m r id) :
    (((make config).after (moves ++ [m])).endOf r).session.stats.streamsRefused ≠ 0 := by
  obtain ⟨rest, hw⟩ := h.syn
  obtain rfl := h.read
  have wf := wellFormed config moves r
  have hdec : Frame.decode (Frame.syn id).encode config.maxFramePayload = .ok (.syn id) :=
    Frame.decode_encode rfl
  have hmay := mayOpen_of_underWay hw hdec rfl
  rw [← config_eq config moves r] at hdec
  have htaken := Session.taken_of_ok h.isOpen hdec
  rw [after_concat, (act_of_step _ _).session r, happens_read hw, only_self]
  show Session.Lobby.refused (Session.lobby (Session.step _ _).state) ≠ 0
  have hq := Session.queueing wf h.isOpen (.message (Frame.syn id).encode)
  generalize Session.lobby (Session.step _ _).state = lobby at hq
  cases hq with
  | none _ _ hnone =>
    rw [hnone (.syn id) (by rw [htaken]; exact List.mem_singleton_self _) rfl] at hmay
    cases hmay
  | queued _ _ _ _ _ _ hroom => exact absurd h.full (Nat.not_le.mpr hroom)
  | refused => exact Nat.succ_ne_zero _
  | waits he | served he | cancelled he => cases he

theorem Calm.reset_eq (h : Calm config moves)
    (hst : (((make config).after moves).endOf r).session.find? id = some st) :
    st.reset = none := by
  refine Decidable.byContradiction fun hr => ?_
  rcases cause_of_reset hst hr with hended | ⟨before, m, later, r', rfl, hcause⟩
  · exact hended (h.isOpen r)
  rcases hcause with ⟨st₀, hresets⟩ | hrefuses
  · have hm := h.plain m (List.mem_append_right _ List.mem_cons_self)
    rw [hresets.call] at hm
    exact hm
  · have hsplit : before ++ m :: later = before ++ [m] ++ later := by simp
    rw [hsplit] at h
    exact refused_of_refuses hrefuses (h.before.roomy r')

/-! ## Accepting -/

/-- A move that is one call for an end is that call. -/
theorem Act.eq_call {l' : Link} {ev : Role → List Event} (h : l.Act m ev l') {e : Event}
    (he : ev r = [e]) {c : Call} (hc : e = .call c) : m = .call r c :=
  h.call_inv (by rw [he, hc]; exact List.mem_singleton_self _)

/-- A stream that nobody has accepted waits to be. -/
theorem Calm.waits (h : Calm config moves)
    (hst : (((make config).after moves).endOf r).session.find? id = some st)
    (hu : st.handle = .unclaimed) : id ∈ (((make config).after moves).endOf r).session.backlog := by
  have hopen := h.isOpen r
  have hr := h.reset_eq hst
  rw [session_of_run] at hst hopen ⊢
  exact Session.waits hopen id st hst hu hr

/-- No call of accept but one ever waits. -/
theorem Calm.acceptors (h : Calm config moves) (r : Role) :
    (((make config).after moves).endOf r).session.acceptors = [] ∨
      (((make config).after moves).endOf r).session.acceptors = [0] := by
  induction moves using List.reverseRecOn with
  | nil => cases r <;> exact .inl rfl
  | append_singleton moves m ih =>
    have hm := h.plain m (List.mem_append_right _ (List.mem_singleton_self m))
    have hact := act_of_step ((make config).after moves) m
    have hq := Session.queueing (wellFormed config moves r) (h.init.isOpen r)
    have ih := ih h.init
    rw [after_concat, hact.session r]
    rcases hact.event r with hnone | ⟨e, he, -⟩
    · rw [hnone]
      exact ih
    rw [he]
    show (((((make config).after moves).endOf r).session.step e).state).lobby.acceptors = [] ∨
      (((((make config).after moves).endOf r).session.step e).state).lobby.acceptors = [0]
    have hq := hq e
    generalize (((((make config).after moves).endOf r).session.step e).state).lobby = lobby at hq
    cases hq with
    | none | queued | refused => exact ih
    | waits haccept =>
      rw [hact.eq_call he haccept] at hm
      obtain rfl : _ = 0 := hm
      right
      rcases ih with hline | hline <;> simp [Session.lineUp, hline]
    | served haccept hline =>
      rw [hact.eq_call he haccept] at hm
      obtain rfl : _ = 0 := hm
      left
      rcases ih with hnil | hone
      · simpa [Session.lineUp, hnil] using hline.symm
      · simpa [Session.lineUp, hone] using hline.symm
    | cancelled hcancel =>
      rw [hact.eq_call he hcancel] at hm
      exact hm.elim

/-- The call of accept gets the stream that waits longest. -/
theorem Calm.accepts (h : Calm config moves) {rest : List UInt32}
    (hb : (((make config).after moves).endOf r).session.backlog = id :: rest) :
    (((make config).after moves).step (.call r (.accept 0))).1 = .accepted (.ready (.ok id)) := by
  refine (Session.accepted_iff (wellFormed config moves r) (h.isOpen r)).mpr ⟨?_, by rw [hb]; rfl⟩
  rcases h.acceptors r with hline | hline <;> simp [Session.lineUp, hline]

/-- An end has a handle of a stream when it has opened or accepted it. -/
theorem claimed_of_move
    (h : ((((make config).after moves).step m).2.endOf r).session.find? id = some st')
    (hclaimed : st'.handle ≠ .unclaimed) :
    (∃ st, (((make config).after moves).endOf r).session.find? id = some st ∧
      st.handle ≠ .unclaimed) ∨
      m = .call r .openStream ∧ (((make config).after moves).step m).1 = .opened (.ok id) ∨
      ∃ ticket, m = .call r (.accept ticket) ∧ (((make config).after moves).step m).1 =
        .accepted (.ready (.ok id)) := by
  have wf := wellFormed config moves r
  have hact := act_of_step ((make config).after moves) m
  rw [hact.session r] at h
  rcases hact.event r with hnone | ⟨e, he, -⟩
  · rw [hnone] at h
    exact .inl ⟨st', h, hclaimed⟩
  rw [he] at h
  have h : ((((make config).after moves).endOf r).session.step e).state.find? id = some st' := h
  cases ho : (((make config).after moves).endOf r).session.find? id with
  | none =>
    cases Session.birth wf ho (e := e) (by rw [h]; simp) with
    | opened hopens hanswer =>
      obtain rfl := hact.eq_call he hopens
      subst hopens
      exact .inr (.inl ⟨rfl, hanswer⟩)
    | announced _ _ _ hnew | refused _ _ _ hnew =>
      rw [h] at hnew
      rw [Option.some.inj hnew] at hclaimed
      exact absurd rfl hclaimed
  | some st =>
    by_cases hu : st.handle = .unclaimed
    · have hc := Session.change_of_step wf e id
      rw [h, ho] at hc
      generalize (((make config).after moves).endOf r).session.trafficOf e id = t at hc
      cases hc with
      | step hid hst =>
        obtain hstill | ⟨ticket, rfl⟩ := hst.unclaimed hu
        · exact absurd hstill hclaimed
        obtain rfl := hact.eq_call he rfl
        refine .inr (.inr ⟨ticket, rfl, Classical.byContradiction fun hother => ?_⟩)
        have hnot : ((((make config).after moves).endOf r).session.accept ticket).result ≠
            .ready (.ok id) :=
          fun hanswer => hother (congrArg Reply.accepted hanswer)
        have hsame := Session.find?_accept_of_ne hnot
        rw [ho] at hsame
        obtain rfl : st' = st := Option.some.inj (h.symm.trans hsame)
        exact hclaimed hu
      | torn => exact absurd ((Session.tornDown_handle _ st).trans hu) hclaimed
    · exact .inl ⟨st, rfl, hu⟩

end Link
end StreamMux
