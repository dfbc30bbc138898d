/-
Calls that come to nothing. An open that fails changes nothing at all, and a read or a
write that has to wait or fails leaves no more than the mark of the suspended call. A
deadline makes a difference only to a call that would have to wait.

An ended session has only final streams, so wherever a call goes on to queue a frame the
session takes it. No call fails half way, and a local direction is closed only together
with a FIN that is queued.
-/
import StreamMux.Proofs.Answers

namespace StreamMux

/-- The stream without the marks of suspended calls. -/
def Stream.unmarked (st : Stream) : Stream :=
  { st with readWaiting := false, writeWaiting := false }

namespace Session

/-- The session without the marks of calls that are suspended on its streams. -/
def unmarked (s : Session) : Session := { s with streams := s.streams.map Stream.unmarked }

/-- A read or a write has to wait, or has failed. -/
def Reply.fruitless : Reply → Bool
  | .got .pending | .got (.ready (.error _)) | .wrote .pending | .wrote (.ready (.error _)) => true
  | _ => false

/-- What a call with and without an elapsed deadline comes to: the deadline replaces
having to wait, and changes nothing else. -/
def GivesWay (undue due : Outcome Session Reply) (wait late : Reply) : Prop :=
  undue.result ≠ late ∧ (undue.result = wait ∧ due = { undue with result := late } ∨
    undue.result ≠ wait ∧ due = undue)

variable {α : Type} {s s' : Session} {e : Event} {id : UInt32} {st st' : Stream}
  {bytes : Bytes} {room : Nat}

theorem unmarked_put (s : Session) (st : Stream) :
    (s.put st).unmarked = s.unmarked.put st.unmarked := by
  simp only [unmarked, put, List.map_map]
  congr 2
  funext old
  simp only [Function.comp]
  split
  next h => rw [if_pos (show old.unmarked.id = st.unmarked.id from h)]
  next h => rw [if_neg (show ¬ old.unmarked.id = st.unmarked.id from h)]

/-- A mark more on a stream does not show. -/
theorem unmarked_put_of_eq (hd : s.DistinctIds) (h : s.find? st.id = some st)
    (hu : st'.unmarked = st.unmarked) : (s.put st').unmarked = s.unmarked := by
  rw [unmarked_put, hu, ← unmarked_put, put_self hd h]

/-! ## One call -/

/-- What a read or a write comes to, by whether its deadline has passed: it is done or
fails at once, or it lacks something and leaves a mark. -/
inductive Polled (s : Session) (marked : Stream) (lacks : Prop)
    (op : Bool → Outcome Session (Poll (Except Fault α))) : Prop
  | done (value : α) : ¬ lacks → (op false).result = .ready (.ok value) → op true = op false →
    Polled s marked lacks op
  | failed (cause : Fault) : ¬ lacks → cause ≠ .deadline →
    (∀ expired, op expired = { result := .ready (.error cause), state := s }) →
      Polled s marked lacks op
  | waits : lacks →
    (∀ expired, op expired =
      { result := if expired then
          .ready (.error .deadline) else .pending, state := s.put marked }) →
    Polled s marked lacks op

/-- A read has room, and there are neither bytes nor the end of the stream nor an abort to tell
of. -/
def ReadLacks (st : Stream) (room : Nat) : Prop :=
  0 < room ∧ st.unread = [] ∧ st.remoteClosed = false ∧ st.reset = none

/-- A write has bytes and may be made, and there is no credit. A configuration that lets no
frame have a payload, which no valid one does, lets no write have any either. -/
def WriteLacks (s : Session) (st : Stream) (bytes : Bytes) : Prop :=
  bytes ≠ [] ∧ st.reset = none ∧ st.localClosed = false ∧
    (st.send.credit = 0 ∨ s.config.maxFramePayload = 0)

theorem portion_eq_zero (hb : bytes ≠ []) :
    s.portion st bytes = 0 ↔ st.send.credit = 0 ∨ s.config.maxFramePayload = 0 := by
  have hlength := List.length_pos_iff.mpr hb
  rw [portion, ← UInt32.toNat_inj, ← UInt32.toNat_inj]
  show _ ↔ st.send.credit.toNat = 0 ∨ s.config.maxFramePayload.toNat = 0
  omega

theorem polled_read (hs : st.Sound)
    (hcause : ∀ cause, st.reset = some cause → cause.fault st.id ≠ .deadline)
    (room : Nat) : Polled s { st with readWaiting := true }
    (ReadLacks st room) (s.read st room) := by
  have hunread : st.unread = [] ↔ st.buffered = 0 := by rw [hs.buffered_eq, List.length_eq_zero_iff]
  by_cases hroom : room = 0
  · exact .done [] (fun h => by have := h.1; omega) (by simp only [read, if_pos hroom])
      (by simp only [read, if_pos hroom])
  cases hkept : st.reset.filter (·.discardsData) with
  | some cause =>
    have hr : st.reset = some cause := (Option.filter_eq_some_iff.mp hkept).1
    refine .failed _ (fun h => by simp [h.2.2.2] at hr) (hcause cause hr) fun expired => ?_
    simp only [read, if_neg hroom, hkept]
  | none =>
    by_cases hb : st.buffered = 0
    · cases hrc : st.remoteClosed with
      | true =>
        refine .done [] (fun h => by simp [h.2.2.1] at hrc) ?_ ?_ <;>
          simp only [read, if_neg hroom, hkept, if_pos hb, hrc, if_true]
      | false =>
        cases hr : st.reset with
        | some cause =>
          rw [hr] at hkept
          refine .failed _ (fun h => by simp [h.2.2.2] at hr) (hcause cause hr) fun expired => ?_
          simp only [read, if_neg hroom, hr, hkept, if_pos hb, hrc, Bool.false_eq_true, if_false]
        | none =>
          refine .waits ⟨by omega, hunread.mpr hb, hrc, hr⟩ fun expired => ?_
          simp only [read, if_neg hroom, hr, Option.filter_none, if_pos hb, hrc, Bool.false_eq_true,
            if_false]
    · refine .done (st.drain room).1 (fun h => hb (hunread.mp h.2.1)) ?_ ?_ <;>
        simp only [read, if_neg hroom, hkept, if_neg hb]

theorem polled_write (hcause : ∀ cause, st.reset = some cause → cause.fault st.id ≠ .deadline)
    (hopen : st.reset = none → st.localClosed = false → s.ended = none) (bytes : Bytes) :
    Polled s { st with writeWaiting := true } (s.WriteLacks st bytes) (s.write st bytes) := by
  cases hr : st.reset with
  | some cause =>
    refine .failed _ (fun h => by simp [h.2.1] at hr) (hcause cause hr) fun expired => ?_
    simp only [write, hr]
  | none =>
  cases hl : st.localClosed with
  | true =>
    refine .failed (.writeClosed st.id) (fun h => by simp [h.2.2.1] at hl) (by simp)
      fun expired => ?_
    simp only [write, hr, hl, if_true]
  | false =>
  by_cases hb : bytes = []
  · refine .done 0 (fun h => h.1 hb) ?_ ?_ <;>
      simp only [write, hr, hl, hb, List.isEmpty_nil, Bool.false_eq_true, if_false, if_true]
  have hlength : (bytes.take s.config.maxFramePayload.toNat).length =
      min bytes.length s.config.maxFramePayload.toNat := by
    rw [List.length_take, Nat.min_comm]
  by_cases hn : s.portion st bytes = 0
  · refine .waits ⟨hb, hr, hl, (portion_eq_zero hb).mp hn⟩ fun expired => ?_
    rw [portion] at hn
    simp only [write, hr, hl, List.isEmpty_iff, hb, SendWindow.reserve, hlength, hn,
      Bool.false_eq_true, if_false, if_true]
  · have hqueue : s.queue (.data st.id (bytes.take (s.portion st bytes))) =
        .ok [.data st.id (bytes.take (s.portion st bytes))] := by
      simp only [queue, hopen hr hl]
    refine .done (s.portion st bytes) (fun h => hn ((portion_eq_zero hb).mpr h.2.2.2)) ?_ ?_ <;>
      simp only [portion] at hn hqueue ⊢ <;>
      simp only [write, hr, hl, List.isEmpty_iff, hb, SendWindow.reserve, hlength, hn, hqueue,
        Bool.false_eq_true, if_false]

namespace Polled

variable {marked : Stream} {lacks : Prop} {op : Bool → Outcome Session (Poll (Except Fault α))}
  {expired : Bool} {reply : Poll (Except Fault α) → Reply}

/-- What is not done changes nothing but a mark. -/
theorem unchanged (h : s.Polled marked lacks op) (hmark : (s.put marked).unmarked = s.unmarked)
    (hundone : ∀ value, (op expired).result ≠ .ready (.ok value)) :
    (op expired).state.unmarked = s.unmarked ∧ (op expired).frames = [] := by
  cases h with
  | done _ _ hdone hsame =>
    have hany : op expired = op false := by cases expired <;> simp [hsame]
    exact absurd (hany ▸ hdone) (hundone _)
  | failed _ _ _ hop => rw [hop]; exact ⟨rfl, rfl⟩
  | waits _ hop => rw [hop]; exact ⟨hmark, rfl⟩

/-- It waits, or has waited too long, for what it lacks only. -/
theorem waits_iff (h : s.Polled marked lacks op) (expired : Bool) :
    (op expired).result = .pending ∨ (op expired).result = .ready (.error .deadline) ↔ lacks := by
  cases h with
  | done _ hnot hdone hsame =>
    have hany : op expired = op false := by cases expired <;> simp [hsame]
    simp [hany, hdone, hnot]
  | failed _ hnot hcause hop => simp [hop, hnot, hcause]
  | waits hlacks hop => cases expired <;> simp [hop, hlacks]

/-- If it lacks something, its mark is left. -/
theorem marks (h : s.Polled marked lacks op) (hlacks : lacks) :
    (op expired).state = s.put marked := by
  cases h with
  | done _ hnot | failed _ hnot => exact absurd hlacks hnot
  | waits _ hop => rw [hop]

theorem givesWay (h : s.Polled marked lacks op) (hreply : ∀ a b, reply a = reply b → a = b) :
    GivesWay (Outcome.as (op false) reply) (Outcome.as (op true) reply) (reply .pending)
      (reply (.ready (.error .deadline))) := by
  cases h with
  | done _ _ hdone hsame =>
    have hresult : (Outcome.as (op false) reply).result = reply (.ready (.ok _)) :=
      congrArg reply hdone
    refine ⟨fun heq => ?_, .inr ⟨fun heq => ?_, by rw [hsame]⟩⟩
    · cases hreply _ _ (hresult.symm.trans heq)
    · cases hreply _ _ (hresult.symm.trans heq)
  | failed _ _ hcause hop =>
    rw [hop, hop]
    refine ⟨fun heq => ?_, .inr ⟨fun heq => ?_, rfl⟩⟩
    · cases hreply _ _ heq
      exact hcause rfl
    · cases hreply _ _ heq
  | waits _ hop =>
    rw [hop, hop]
    refine ⟨fun heq => ?_, .inl ⟨rfl, rfl⟩⟩
    cases hreply _ _ heq

end Polled

/-! ## Sessions that can be met -/

variable {role : Role} {config : Config}

theorem endsSession_of_ends {cause : Fault} (h : e.ends? = some cause) :
    cause.endsSession = true := by
  cases e with
  | call c =>
    cases c with
    | close => cases h; rfl
    | _ => cases h
  | message bytes =>
    simp only [Event.ends?] at h
    split at h
    next => cases h; rfl
    next => cases h
  | connectionEnded | connectionFailed => cases h; rfl
  | sent => cases h

/-- Streams are torn down for faults of the whole session only. -/
theorem Turn.endsSession (h : s.Turn e s')
    (hb : ∀ st ∈ s.streams, ∀ fault, st.reset = some (.teardown fault) → fault.endsSession = true) :
    ∀ st ∈ s'.streams, ∀ fault, st.reset = some (.teardown fault) → fault.endsSession = true := by
  cases h with
  | quiet | late => exact hb
  | touched hfind _ hstep =>
    exact forall_mem_put (fun fault hr => hb _ (mem_of_find? hfind) fault (hstep.teardown hr)) hb
  | claimed _ _ hfind =>
    exact forall_mem_put (fun fault hr => hb _ (mem_of_find? hfind) fault hr) hb
  | opened | announced =>
    simp only [List.forall_mem_append, List.forall_mem_singleton]
    exact ⟨hb, by simp [Stream.make]⟩
  | refused =>
    simp only [List.forall_mem_append, List.forall_mem_singleton]
    exact ⟨hb, by simp [Stream.refused_reset]⟩
  | ended _ hends =>
    simp only [List.forall_mem_map]
    intro st hm fault hr
    rw [tornDown] at hr
    split at hr
    · rw [Stream.aborted_reset] at hr
      split at hr
      · exact hb st hm fault hr
      · cases hr
        exact endsSession_of_ends hends
    · exact hb st hm fault hr

theorem endsSession_of_teardown (hs : Reachable role config s) :
    ∀ st ∈ s.streams, ∀ fault, st.reset = some (.teardown fault) → fault.endsSession = true := by
  induction hs with
  | start => exact fun st hm => nomatch hm
  | step e hs ih => exact (turn_of_step hs.wellFormed e).endsSession ih

/-- Nothing fails over a deadline because of an abort. -/
theorem fault_ne_deadline (hs : Reachable role config s) (h : s.find? id = some st)
    {cause : ResetCause} (hr : st.reset = some cause) : cause.fault st.id ≠ .deadline := by
  cases cause with
  | teardown fault =>
    have hends := endsSession_of_teardown hs st (mem_of_find? h) fault hr
    rintro rfl
    cases hends
  | here | peer | violation => simp [ResetCause.fault]

section

variable (hs : Reachable role config s) (h : s.find? id = some st)
include hs h

theorem polled_read_of_find? (room : Nat) :
    Polled s { st with readWaiting := true } (ReadLacks st room) (s.read st room) :=
  polled_read (hs.wellFormed.sound st (mem_of_find? h)) (fun _ hr => fault_ne_deadline hs h hr) room

theorem open_of_writable (hr : st.reset = none) (hl : st.localClosed = false) : s.ended = none := by
  obtain rfl := find?_id h
  exact hs.wellFormed.open_of_live h (by simp [Stream.isTerminal_eq, hr, hl])

theorem polled_write_of_find? (bytes : Bytes) :
    Polled s { st with writeWaiting := true } (s.WriteLacks st bytes) (s.write st bytes) :=
  polled_write (fun _ hr => fault_ne_deadline hs h hr) (open_of_writable hs h) bytes

end

theorem find?_of_held (wf : s.WellFormed) (h : s.held? id = some st) : s.find? id = some st ∧
    st.handle = .held := by
  rw [held?_eq wf.distinct] at h
  simpa using Option.filter_eq_some_iff.mp h

/-! ## Calls -/

/-- An open fails if the session has ended or has given out all its ids, and changes nothing
then. -/
theorem openStream_cases (s : Session) :
    (∃ cause, (s.step (.call .openStream)).result = .opened (.error cause)) ∧
      (s.ended ≠ none ∨ s.nextId = none) ∧
        (s.step (.call .openStream)).state = s ∧ (s.step (.call .openStream)).frames = [] ∨
      (∃ id, (s.step (.call .openStream)).result = .opened (.ok id)) ∧ s.ended = none ∧
        s.nextId ≠ none := by
  simp only [step, call, Outcome.as, openStream]
  cases hended : s.ended with
  | some cause => exact .inl ⟨⟨cause, rfl⟩, .inl (by simp), rfl, rfl⟩
  | none =>
    cases hn : s.nextId with
    | none => exact .inl ⟨⟨.idsExhausted, rfl⟩, .inr rfl, rfl, rfl⟩
    | some id =>
      have hqueue : s.queue (.syn id) = .ok [.syn id] := by simp only [queue, hended]
      simp only [hqueue]
      exact .inr ⟨⟨id, rfl⟩, trivial, by simp⟩

/-- A read or a write that has to wait or has failed leaves no more than a mark. -/
theorem call_unchanged (hs : Reachable role config s) (c : Call)
    (hr : (s.step (.call c)).result.fruitless = true) :
    (s.step (.call c)).state.unmarked = s.unmarked ∧ (s.step (.call c)).frames = [] := by
  have wf := hs.wellFormed
  cases c with
  | read id room expired =>
    simp only [step, call, onHeld] at hr ⊢
    cases hheld : s.held? id with
    | none => exact ⟨rfl, rfl⟩
    | some st =>
      rw [hheld] at hr
      have hfind := (find?_of_held wf hheld).1
      obtain rfl := find?_id hfind
      refine (polled_read_of_find? hs hfind room).unchanged
        (unmarked_put_of_eq wf.distinct hfind rfl) fun value hdone => ?_
      simp only [Outcome.as, hdone, Reply.fruitless] at hr
      cases hr
  | write id bytes expired =>
    simp only [step, call, onHeld] at hr ⊢
    cases hheld : s.held? id with
    | none => exact ⟨rfl, rfl⟩
    | some st =>
      rw [hheld] at hr
      have hfind := (find?_of_held wf hheld).1
      obtain rfl := find?_id hfind
      refine (polled_write_of_find? hs hfind bytes).unchanged
        (unmarked_put_of_eq wf.distinct hfind rfl) fun value hdone => ?_
      simp only [Outcome.as, hdone, Reply.fruitless] at hr
      cases hr
  | openStream | accept | cancelAccept | close => cases hr
  | closeWrite id | reset id | dropHandle id =>
    simp only [step, call, onHeld] at hr
    cases hheld : s.held? id <;> rw [hheld] at hr <;> cases hr

/-- What a call answers that needs a handle which is not held. -/
theorem givesWay_noHandle {wait late : Reply} (hwait : Reply.noHandle ≠ wait)
    (hlate : Reply.noHandle ≠ late) :
    GivesWay { result := .noHandle, state := s } { result := .noHandle, state := s } wait late :=
  ⟨hlate, .inr ⟨hwait, rfl⟩⟩

theorem read_givesWay (hs : Reachable role config s) (id : UInt32) (room : Nat) :
    GivesWay (s.step (.call (.read id room false))) (s.step (.call (.read id room true)))
      (.got .pending) (.got (.ready (.error .deadline))) := by
  simp only [step, call, onHeld]
  cases hheld : s.held? id with
  | none => exact givesWay_noHandle (by simp) (by simp)
  | some st =>
    exact (polled_read_of_find? hs (find?_of_held hs.wellFormed hheld).1 room).givesWay
      fun a b heq => Reply.got.inj heq

theorem write_givesWay (hs : Reachable role config s) (id : UInt32) (bytes : Bytes) :
    GivesWay (s.step (.call (.write id bytes false))) (s.step (.call (.write id bytes true)))
      (.wrote .pending) (.wrote (.ready (.error .deadline))) := by
  simp only [step, call, onHeld]
  cases hheld : s.held? id with
  | none => exact givesWay_noHandle (by simp) (by simp)
  | some st =>
    exact (polled_write_of_find? hs (find?_of_held hs.wellFormed hheld).1 bytes).givesWay
      fun a b heq => Reply.wrote.inj heq

section

variable (hs : Reachable role config s) (h : s.find? id = some st) (hheld : st.handle = .held)
include hs h hheld

theorem read_waits_iff (room : Nat) (expired : Bool) :
    (s.step (.call (.read id room expired))).result = .got .pending ∨
      (s.step (.call (.read id room expired))).result = .got (.ready (.error .deadline)) ↔
        ReadLacks st room := by
  rw [← (polled_read_of_find? hs h room).waits_iff expired,
    show s.step (.call (.read id room expired)) = Outcome.as (s.read st room expired) .got from
      onHeld_of_find? hs.wellFormed h hheld]
  simp [Outcome.as]

theorem write_waits_iff (bytes : Bytes) (expired : Bool) :
    (s.step (.call (.write id bytes expired))).result = .wrote .pending ∨
      (s.step (.call (.write id bytes expired))).result = .wrote (.ready (.error .deadline)) ↔
        s.WriteLacks st bytes := by
  rw [← (polled_write_of_find? hs h bytes).waits_iff expired,
    show s.step (.call (.write id bytes expired)) =
      Outcome.as (s.write st bytes expired) .wrote from
      onHeld_of_find? hs.wellFormed h hheld]
  simp [Outcome.as]

end

/-- Closing the local direction never fails. -/
theorem closeWrite_ok (wf : s.WellFormed) (id : UInt32) (cause : Fault) :
    (s.step (.call (.closeWrite id))).result ≠ .closed (.error cause) := by
  cases hheld : s.held? id with
  | none =>
    simp only [step, call, onHeld, hheld]
    rintro ⟨⟩
  | some st =>
    obtain ⟨hfind, hh⟩ := find?_of_held wf hheld
    rw [(closeWrite_held wf hfind hh).1]
    rintro ⟨⟩

/-- A local direction is closed only in a step that queues its FIN. -/
theorem fin_of_localClosed (wf : s.WellFormed) (h : (s.step e).state.find? id = some st')
    (hl : st'.localClosed = true) :
    (∃ st, s.find? id = some st ∧ st.localClosed = true) ∨ Frame.fin id ∈ (s.step e).frames := by
  have hchange := change_of_step wf e id
  rw [h] at hchange
  have hsent {f : Frame} (hf : f ∈ (s.trafficOf e id).sent) : f ∈ (s.step e).frames :=
    (List.mem_filter.mp hf).1
  generalize s.trafficOf e id = t at hchange hsent
  generalize s.find? id = o at hchange ⊢
  cases hchange with
  | opened | announced | refused => cases hl
  | @step st _ _ hid hstep =>
    rcases hstep.localClosed_iff.mp hl with hbefore | ⟨f, hf, hty⟩
    · exact .inl ⟨st, rfl, hbefore⟩
    · have hfin : f = .fin id := by
        rcases hstep.sent_cases hf with ⟨_, rfl, -⟩ | ⟨_, rfl⟩ | rfl | rfl
        · cases hty
        · cases hty
        · rw [hid]
        · cases hty
      exact .inr (hsent (hfin ▸ hf))
  | @torn st cause =>
    refine .inl ⟨st, rfl, ?_⟩
    rwa
      [tornDown_of (P := fun x => x.localClosed = st.localClosed) rfl
      Stream.aborted_localClosed] at hl

/-! ## Reads after a deadline -/

/-- Of the stream `id` all that comes from now on is returned by reads or can be read, as
long as its handle is not given up and it is not aborted with its data. -/
def ReadInFull (s : Session) (id : UInt32) : Prop :=
  ∀ later st, (s.after later).find? id = some st → st.handle ≠ .dropped →
    st.reset.filter (·.discardsData) = none →
    s.bytesRead id later ++ st.unread = payloads (beforeFin (s.traffic id later).got) ∧
      ∀ room expired, st.handle = .held → 0 < room → st.unread ≠ [] →
        ((s.after later).step (.call (.read id room expired))).result =
          .got (.ready (.ok (st.unread.take room)))

theorem readInFull_of_lacks (hs : Reachable role config s) (h : s.find? id = some st)
    (hheld : st.handle = .held) (hlacks : ReadLacks st room) : s.ReadInFull id := by
  obtain ⟨-, hunread, hrc, hr⟩ := hlacks
  obtain ⟨es, rfl⟩ := hs.exists_run
  intro later st' hst' hh hkept
  have hnow := inbound h
  have hlast : ((make role config).after (es ++ later)).find? id =
    some st' := by rw [after_append]; exact hst'
  have wf := wellFormed_after role config (es ++ later)
  refine ⟨?_, fun room expired hheld' hroom hne => ?_⟩
  · -- Nothing that came so far is unread, and FIN has not come.
    have hbefore := hnow.whole (by rw [hr]; rfl) (by rw [hheld]; simp)
    have hnofin : ¬ Carries .fin ((make role config).traffic id es).got := fun hc => by
      rw [hnow.finTaken hr hc] at hrc
      cases hrc
    have hall := (inbound hlast).whole hkept hh
    rw [traffic_append, Traffic.returned_append, Traffic.got_append,
      beforeFin_append_of_not_carries hnofin, payloads_append, List.append_assoc] at hall
    rw [hunread, List.append_nil, beforeFin_of_not_carries hnofin] at hbefore
    rw [hbefore] at hall
    rw [bytesRead_eq]
    exact List.append_cancel_left hall
  · rw [← after_append, show ((make role config).after (es ++ later)).step
      (.call (.read id room expired)) =
      Outcome.as (((make role config).after (es ++ later)).read st' room expired) .got from
        onHeld_of_find? wf hlast hheld']
    have hb : st'.buffered ≠ 0 := fun hz => by
      rw [(wf.sound st' (mem_of_find? hlast)).buffered_eq, List.length_eq_zero_iff] at hz
      exact hne hz
    simp only [Outcome.as, read_result hroom, hkept, if_neg hb]

/-- After a read has timed out, all that comes is read. -/
theorem readInFull_of_deadline (hs : Reachable role config s)
    (h : (s.step (.call (.read id room true))).result = .got (.ready (.error .deadline))) :
    (s.step (.call (.read id room true))).state.ReadInFull id := by
  have wf := hs.wellFormed
  have hstep := hs.step (.call (.read id room true))
  simp only [step, call, onHeld] at h hstep ⊢
  cases hheld : s.held? id with
  | none => rw [hheld] at h; cases h
  | some st =>
    rw [hheld] at h hstep
    obtain ⟨hfind, hh⟩ := find?_of_held wf hheld
    have hpolled := polled_read_of_find? hs hfind room
    have hlacks := (hpolled.waits_iff _).mp (.inr (Reply.got.inj h))
    obtain rfl := find?_id hfind
    have hstate : (Outcome.as (s.read st room true) .got).state =
        s.put { st with readWaiting := true } :=
      hpolled.marks hlacks
    simp only [hstate] at hstep ⊢
    exact readInFull_of_lacks hstep (find?_put hfind) hh hlacks

/-- In every session that can be met: an open fails if the session has ended or has given out its
ids, and changes nothing then. A read or a write that has to wait or fails queues nothing and
leaves no more than its mark. An elapsed deadline replaces having to wait and changes nothing
else, so calls time out only when a read finds neither bytes nor the end of the stream nor an
abort, and a write that may be made finds no credit; and what comes after a read has timed out is
read in full. Wherever the local direction of a stream may still be used the session queues
frames, so closing it never fails, and it is closed only in a step that queues its FIN. -/
theorem fruitless_calls (hs : Reachable role config s) :
    ((∃ cause, (s.step (.call .openStream)).result = .opened (.error cause)) ↔
      s.ended ≠ none ∨ s.nextId = none) ∧
    (∀ cause, (s.step (.call .openStream)).result = .opened (.error cause) →
      (s.step (.call .openStream)).state = s ∧ (s.step (.call .openStream)).frames = []) ∧
    (∀ c, (s.step (.call c)).result.fruitless = true →
      (s.step (.call c)).state.unmarked = s.unmarked ∧ (s.step (.call c)).frames = []) ∧
    (∀ id room, GivesWay (s.step (.call (.read id room false)))
      (s.step (.call (.read id room true))) (.got .pending)
      (.got (.ready (.error .deadline)))) ∧
    (∀ id bytes, GivesWay (s.step (.call (.write id bytes false)))
      (s.step (.call (.write id bytes true)))
      (.wrote .pending) (.wrote (.ready (.error .deadline)))) ∧
    (∀ id st, s.find? id = some st → st.handle = .held →
      (∀ room expired, (s.step (.call (.read id room expired))).result = .got .pending ∨
        (s.step (.call (.read id room expired))).result = .got (.ready (.error .deadline)) ↔
          ReadLacks st room) ∧
      ∀ bytes expired, (s.step (.call (.write id bytes expired))).result = .wrote .pending ∨
        (s.step (.call (.write id bytes expired))).result = .wrote (.ready (.error .deadline)) ↔
          s.WriteLacks st bytes) ∧
    (∀ id room, (s.step (.call (.read id room true))).result = .got (.ready (.error .deadline)) →
      (s.step (.call (.read id room true))).state.ReadInFull id) ∧
    (∀ id st f, s.find? id = some st → st.reset = none → st.localClosed = false →
      s.queue f = .ok [f]) ∧
    (∀ id cause, (s.step (.call (.closeWrite id))).result ≠ .closed (.error cause)) ∧
    ∀ e id st', (s.step e).state.find? id = some st' → st'.localClosed = true →
      (∃ st, s.find? id = some st ∧ st.localClosed = true) ∨ Frame.fin id ∈ (s.step e).frames := by
  have wf := hs.wellFormed
  refine ⟨?_, fun cause hfails => ?_, call_unchanged hs, read_givesWay hs, write_givesWay hs,
    fun id st h hheld => ⟨read_waits_iff hs h hheld, write_waits_iff hs h hheld⟩,
    fun id room => readInFull_of_deadline hs, fun id st f h hr hl => ?_, closeWrite_ok wf,
    fun e id st' => fin_of_localClosed wf⟩
  · rcases openStream_cases s with ⟨hfails, hwhy, -⟩ | ⟨⟨id, hopened⟩, hopen, hn⟩
    · exact iff_of_true hfails hwhy
    · refine iff_of_false (fun ⟨cause, hfails⟩ => ?_) fun hwhy => hwhy.elim (· hopen) hn
      rw [hopened] at hfails
      cases hfails
  · rcases openStream_cases s with ⟨-, -, hsame⟩ | ⟨⟨id, hopened⟩, -⟩
    · exact hsame
    · rw [hopened] at hfails
      cases hfails
  · simp only [queue, open_of_writable hs h hr hl]

/-- A stream that was opened and has got nothing yet. -/
def justOpened : Session := (make .client ⟨4, 4, 50, 1⟩).after [.call .openStream]

/-- A read times out, and then two bytes come. -/
theorem fruitless_calls_of_late_bytes :
    (justOpened.step (.call (.read 1 4 true))).state.unmarked = justOpened.unmarked ∧
      (justOpened.step (.call (.read 1 4 true))).frames = [] ∧
      (((justOpened.step (.call (.read 1 4 true))).state.after
        [.message (Frame.data 1 [7, 8]).encode]).step
        (.call (.read 1 4 false))).result = .got (.ready (.ok [7, 8])) := by
  obtain ⟨-, -, hcall, -, -, -, hread, -⟩ :=
    @fruitless_calls _ .client ⟨4, 4, 50, 1⟩ (reachable_after .start [.call .openStream])
  obtain ⟨hstate, hframes⟩ := hcall (.read 1 4 true) rfl
  obtain ⟨-, hbytes⟩ := hread 1 4 rfl [.message (Frame.data 1 [7, 8]).encode] _ rfl (by decide) rfl
  exact ⟨hstate, hframes, hbytes 4 false rfl (by decide) (by decide)⟩

end Session
end StreamMux
