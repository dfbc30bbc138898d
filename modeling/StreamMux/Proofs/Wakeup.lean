/-
No wakeup is lost. A stream bears the mark of a suspended read only while a read would
still have to wait, and likewise for writes, and in both cases only while its handle is
held. So whatever lets the suspended call go on clears the mark in the same step. Of every
stream a step wakes just the calls whose marks it clears, unless it gives up the handle,
over which nobody waits. And a call that has to wait leaves its mark.
-/
import StreamMux.Proofs.Batching
import StreamMux.Proofs.Fruitless

namespace StreamMux

/-- The stream that the woken call is suspended on. -/
def Wake.stream : Wake → UInt32
  | .reader id | .writer id => id

namespace Stream

variable {s s' : Stream} {maxPayload : UInt32} {e : Session.Event} {u : Traffic} {w : Wake}

/-- Calls are suspended on the stream only while its handle is held, and for what they lack. -/
structure Alert (s : Stream) : Prop where
  reader : s.readWaiting = true → s.buffered = 0 ∧ s.remoteClosed = false ∧ s.reset = none
  writer : s.Patient
  held : s.readWaiting = true ∨ s.writeWaiting = true → s.handle = .held

theorem alert_of_unmarked (hr : s.readWaiting = false) (hw : s.writeWaiting = false) : s.Alert :=
  ⟨by simp [hr], by simp [Patient, hw], by simp [hr, hw]⟩

theorem Alert.idle (h : s.Alert) (hterm : s.isTerminal = true) : s.readWaiting = false ∧
    s.writeWaiting = false := by
  refine ⟨Bool.eq_false_iff.mpr fun hr => ?_, by simpa [hterm] using h.writer.idle⟩
  obtain ⟨-, hrc, hreset⟩ := h.reader hr
  simp [isTerminal_eq, hrc, hreset] at hterm

theorem Alert.aborted (h : s.Alert) (cause : ResetCause) : (s.aborted cause).Alert := by
  rw [aborted_eq]
  cases hterm : s.isTerminal with
  | true => exact alert_of_unmarked (h.idle hterm).1 (h.idle hterm).2
  | false => exact alert_of_unmarked rfl rfl

/-- Every step that brings what a suspended call lacks clears its mark. -/
theorem Alert.step (h : s.Alert) (hmax : maxPayload ≠ 0) (hstep : s.Step maxPayload e u s') :
    s'.Alert := by
  have hpatient := h.writer.step hmax hstep
  cases hstep with
  | still | unheeded | emptyData | write => exact ⟨h.reader, hpatient, h.held⟩
  | accept => exact ⟨h.reader, hpatient, fun _ => rfl⟩
  | readWaits hh _ hb hrc hr => exact ⟨fun _ => ⟨hb, hrc, hr⟩, hpatient, fun _ => hh⟩
  | read hh _ hb => exact ⟨fun hr => absurd (h.reader hr).1 hb, hpatient, fun _ => hh⟩
  | writeWaits hh => exact ⟨h.reader, hpatient, fun _ => hh⟩
  | closeWrite hh => exact ⟨h.reader, hpatient, fun _ => hh⟩
  | reset | accused | rst => exact h.aborted _
  | dropAborted | dropHandle => exact alert_of_unmarked rfl rfl
  | data => exact ⟨(nomatch ·), hpatient, fun hm => h.held (hm.resolve_left (nomatch ·) |> .inr)⟩
  | dataForNobody _ _ _ _ _ _ _ hd =>
    -- Nothing is suspended on a stream whose handle is gone.
    have hnobody : s.handle ≠ .held := by simp [hd]
    exact ⟨fun hr => absurd (h.held (.inl hr)) hnobody, hpatient,
      fun hm => absurd (h.held hm) hnobody⟩
  | windowUpdate =>
    rw [grant_eq] at hpatient ⊢
    refine ⟨h.reader, hpatient, fun hm => h.held (hm.imp_right fun hw => ?_)⟩
    exact (Bool.and_eq_true_iff.mp hw).2
  | fin =>
    rw [finish_eq] at hpatient ⊢
    refine ⟨fun hr => ?_, hpatient, fun hm => h.held
      (hm.imp_left fun hr => (Bool.and_eq_true_iff.mp hr).2)⟩
    obtain ⟨hfinal, hr⟩ := Bool.and_eq_true_iff.mp hr
    obtain ⟨-, hrc, hreset⟩ := h.reader hr
    simp [hrc, hreset] at hfinal

theorem Alert.torn (h : s.Alert) (cause : Fault) : (Session.tornDown cause s).Alert :=
  Session.tornDown_of h (h.aborted _)

/-! ## Whom a step wakes -/

theorem stream_of_cleared (h : w ∈ s.cleared s') : w.stream = s.id := by
  rw [cleared, List.mem_append] at h
  rcases h with h | h <;> split at h <;> cases h
  · rfl
  · contradiction
  · rfl
  · contradiction

theorem reader_mem_cleared : .reader s.id ∈ s.cleared s' ↔ s.readWaiting = true ∧
    s'.readWaiting = false := by
  simp [cleared]

theorem writer_mem_cleared : .writer s.id ∈ s.cleared s' ↔ s.writeWaiting = true ∧
    s'.writeWaiting = false := by
  simp [cleared]

theorem woken_of_ne (h : ∀ id, e ≠ .call (.dropHandle id)) : s.woken e s' = s.cleared s' := by
  unfold woken
  split
  next id => exact absurd rfl (h id)
  next => rfl

/-- A step of the stream wakes the calls whose marks it clears, unless it gives up the handle. -/
theorem mem_woken (h : s.Step maxPayload e u s') :
    w ∈ s.woken e s' ↔ e ≠ .call (.dropHandle s.id) ∧ w ∈ s.cleared s' := by
  by_cases hdrop : ∃ id, e = .call (.dropHandle id)
  · obtain ⟨id, rfl⟩ := hdrop
    refine iff_of_false (by simp [woken]) fun ⟨hother, hw⟩ => ?_
    cases h with
    | still => simp at hw
    | dropAborted | dropHandle => exact hother rfl
  · have hother : ∀ id, e ≠ .call (.dropHandle id) := fun id he => hdrop ⟨id, he⟩
    rw [woken_of_ne hother]
    exact (and_iff_right (hother s.id)).symm

end Stream

namespace Session

variable {s : Session} {role : Role} {config : Config} {id : UInt32} {es : List Event} {st : Stream}

/-- Of every stream that there was, a step wakes the calls whose marks it clears, unless
it gives up the handle. -/
theorem Turn.mem_wakes {s' : Session} {e : Event} {st' : Stream} {w : Wake} (h : s.Turn e s')
    (wf : s.WellFormed)
    (hst : s.find? id = some st) (hst' : s'.find? id = some st') (hw : w.stream = id) :
    w ∈ (s.step e).wakes ↔ e ≠ .call (.dropHandle id) ∧ w ∈ st.cleared st' := by
  have silent (hwakes : (s.step e).wakes = []) (hr : st'.readWaiting = st.readWaiting)
      (hwr : st'.writeWaiting = st.writeWaiting) :
      w ∈ (s.step e).wakes ↔ e ≠ .call (.dropHandle id) ∧ w ∈ st.cleared st' := by
    simp [hwakes, Stream.cleared_of_eq hr hwr]
  have kept (hwakes : (s.step e).wakes = []) (hsame : s'.find? id = s.find? id) :
      w ∈ (s.step e).wakes ↔ e ≠ .call (.dropHandle id) ∧ w ∈ st.cleared st' := by
    obtain rfl : st = st' := Option.some.inj ((hst.symm.trans hsame.symm).trans hst')
    exact silent hwakes rfl rfl
  have added {new : Stream} (hwakes : (s.step e).wakes = [])
      (happ : s'.streams = s.streams ++ [new])
      (hfresh : s.find? new.id = none) : w ∈ (s.step e).wakes ↔ e ≠ .call (.dropHandle id) ∧
          w ∈ st.cleared st' := by
    refine kept hwakes (find?_append_ne (fun hi => ?_) happ)
    rw [hi, hfresh] at hst
    cases hst
  cases h with
  | quiet _ hwakes | late _ _ _ _ _ _ hwakes => exact kept hwakes rfl
  | @touched old new t stats hfind _ hstep _ hwakes =>
    rw [hwakes]
    by_cases hi : id = old.id
    · subst hi
      obtain rfl : old = st := Option.some.inj (hfind.symm.trans hst)
      have hput : (s.put new).find? new.id = some new :=
        find?_put (by rw [hstep.id_eq]; exact hfind)
      rw [hstep.id_eq] at hput
      obtain rfl : new = st' := Option.some.inj (hput.symm.trans hst')
      exact Stream.mem_woken hstep
    · -- It wakes calls on one stream only.
      have hsame : (s.put new).find? id = s.find? id := find?_put_ne (by rw [hstep.id_eq]; exact hi)
      obtain rfl : st = st' := Option.some.inj ((hst.symm.trans hsame.symm).trans hst')
      rw [Stream.mem_woken hstep]
      refine iff_of_false (fun h => hi ?_) (by simp)
      rw [← hw, Stream.stream_of_cleared h.2]
  | @claimed old ticket rest acceptors stats _ _ hfind _ hwakes =>
    by_cases hi : id = old.id
    · subst hi
      obtain rfl : old = st := Option.some.inj (hfind.symm.trans hst)
      have hput : (s.put { old with handle := .held }).find? old.id =
        some { old with handle := .held } := find?_put hfind
      obtain rfl := Option.some.inj (hput.symm.trans hst')
      exact silent hwakes rfl rfl
    · have hother : (s.put { old with handle := .held }).find? id = s.find? id := find?_put_ne hi
      exact kept hwakes hother
  | opened _ _ hn _ hwakes => exact added hwakes rfl (wf.find?_nextId hn)
  | announced _ _ _ _ hm _ hwakes => exact added hwakes rfl (wf.find?_of_mayOpen hm)
  | refused _ _ _ _ hm _ _ hwakes =>
    exact added hwakes rfl (by rw [Stream.aborted_id]; exact wf.find?_of_mayOpen hm)
  | @ended cause stats _ hends _ hwakes =>
    have hdrop : e ≠ .call (.dropHandle id) := by
      rintro rfl
      cases hends
    have htorn := (find?_tornDown (s := s) cause rfl).symm.trans hst'
    rw [hst] at htorn
    obtain rfl := Option.some.inj htorn
    rw [hwakes, List.mem_flatMap, and_iff_right hdrop]
    refine ⟨fun ⟨old, hmem, hwake⟩ => ?_, fun hwake => ⟨st, mem_of_find? hst, hwake⟩⟩
    have hold := find?_of_mem wf.distinct hmem
    rw [← Stream.stream_of_cleared hwake, hw, hst] at hold
    obtain rfl := Option.some.inj hold
    exact hwake

/-- A read that has room and no deadline would not have to wait. -/
def ReadCanEnd (s : Session) (id : UInt32) : Prop :=
  ∃ room, 0 < room ∧ (s.step (.call (.read id room false))).result ≠ .got .pending

/-- A write that has bytes and no deadline would not have to wait. -/
def WriteCanEnd (s : Session) (id : UInt32) : Prop :=
  ∃ bytes, bytes ≠ [] ∧ (s.step (.call (.write id bytes false))).result ≠ .wrote .pending

/-- What streams have suspended calls for, in every session that can be met. -/
theorem alert (hmax : config.maxFramePayload ≠ 0)
    (h : ((make role config).after es).find? id = some st) : st.Alert :=
  stream_induction (P := fun st _ => st.Alert) (fun _ => Stream.alert_of_unmarked rfl rfl)
    (fun _ => Stream.alert_of_unmarked rfl rfl) (fun _ => Stream.alert_of_unmarked rfl rfl)
    (fun _ _ _ _ _ _ hst ih => ih.step hmax hst) (fun _ _ cause _ ih => ih.torn cause) h

theorem not_readCanEnd (wf : s.WellFormed) (h : s.find? id = some st) (ha : st.Alert)
    (hr : st.readWaiting = true) : ¬ s.ReadCanEnd id := by
  rintro ⟨room, hroom, hanswer⟩
  obtain ⟨hb, hrc, hreset⟩ := ha.reader hr
  have hheld := ha.held (.inl hr)
  have hunread : st.unread = [] := by
    rw [← List.length_eq_zero_iff, ← (wf.sound st (mem_of_find? h)).buffered_eq, hb]
  refine hanswer ?_
  rw [answer_read wf h hheld hreset hroom, if_pos hunread, hrc]
  rfl

theorem not_writeCanEnd (wf : s.WellFormed) (h : s.find? id = some st) (ha : st.Alert)
    (hw : st.writeWaiting = true) : ¬ s.WriteCanEnd id := by
  rintro ⟨bytes, hbytes, hanswer⟩
  obtain ⟨hcredit, hl, hreset⟩ := ha.writer hw
  refine hanswer ?_
  rw [answer_write wf h (ha.held (.inr hw)) hreset hl hbytes, if_pos]
  rw [portion, hcredit]
  exact Nat.min_zero _

theorem marked_of_read {room : Nat} {expired : Bool} (hs : Reachable role config s)
    (h : (s.step (.call (.read id room expired))).result = .got .pending) :
    ∃ st, (s.step (.call (.read id room expired))).state.find? id = some st ∧
      st.readWaiting = true := by
  simp only [step, call, onHeld] at h ⊢
  cases hheld : s.held? id with
  | none => rw [hheld] at h; cases h
  | some st =>
    rw [hheld] at h
    have hfind := (find?_of_held hs.wellFormed hheld).1
    have hpolled := polled_read_of_find? hs hfind room
    have hstate : (s.read st room expired).state = _ :=
      hpolled.marks ((hpolled.waits_iff _).mp (.inl (Reply.got.inj h)))
    obtain rfl := find?_id hfind
    exact ⟨_, (congrArg (find? · st.id) hstate).trans (find?_put hfind), rfl⟩

theorem marked_of_write {bytes : Bytes} {expired : Bool} (hs : Reachable role config s)
    (h : (s.step (.call (.write id bytes expired))).result = .wrote .pending) :
    ∃ st, (s.step (.call (.write id bytes expired))).state.find? id = some st ∧
      st.writeWaiting = true := by
  simp only [step, call, onHeld] at h ⊢
  cases hheld : s.held? id with
  | none => rw [hheld] at h; cases h
  | some st =>
    rw [hheld] at h
    have hfind := (find?_of_held hs.wellFormed hheld).1
    have hpolled := polled_write_of_find? hs hfind bytes
    have hstate : (s.write st bytes expired).state = _ :=
      hpolled.marks ((hpolled.waits_iff _).mp (.inl (Reply.wrote.inj h)))
    obtain rfl := find?_id hfind
    exact ⟨_, (congrArg (find? · st.id) hstate).trans (find?_put hfind), rfl⟩

/-- The streams of every session that can be met bear the mark of a suspended call only while such
a call has to wait and the handle is held. So every step after which a call that is suspended on a
stream could go on takes the mark away and wakes the call, unless it gives up the handle; it wakes
just the calls whose marks it takes away; and a call that has to wait leaves its mark. Frames may
have a payload, as they may by every valid configuration. -/
theorem no_lost_wakeup (hmax : config.maxFramePayload ≠ 0) (hs : Reachable role config s) :
    (∀ id st, s.find? id = some st →
      (st.readWaiting = true → st.unread = [] ∧ st.remoteClosed = false ∧ st.reset = none ∧
        st.handle = .held) ∧
      (st.writeWaiting = true → st.send.credit = 0 ∧ st.localClosed = false ∧ st.reset = none ∧
        st.handle = .held)) ∧
    (∀ e id st, s.find? id = some st → ∃ st', (s.step e).state.find? id = some st' ∧
      (st.readWaiting = true → (s.step e).state.ReadCanEnd id →
        st'.readWaiting = false ∧ (e ≠ .call (.dropHandle id) → .reader id ∈ (s.step e).wakes)) ∧
      (st.writeWaiting = true → (s.step e).state.WriteCanEnd id →
        st'.writeWaiting = false ∧ (e ≠ .call (.dropHandle id) → .writer id ∈ (s.step e).wakes)) ∧
      (.reader id ∈ (s.step e).wakes ↔
        e ≠ .call (.dropHandle id) ∧ st.readWaiting = true ∧ st'.readWaiting = false) ∧
      (.writer id ∈ (s.step e).wakes ↔
        e ≠ .call (.dropHandle id) ∧ st.writeWaiting = true ∧ st'.writeWaiting = false)) ∧
    (∀ id room expired, (s.step (.call (.read id room expired))).result = .got .pending →
      ∃ st, (s.step (.call (.read id room expired))).state.find? id = some st ∧
        st.readWaiting = true) ∧
    ∀ id bytes expired, (s.step (.call (.write id bytes expired))).result = .wrote .pending →
      ∃ st, (s.step (.call (.write id bytes expired))).state.find? id = some st ∧
        st.writeWaiting = true := by
  have alertNow {s : Session} {id : UInt32} {st : Stream} (hs : Reachable role config s)
      (h : s.find? id = some st) : st.Alert := by
    obtain ⟨es, rfl⟩ := hs.exists_run
    exact alert hmax h
  refine ⟨fun id st h => ?_, fun e id st h => ?_, fun id room expired => marked_of_read hs,
    fun id bytes expired => marked_of_write hs⟩
  · have ha := alertNow hs h
    refine ⟨fun hr => ?_, fun hw => ?_⟩
    · obtain ⟨hb, hrc, hreset⟩ := ha.reader hr
      rw [(hs.wellFormed.sound st (mem_of_find? h)).buffered_eq, List.length_eq_zero_iff] at hb
      exact ⟨hb, hrc, hreset, ha.held (.inl hr)⟩
    · obtain ⟨hcredit, hl, hreset⟩ := ha.writer hw
      exact ⟨hcredit, hl, hreset, ha.held (.inr hw)⟩
  · obtain ⟨st', hst'⟩ := find?_after [e] hs.wellFormed h
    have hstep := hs.step e
    have ha := alertNow hstep hst'
    have hturn := turn_of_step hs.wellFormed e
    obtain rfl := find?_id h
    have hreader := (hturn.mem_wakes (w := .reader st.id) hs.wellFormed h hst' rfl).trans
      (and_congr_right' Stream.reader_mem_cleared)
    have hwriter := (hturn.mem_wakes (w := .writer st.id) hs.wellFormed h hst' rfl).trans
      (and_congr_right' Stream.writer_mem_cleared)
    refine ⟨st', hst', fun hmark hcan => ?_, fun hmark hcan => ?_, hreader, hwriter⟩
    · have hgone : st'.readWaiting = false :=
        Bool.eq_false_iff.mpr fun hr => not_readCanEnd hstep.wellFormed hst' ha hr hcan
      exact ⟨hgone, fun hdrop => hreader.mpr ⟨hdrop, hmark, hgone⟩⟩
    · have hgone : st'.writeWaiting = false :=
        Bool.eq_false_iff.mpr fun hw => not_writeCanEnd hstep.wellFormed hst' ha hw hcan
      exact ⟨hgone, fun hdrop => hwriter.mpr ⟨hdrop, hmark, hgone⟩⟩

/-- Somebody waits to read from a stream. -/
def reading : Session :=
  (make .client ⟨4, 4, 50, 1⟩).after [.call .openStream, .call (.read 1 4 false)]

/-- The FIN of the peer wakes the reader. -/
theorem no_lost_wakeup_of_fin :
    ∃ st', (reading.step (.message (Frame.fin 1).encode)).state.find? 1 = some st' ∧
    st'.readWaiting = false ∧ .reader 1 ∈ (reading.step (.message (Frame.fin 1).encode)).wakes := by
  obtain ⟨-, hwakes, -⟩ := @no_lost_wakeup _ .client ⟨4, 4, 50, 1⟩ (by decide)
    (reachable_after .start [.call .openStream, .call (.read 1 4 false)])
  obtain ⟨st', hst', hread, -⟩ := hwakes (.message (Frame.fin 1).encode) 1 _ rfl
  obtain ⟨hgone, hwoken⟩ := hread rfl ⟨4, by decide, fun h => nomatch h⟩
  exact ⟨st', hst', hgone, hwoken (by simp)⟩

end Session
end StreamMux
