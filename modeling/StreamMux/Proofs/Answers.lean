/-
What calls answer on a stream that was not aborted and whose handle is held, exactly:
which of them wait, and for what, and what they leave of the handle and of the local
direction. No call fails there.
-/
import StreamMux.Proofs.Aftermath

namespace StreamMux.Session

variable {s : Session} {id : UInt32} {st : Stream} {bytes : Bytes} {room : Nat}

/-- How many bytes a write takes at once: what one frame and the credit allow. -/
def portion (s : Session) (st : Stream) (bytes : Bytes) : Nat :=
  min (min bytes.length s.config.maxFramePayload.toNat) st.send.credit.toNat

theorem portion_le : s.portion st bytes ≤ bytes.length :=
  Nat.le_trans (Nat.min_le_left _ _) (Nat.min_le_left _ _)

/-- A write that has bytes waits for credit only. -/
theorem credit_of_portion (hmax : s.config.maxFramePayload ≠ 0) (hb : bytes ≠ [])
    (h : s.portion st bytes = 0) : st.send.credit = 0 := by
  have hlength := List.length_pos_iff.mpr hb
  have hpositive : s.config.maxFramePayload.toNat ≠ 0 := fun hz => hmax (UInt32.toNat_inj.mp hz)
  refine UInt32.toNat_inj.mp ?_
  unfold portion at h
  show st.send.credit.toNat = 0
  omega

theorem onHeld_of_find? {op : Stream → Outcome Session Reply} (wf : s.WellFormed)
    (h : s.find? id = some st) (hheld : st.handle = .held) : s.onHeld id op = op st := by
  have hst : s.held? id = some st := by rw [held?_eq wf.distinct, h, Option.filter_some, hheld]; rfl
  rw [onHeld, hst]

section

variable (wf : s.WellFormed) (h : s.find? id = some st) (hheld : st.handle = .held)
include wf h hheld

theorem step_closeWrite : s.step (.call (.closeWrite id)) = Outcome.as (s.closeWrite st) .closed :=
  onHeld_of_find? wf h hheld

theorem closeWrite_held :
    (s.step (.call (.closeWrite id))).result = .closed (.ok ()) ∧
      ∃ st', (s.step (.call (.closeWrite id))).state.find? id = some st' ∧ st'.handle = .held ∧
        st'.reset = st.reset ∧
        (st'.localClosed || st'.reset.isSome) = true := by
  rw [step_closeWrite wf h hheld]
  obtain rfl := find?_id h
  unfold closeWrite Outcome.as
  split
  next hdone => exact ⟨rfl, st, h, hheld, rfl, hdone⟩
  next hlive =>
    have hopen : s.ended = none := wf.open_of_live h (by
      simp only [Bool.or_eq_true, not_or, Bool.not_eq_true, Option.isSome_eq_false_iff,
        Option.isNone_iff_eq_none] at hlive
      simp [Stream.isTerminal_eq, hlive])
    simp only [queue, hopen]
    have hput := retireIf_put { st with localClosed := true, writeWaiting := false } wf.distinct h
    refine ⟨trivial, { st with localClosed := true, writeWaiting := false }.settle, ?_,
      hheld, rfl, rfl⟩
    rw [hput]
    have hid : ({ st with localClosed := true, writeWaiting := false } : Stream).settle.id =
      st.id := rfl
    exact find?_put (by rw [hid]; exact h)

variable (hr : st.reset = none)
include hr

theorem answer_read (hroom : 0 < room) : (s.step (.call (.read id room false))).result = .got
    (if st.unread = [] then if st.remoteClosed then .ready (.ok []) else .pending
      else .ready (.ok (st.unread.take room))) := by
  have hb : st.buffered = 0 ↔ st.unread = [] := by
    rw [(wf.sound st (mem_of_find? h)).buffered_eq, List.length_eq_zero_iff]
  have hread : s.step (.call (.read id room false)) = Outcome.as (s.read st room false) .got :=
    onHeld_of_find? wf h hheld
  rw [hread]
  simp [Outcome.as, read_result hroom, hr, hb]

/-- A write takes what it can, or waits for credit as long as it may. -/
theorem answer_write_until (hl : st.localClosed = false) (hb : bytes ≠ []) (expired : Bool) :
    (s.step (.call (.write id bytes expired))).result = .wrote
      (if s.portion st bytes = 0 then if expired then .ready (.error .deadline) else .pending
        else .ready (.ok (s.portion st bytes))) := by
  have hopen : s.ended = none := by
    obtain rfl := find?_id h
    exact wf.open_of_live h (by simp [Stream.isTerminal_eq, hr, hl])
  have hwrite : s.step (.call (.write id bytes expired)) =
      Outcome.as (s.write st bytes expired) .wrote :=
    onHeld_of_find? wf h hheld
  have hlength : (bytes.take s.config.maxFramePayload.toNat).length =
      min bytes.length s.config.maxFramePayload.toNat := by
    rw [List.length_take, Nat.min_comm]
  rw [hwrite]
  simp only [Outcome.as, write, hr, hl, List.isEmpty_iff, hb, SendWindow.reserve, hlength, queue,
    hopen, Bool.false_eq_true, if_false]
  by_cases hn : s.portion st bytes = 0
  · rw [if_pos hn]
    rw [portion] at hn
    simp only [hn, if_true]
  · rw [if_neg hn, portion]
    rw [portion] at hn
    simp only [hn, if_false]

theorem answer_write (hl : st.localClosed = false) (hb : bytes ≠ []) :
    (s.step (.call (.write id bytes false))).result = .wrote
      (if s.portion st bytes = 0 then .pending else .ready (.ok (s.portion st bytes))) :=
  answer_write_until wf h hheld hr hl hb false

theorem dropHandle_held : ∃ st', (s.step (.call (.dropHandle id))).state.find? id = some st' ∧
    st'.handle = .dropped ∧
    st'.localClosed = true := by
  have hdrop : s.step (.call (.dropHandle id)) = Outcome.as (s.dropHandle st) fun _ => .nothing :=
    onHeld_of_find? wf h hheld
  rw [hdrop]
  obtain rfl := find?_id h
  refine ⟨st.afterDrop.settle, ?_, rfl, rfl⟩
  have hstate : (s.dropHandle st).state = s.put st.afterDrop.settle :=
    (dropHandle_state hr).trans (retireIf_put st.afterDrop wf.distinct h)
  show (s.dropHandle st).state.find? st.id = _
  have hid : st.afterDrop.settle.id = st.id := rfl
  rw [hstate]
  exact find?_put (by rw [hid]; exact h)

/-- The FIN of a stream that is open here is queued. -/
theorem closeWrite_frames (hl : st.localClosed = false) :
    (s.step (.call (.closeWrite id))).frames = [.fin id] := by
  rw [step_closeWrite wf h hheld]
  obtain rfl := find?_id h
  have hopen := wf.open_of_live h (by simp [Stream.isTerminal_eq, hr, hl])
  simp only [Outcome.as, closeWrite, hl, hr, queue, hopen, Option.isSome_none, Bool.or_false,
    Bool.false_eq_true, if_false]

end

end StreamMux.Session
