/-
A sender and a receiver with nothing between them lose no credit, whatever they are set up
with: what the one may send is what the other may still be sent, and a byte that was
received is unread, read and not given back, or given back. So nothing that is reserved
comes too early and no credit that goes back is too much. A threshold above the window
is no exception: credit then never goes back, and nothing more can be sent.
-/
import StreamMux.Proofs.Batching
import StreamMux.Window.Loop

namespace StreamMux.CreditLoop

variable {l : CreditLoop} {initial : UInt32} {threshold since : Nat} {s : Step} {steps : List Step}

/-- The windows after a sequence of steps. -/
def after (l : CreditLoop) (steps : List Step) : CreditLoop :=
  steps.foldl (fun l s => (l.step s).2) l

/-- What is read and not given back, once a step was answered so. -/
def owing (since : Nat) : Answer → Nat
  | .sent _ _ => since
  | .got count none _ => since + count
  | .got _ (some _) _ => 0

/-- The bytes read since credit last went back. -/
def owed (l : CreditLoop) (steps : List Step) : Nat :=
  (l.run steps).foldl (fun since r => owing since r.1) 0

theorem after_concat : l.after (steps ++ [s]) = ((l.after steps).step s).2 := List.foldl_append

theorem run_concat : l.run (steps ++ [s]) = l.run steps ++ [(l.after steps).step s] := by
  induction steps generalizing l with
  | nil => rfl
  | cons first steps ih => exact congrArg _ ih

theorem owed_concat : l.owed (steps ++ [s]) = owing (l.owed steps) ((l.after steps).step s).1 := by
  rw [owed, run_concat, List.foldl_append]
  rfl

/-! ## One step -/

/-- Both windows agree, and the receiver accounts for every byte of the initial window. -/
structure Even (initial : UInt32) (threshold since : Nat) (l : CreditLoop) : Prop where
  available : l.send.credit = l.recv.remaining
  whole : l.recv.remaining.toNat + l.buffered + l.recv.unacked.toNat = initial.toNat
  threshold_eq : l.recv.threshold.toNat = threshold
  unacked_lt : l.recv.unacked.toNat < threshold
  unacked_eq : l.recv.unacked.toNat = since

/-- What a step has to answer: all that there is credit for is sent and fits; all that is there is
read, and if that makes a batch, just what was read since the last one goes back and fits. -/
def Answers (threshold since : Nat) (l : CreditLoop) (answer : Answer) : Step → Prop
  | .send n => answer = .sent (min n l.send.credit.toNat) (.ok ())
  | .read n =>
    let count := min n l.buffered
    if since + count < threshold then answer = .got count none none
    else ∃ credit, answer = .got count (some credit) (some true) ∧ credit.toNat = since + count

theorem Even.make (initial : UInt32) (percent : UInt8) :
    Even initial (max 1 (updateThreshold initial percent)).toNat 0 (make initial percent) := by
  have hpos := updateThreshold_pos initial percent
  have hmax : (max 1 (updateThreshold initial percent)).toNat =
      (updateThreshold initial percent).toNat := by
    rw [toNat_max]
    exact Nat.max_eq_right hpos
  refine ⟨rfl, Nat.add_zero _, ?_, ?_, rfl⟩
  · rw [hmax, CreditLoop.make, RecvWindow.threshold_make hpos]
  · rw [hmax]
    exact hpos

variable (h : l.Even initial threshold since)
include h

/-- What was reserved always fits. -/
theorem Even.send (n : Nat) :
    (l.step (.send n)).1 = .sent (min n l.send.credit.toNat) (.ok ()) ∧
      (l.step (.send n)).2.Even initial threshold since := by
  have hfits : min n l.send.credit.toNat ≤ l.recv.remaining.toNat := by
    rw [← h.available]
    exact Nat.min_le_right _ _
  obtain ⟨recv, hrec, -⟩ := RecvWindow.exists_receive hfits
  obtain ⟨hremaining, hunacked⟩ := RecvWindow.receive_ok hrec
  have hsent := l.send.toNat_reserve n
  have havailable := congrArg UInt32.toNat h.available
  have hwhole := h.whole
  simp only [step, SendWindow.reserve_fst, hrec]
  refine ⟨trivial, UInt32.toNat_inj.mp ?_, ?_, ?_, ?_, ?_⟩
  · show (l.send.reserve n).2.credit.toNat = recv.remaining.toNat
    omega
  · show recv.remaining.toNat + (l.buffered + min n l.send.credit.toNat) + recv.unacked.toNat =
      initial.toNat
    rw [hunacked]
    omega
  · rw [RecvWindow.receive_threshold hrec]
    exact h.threshold_eq
  · rw [hunacked]
    exact h.unacked_lt
  · rw [hunacked]
    exact h.unacked_eq

/-- What was read is kept for later, as long as there is not enough of it. -/
theorem Even.keep (n : Nat) (hfew : since + min n l.buffered < threshold) :
    (l.step (.read n)).1 = .got (min n l.buffered) none none ∧
      (l.step (.read n)).2.Even initial threshold (since + min n l.buffered) := by
  have hword := initial.toNat_lt_size
  have hwhole := h.whole
  have hcount : min n l.buffered ≤ l.buffered := Nat.min_le_right _ _
  obtain ⟨hnone, hremaining, hunacked⟩ :=
    RecvWindow.consume_of_lt (w := l.recv) (n := min n l.buffered) (by omega)
    (by rw [h.unacked_eq, h.threshold_eq]; exact hfew)
  have hthreshold := l.recv.consume_threshold (min n l.buffered)
  simp only [step, hnone]
  refine ⟨trivial, h.available.trans hremaining.symm, ?_, ?_, ?_, ?_⟩
  · show (l.recv.consume _).2.remaining.toNat + (l.buffered - min n l.buffered) +
      (l.recv.consume _).2.unacked.toNat = _
    rw [hremaining, hunacked]
    omega
  · rw [hthreshold]
    exact h.threshold_eq
  · rwa [hunacked, h.unacked_eq]
  · rw [hunacked, h.unacked_eq]

/-- All that was read since the last time goes back, and the sender has room for it. -/
theorem Even.giveBack (n : Nat) (henough : threshold ≤ since + min n l.buffered) :
    ∃ credit, (l.step (.read n)).1 = .got (min n l.buffered) (some credit) (some true) ∧
      credit.toNat = since + min n l.buffered ∧ (l.step (.read n)).2.Even initial threshold 0 := by
  have hword := initial.toNat_lt_size
  have hwhole := h.whole
  have havailable := congrArg UInt32.toNat h.available
  have hcount : min n l.buffered ≤ l.buffered := Nat.min_le_right _ _
  obtain ⟨credit, hsome, hcredit, hremaining, hunacked⟩ :=
    RecvWindow.consume_of_le (w := l.recv) (n := min n l.buffered)
    (by omega) (by rw [h.unacked_eq, h.threshold_eq]; exact henough)
  have hthreshold := l.recv.consume_threshold (min n l.buffered)
  have hfits : (l.send.grant credit).1 = true := by
    rw [SendWindow.grant, decide_eq_true_eq]
    omega
  have hgranted := SendWindow.toNat_grant hfits
  simp only [step, hsome, hfits]
  refine ⟨credit, rfl, by rw [hcredit, h.unacked_eq], UInt32.toNat_inj.mp ?_, ?_, ?_, ?_, ?_⟩
  · show (l.send.grant credit).2.credit.toNat = (l.recv.consume _).2.remaining.toNat
    omega
  · show (l.recv.consume _).2.remaining.toNat + (l.buffered - min n l.buffered) +
      (l.recv.consume _).2.unacked.toNat = _
    rw [hremaining, hunacked, UInt32.toNat_zero]
    omega
  · rw [hthreshold]
    exact h.threshold_eq
  · rw [hunacked]
    exact Nat.lt_of_le_of_lt (Nat.zero_le _) h.unacked_lt
  · rw [hunacked]
    rfl

/-- Whatever is done next, the windows answer as they should and stay even. -/
theorem Even.step (s : Step) :
    l.Answers threshold since (l.step s).1 s ∧ (l.step s).2.Even initial threshold
      (owing since (l.step s).1) := by
  cases s with
  | send n =>
    obtain ⟨hanswer, heven⟩ := h.send n
    rw [hanswer]
    exact ⟨rfl, heven⟩
  | read n =>
    rw [Answers]
    split
    next hfew =>
      obtain ⟨hanswer, heven⟩ := h.keep n hfew
      rw [hanswer]
      exact ⟨rfl, heven⟩
    next hfew =>
      obtain ⟨credit, hanswer, hcredit, heven⟩ := h.giveBack n (Nat.le_of_not_lt hfew)
      rw [hanswer]
      exact ⟨⟨credit, rfl, hcredit⟩, heven⟩

omit h

/-! ## Any run -/

theorem even_after (initial : UInt32) (percent : UInt8) (steps : List Step) :
    ((make initial percent).after steps).Even initial
      (max 1 (updateThreshold initial percent)).toNat
      ((make initial percent).owed steps) := by
  induction steps using List.reverseRecOn with
  | nil => exact .make initial percent
  | append_singleton steps s ih =>
    rw [after_concat, owed_concat]
    exact (ih.step s).2

/-- Windows set up with any number of bytes and any percentage, over any sequence of steps of any
size: what may be sent is what may be received, and with what is unread and what was read since
credit last went back it makes up the initial window. The latter is less than the threshold, and
the next step answers as it has to. -/
theorem lossless (initial : UInt32) (percent : UInt8) (steps : List Step) (s : Step) :
    let l := (make initial percent).after steps
    let threshold := (max 1 (updateThreshold initial percent)).toNat
    let since := (make initial percent).owed steps
    (make initial percent).run (steps ++ [s]) = (make initial percent).run steps ++ [l.step s] ∧
    l.send.credit = l.recv.remaining ∧
    l.recv.remaining.toNat + l.buffered + l.recv.unacked.toNat = initial.toNat ∧
    l.recv.unacked.toNat = since ∧ since < threshold ∧
    l.Answers threshold since (l.step s).1 s := by
  intro l threshold since
  have heven : l.Even initial threshold since := even_after initial percent steps
  have hbelow : since < threshold := by
    rw [← heven.unacked_eq]
    exact heven.unacked_lt
  exact ⟨run_concat, heven.available, heven.whole, heven.unacked_eq, hbelow, (heven.step s).1⟩

/-- At 200 percent of a window of two bytes, two bytes that were read do not go back. -/
example : ((make 2 200).run [.send 5, .read 5, .send 5]).map (·.2.send.credit) =
    [0, 0, 0] := by decide

end StreamMux.CreditLoop
