/-
What the credit operations do, as equations between natural numbers. As long as
nothing overflows, a sender's reservation and a receiver's batching neither
make nor lose credit; `SendWindow.grant` never makes any.
-/
import StreamMux.Window

namespace StreamMux

theorem toNat_toUInt32 {n : Nat} (h : n < UInt32.size) : n.toUInt32.toNat = n :=
  UInt32.toNat_ofNat_of_lt' h

theorem toNat_saturatingAdd {a b : UInt32} (h : a.toNat + b.toNat < UInt32.size) :
    (saturatingAdd a b).toNat = a.toNat + b.toNat := by
  rw [saturatingAdd, if_pos h, UInt32.toNat_add]
  exact Nat.mod_eq_of_lt h

theorem toNat_saturatingAdd_le (a b : UInt32) : (saturatingAdd a b).toNat ≤ a.toNat + b.toNat := by
  by_cases h : a.toNat + b.toNat < UInt32.size
  · exact Nat.le_of_eq (toNat_saturatingAdd h)
  · rw [saturatingAdd, if_neg h]
    show UInt32.size - 1 ≤ a.toNat + b.toNat
    omega

/-- Taking off what a word can spare does not wrap. -/
theorem toNat_sub_natCast {w : UInt32} {n : Nat} (h : n ≤ w.toNat) :
    (w - n.toUInt32).toNat = w.toNat - n := by
  have hw := w.toNat_lt_size
  have hn : n.toUInt32.toNat = n := toNat_toUInt32 (by omega)
  rw [UInt32.toNat_sub_of_le _ _ (by rw [UInt32.le_iff_toNat_le, hn]; exact h), hn]

namespace SendWindow

theorem reserve_fst (w : SendWindow) (n : Nat) : (w.reserve n).1 = min n w.credit.toNat := rfl

theorem toNat_reserve (w : SendWindow) (n : Nat) :
    (w.reserve n).2.credit.toNat = w.credit.toNat - min n w.credit.toNat :=
  toNat_sub_natCast (Nat.min_le_right _ _)

theorem toNat_grant {w : SendWindow} {delta : UInt32} (h : (w.grant delta).1 = true) :
    (w.grant delta).2.credit.toNat = w.credit.toNat + delta.toNat := by
  simp only [grant, decide_eq_true_eq] at h
  exact toNat_saturatingAdd h

theorem toNat_grant_le (w : SendWindow) (delta : UInt32) :
    (w.grant delta).2.credit.toNat ≤ w.credit.toNat + delta.toNat := toNat_saturatingAdd_le _ _

end SendWindow

namespace RecvWindow

/-- The credit that `consume` gives back, zero if it keeps it for later. -/
def given (w : RecvWindow) (n : Nat) : Nat := ((w.consume n).1.getD 0).toNat

theorem receive_ok {w w' : RecvWindow} {n : Nat} (h : w.receive n = .ok w') :
    w'.remaining.toNat + n = w.remaining.toNat ∧ w'.unacked = w.unacked := by
  simp only [receive] at h
  split at h
  · cases h
  · next hle =>
    cases h
    have := toNat_sub_natCast (Nat.le_of_not_gt hle)
    simp only [this, and_true]
    omega

/-- What is counted as read is given back or stays unacknowledged. -/
theorem toNat_unacked_consume {w : RecvWindow} {n : Nat} (h : w.unacked.toNat + n < UInt32.size) :
    w.given n + (w.consume n).2.unacked.toNat = w.unacked.toNat + n := by
  have hn : n.toUInt32.toNat = n := toNat_toUInt32 (by omega)
  have hadd := toNat_saturatingAdd (a := w.unacked) (b := n.toUInt32) (by omega)
  simp only [given, consume]
  split <;> simp [hadd, hn]

/-- What is given back can be received again. -/
theorem toNat_remaining_consume {w : RecvWindow} {n : Nat}
    (h : w.remaining.toNat + w.unacked.toNat + n < UInt32.size) :
    (w.consume n).2.remaining.toNat = w.remaining.toNat + w.given n := by
  have hn : n.toUInt32.toNat = n := toNat_toUInt32 (by omega)
  have hadd := toNat_saturatingAdd (a := w.unacked) (b := n.toUInt32) (by omega)
  simp only [given, consume]
  split
  · simp
  · simp [toNat_saturatingAdd (a := w.remaining) (b := saturatingAdd w.unacked n.toUInt32)
      (by omega)]

variable {w : RecvWindow} {n : Nat}

/-- DATA within the window. -/
theorem exists_receive (h : n ≤ w.remaining.toNat) :
    ∃ recv, w.receive n = .ok recv ∧ recv = { w with remaining := recv.remaining } := by
  rw [receive, if_neg (Nat.not_lt.mpr h)]
  exact ⟨_, rfl, rfl⟩

/-- Too little was read for credit to go back. -/
theorem consume_of_lt (hlt : w.unacked.toNat + n < UInt32.size)
    (h : w.unacked.toNat + n < w.threshold.toNat) :
    (w.consume n).1 = none ∧ (w.consume n).2.remaining = w.remaining ∧
      (w.consume n).2.unacked.toNat = w.unacked.toNat + n := by
  have hn : n.toUInt32.toNat = n := toNat_toUInt32 (by omega)
  have hadd := toNat_saturatingAdd (a := w.unacked) (b := n.toUInt32) (by omega)
  have hbelow : saturatingAdd w.unacked n.toUInt32 < w.threshold := by
    rw [UInt32.lt_iff_toNat_lt]
    omega
  simp only [consume, if_pos hbelow, hadd, hn, and_self]

/-- All that was read since the last time goes back. -/
theorem consume_of_le (hlt : w.remaining.toNat + w.unacked.toNat + n < UInt32.size)
    (h : w.threshold.toNat ≤ w.unacked.toNat + n) :
    ∃ credit, (w.consume n).1 = some credit ∧ credit.toNat = w.unacked.toNat + n ∧
      (w.consume n).2.remaining.toNat = w.remaining.toNat + credit.toNat ∧
        (w.consume n).2.unacked = 0 := by
  have hn : n.toUInt32.toNat = n := toNat_toUInt32 (by omega)
  have hadd := toNat_saturatingAdd (a := w.unacked) (b := n.toUInt32) (by omega)
  have hreached : ¬ saturatingAdd w.unacked n.toUInt32 < w.threshold := by
    rw [UInt32.lt_iff_toNat_lt]
    omega
  simp only [consume, if_neg hreached, Option.some.injEq]
  exact ⟨_, rfl, by rw [hadd, hn], toNat_saturatingAdd (by omega), trivial⟩

end RecvWindow
end StreamMux
