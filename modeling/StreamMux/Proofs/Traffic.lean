/-
What passes one end of a stream, and what can be read off it: the bytes that
DATA carries, the credit that WINDOW_UPDATE carries, and what comes before FIN.
All of them only grow when more passes.
-/
import StreamMux.Proofs.Wire

namespace StreamMux

/-! ## Lists of frames -/

/-- The bytes that the DATA among the frames carries. -/
def payloads (fs : List Frame) : Bytes :=
  fs.flatMap fun f => if f.type = .data then f.payload else []

/-- The credit that the frames carry. -/
def credits (fs : List Frame) : Nat := fs.foldr (fun f n => (f.credit?.getD 0).toNat + n) 0

/-- Whether a frame of the type is among the frames. -/
def Carries (type : FrameType) (fs : List Frame) : Prop := ∃ f ∈ fs, f.type = type

/-- The frames before the first FIN. -/
def beforeFin (fs : List Frame) : List Frame := fs.takeWhile fun f => f.type != .fin

variable {fs gs : List Frame} {f : Frame} {type : FrameType} {id : UInt32}

@[simp] theorem payloads_nil : payloads [] = [] := rfl
@[simp] theorem payloads_append : payloads (fs ++ gs) = payloads fs ++ payloads gs :=
  List.flatMap_append
@[simp] theorem payloads_cons : payloads (f :: fs) = (if f.type = .data then f.payload else []) ++
    payloads fs := by
  simp [payloads]

@[simp] theorem credits_nil : credits [] = 0 := rfl
@[simp] theorem credits_cons : credits (f :: fs) = (f.credit?.getD 0).toNat + credits fs := rfl
@[simp] theorem credits_append : credits (fs ++ gs) = credits fs + credits gs := by
  induction fs with
  | nil => simp
  | cons f fs ih => simp [ih, Nat.add_assoc]

@[simp] theorem carries_nil : ¬ Carries type [] := by simp [Carries]
@[simp] theorem carries_append : Carries type (fs ++ gs) ↔ Carries type fs ∨ Carries type gs := by
  simp only [Carries, List.mem_append, or_and_right, exists_or]
@[simp] theorem carries_cons : Carries type (f :: fs) ↔ f.type = type ∨ Carries type fs := by
  simp [Carries]

/-- Only WINDOW_UPDATE carries credit. -/
theorem credit?_of_type_ne (h : f.type ≠ .windowUpdate) : f.credit? = none := by
  rw [Frame.credit?]
  split
  · next ht _ => exact absurd ht h
  · rfl

theorem payloads_eq_nil (h : ∀ f ∈ fs, f.type ≠ .data) : payloads fs = [] := by
  simp only [payloads, List.flatMap_eq_nil_iff]
  intro f hf
  rw [if_neg (h f hf)]

theorem credits_eq_zero (h : ∀ f ∈ fs, f.type ≠ .windowUpdate) : credits fs = 0 := by
  induction fs with
  | nil => rfl
  | cons f fs ih =>
    rw [credits_cons, credit?_of_type_ne (h f (by simp)), ih fun g hg => h g (by simp [hg])]
    rfl

theorem payloads_mono (h : fs <+: gs) : payloads fs <+: payloads gs := by
  obtain ⟨hs, rfl⟩ := h
  rw [payloads_append]
  exact List.prefix_append _ _

theorem credits_mono (h : fs <+: gs) : credits fs ≤ credits gs := by
  obtain ⟨hs, rfl⟩ := h
  rw [credits_append]
  exact Nat.le_add_right _ _

theorem Carries.mono (hc : Carries type fs) (h : fs <+: gs) : Carries type gs := by
  obtain ⟨hs, rfl⟩ := h
  exact carries_append.mpr (.inl hc)

/-! ## Before FIN -/

theorem beforeFin_append_of_not_carries (h : ¬ Carries .fin fs) :
    beforeFin (fs ++ gs) = fs ++ beforeFin gs := by
  rw [beforeFin, List.takeWhile_append_of_pos]
  · rfl
  · intro f hf
    simp only [bne_iff_ne, ne_eq]
    exact fun ht => h ⟨f, hf, ht⟩

theorem beforeFin_of_not_carries (h : ¬ Carries .fin fs) : beforeFin fs = fs := by
  have : beforeFin (fs ++ []) = fs ++ beforeFin [] := beforeFin_append_of_not_carries h
  simpa [beforeFin] using this

/-- What follows a FIN does not count. -/
theorem beforeFin_append (h : Carries .fin fs) : beforeFin (fs ++ gs) = beforeFin fs := by
  induction fs with
  | nil => simp at h
  | cons f fs ih =>
    by_cases hf : f.type = .fin
    · simp [beforeFin, hf]
    · have := ih (by simpa [hf] using h)
      simp only [beforeFin] at this
      simp [beforeFin, hf, this]

theorem beforeFin_mono : beforeFin fs <+: beforeFin (fs ++ gs) := by
  by_cases h : Carries .fin fs
  · exact ⟨[], by rw [beforeFin_append h, List.append_nil]⟩
  · rw [beforeFin_append_of_not_carries h, beforeFin_of_not_carries h]
    exact List.prefix_append _ _

/-- A FIN in what has arrived marks the same place as in what was sent. -/
theorem beforeFin_eq (hp : fs <+: gs) (h : Carries .fin fs) : beforeFin fs = beforeFin gs := by
  obtain ⟨hs, rfl⟩ := hp
  exact (beforeFin_append h).symm

/-! ## Traffic -/

/-- What has passed one end of a stream. -/
structure Traffic where
  /-- Frames queued for the stream. -/
  sent : List Frame := []
  /-- Frames taken in for it, since there is such a stream. -/
  got : List Frame := []
  /-- Bytes that write calls had accepted. -/
  wrote : Bytes := []
  /-- Bytes that read calls returned. -/
  returned : Bytes := []

namespace Traffic

/-- First this, then that. -/
def append (t u : Traffic) : Traffic :=
  ⟨t.sent ++ u.sent, t.got ++ u.got, t.wrote ++ u.wrote, t.returned ++ u.returned⟩

instance : Append Traffic := ⟨append⟩

variable (t u : Traffic)

@[simp] theorem sent_append : (t ++ u).sent = t.sent ++ u.sent := rfl
@[simp] theorem got_append : (t ++ u).got = t.got ++ u.got := rfl
@[simp] theorem wrote_append : (t ++ u).wrote = t.wrote ++ u.wrote := rfl
@[simp] theorem returned_append : (t ++ u).returned = t.returned ++ u.returned := rfl

theorem append_assoc (v : Traffic) : t ++ u ++ v = t ++ (u ++ v) := by
  show append (append t u) v = append t (append u v)
  simp [append]

@[simp] theorem append_empty : t ++ ({} : Traffic) = t := by
  show append t {} = t
  simp [append]

@[simp] theorem empty_append : ({} : Traffic) ++ t = t := by
  show append {} t = t
  simp [append]

end Traffic
end StreamMux
