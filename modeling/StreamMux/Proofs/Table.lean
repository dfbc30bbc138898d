/-
The streams of a session by id. `Session.put` and `Session.retire` change the
stream of one id and leave the others alone, and the lookups of the session are
one lookup with a condition, as long as no two streams share an id.
-/
import StreamMux.Proofs.StreamStep

namespace StreamMux.Session

/-- No two streams share an id. -/
def DistinctIds (s : Session) : Prop := (s.streams.map (·.id)).Nodup

variable {s : Session} {st st' : Stream} {id : UInt32}

theorem find?_and_eq {l : List Stream} (h : (l.map (·.id)).Nodup) (p : Stream → Bool) :
    (l.find? fun st => st.id == id && p st) = (l.find? fun st => st.id == id).filter p := by
  induction l with
  | nil => rfl
  | cons a l ih =>
    simp only [List.map_cons, List.nodup_cons, List.mem_map, not_exists, not_and] at h
    simp only [List.find?_cons]
    by_cases ha : a.id = id
    · have hrest : (l.find? fun st => st.id == id && p st) = none := by
        rw [List.find?_eq_none]
        intro b hb hbp
        simp only [Bool.and_eq_true, beq_iff_eq] at hbp
        exact h.1 b hb (hbp.1.trans ha.symm)
      cases hp : p a <;> simp [ha, hp, hrest, Option.filter]
    · simp only [beq_eq_false_iff_ne.mpr ha, Bool.false_and]
      exact ih h.2

theorem tracked?_eq (h : s.DistinctIds) : s.tracked? id = (s.find? id).filter (·.tracked) :=
  find?_and_eq h _

theorem held?_eq (h : s.DistinctIds) : s.held? id = (s.find? id).filter (·.handle = .held) :=
  find?_and_eq h _

theorem find?_id (h : s.find? id = some st) : st.id = id := by
  simpa using List.find?_some h

theorem mem_of_find? (h : s.find? id = some st) : st ∈ s.streams := List.mem_of_find?_eq_some h

theorem find?_of_mem (h : s.DistinctIds) (hm : st ∈ s.streams) : s.find? st.id = some st := by
  rw [DistinctIds] at h
  simp only [find?]
  generalize s.streams = l at h hm
  induction l with
  | nil => simp at hm
  | cons a l ih =>
    simp only [List.map_cons, List.nodup_cons, List.mem_map, not_exists, not_and] at h
    simp only [List.find?_cons]
    rcases List.mem_cons.mp hm with rfl | hm
    · simp
    · have hne : a.id ≠ st.id := fun he => h.1 st hm he.symm
      simp only [beq_eq_false_iff_ne.mpr hne]
      exact ih h.2 hm

/-- The stream whose handle a call needs, if the application holds it. -/
theorem held?_of_find? (hd : s.DistinctIds) (h : s.find? id = some st) (hheld : s.held? id ≠ none) :
    s.held? id = some st := by
  rw [held?_eq hd, h, Option.filter_some] at hheld ⊢
  split
  · rfl
  next hnot => exact absurd (if_neg hnot) hheld

theorem find?_eq_none_iff : s.find? id = none ↔ ∀ st ∈ s.streams, st.id ≠ id := by
  simp [find?, List.find?_eq_none]

/-! ## Replacing a stream -/

@[simp] theorem map_id_put : (s.put st).streams.map (·.id) = s.streams.map (·.id) := by
  simp only [put, List.map_map]
  apply List.map_congr_left
  intro a _
  simp only [Function.comp]
  split
  · next h => exact h.symm
  · rfl

theorem find?_put_ne (h : id ≠ st.id) : (s.put st).find? id = s.find? id := by
  simp only [find?, put]
  generalize s.streams = l
  induction l with
  | nil => rfl
  | cons a l ih =>
    simp only [List.map_cons, List.find?_cons]
    by_cases ha : a.id = st.id
    · simp only [ha, if_true, beq_eq_false_iff_ne.mpr h.symm]
      exact ih
    · simp only [ha, if_false]
      rw [ih]

theorem find?_put (h : s.find? st'.id = some st) : (s.put st').find? st'.id = some st' := by
  simp only [find?, put] at h ⊢
  generalize s.streams = l at h
  induction l with
  | nil => simp at h
  | cons a l ih =>
    simp only [List.map_cons, List.find?_cons] at h ⊢
    by_cases ha : a.id = st'.id
    · simp [ha]
    · simp only [ha, if_false, beq_eq_false_iff_ne.mpr ha] at h ⊢
      exact ih h

theorem put_put (h : st'.id = st.id) : (s.put st).put st' = s.put st' := by
  simp only [put, List.map_map, Session.mk.injEq, true_and, and_true]
  apply List.map_congr_left
  intro a _
  simp only [Function.comp, h]
  by_cases ha : a.id = st.id <;> simp [ha]

theorem put_self (hd : s.DistinctIds) (h : s.find? st.id = some st) : s.put st = s := by
  have same : ∀ a ∈ s.streams, (if a.id = st.id then st else a) = a := by
    intro a ha
    by_cases hid : a.id = st.id
    · have := find?_of_mem hd ha
      rw [hid, h] at this
      rw [if_pos hid]
      exact Option.some.inj this
    · rw [if_neg hid]
  simp only [put]
  rw [List.map_congr_left (g := fun a => a) same, List.map_id']

theorem mem_put (h : st ∈ (s.put st').streams) : st = st' ∨ st ∈ s.streams := by
  simp only [put, List.mem_map] at h
  obtain ⟨a, ha, rfl⟩ := h
  split
  · exact .inl rfl
  · exact .inr ha

theorem forall_mem_put {p : Stream → Prop} (hnew : p st') (hold : ∀ a ∈ s.streams, p a) :
    ∀ a ∈ (s.put st').streams, p a := by
  intro a ha
  rcases mem_put ha with rfl | ha
  · exact hnew
  · exact hold a ha

/-! ## Retiring a stream -/

theorem retire_put (st' : Stream) (hd : s.DistinctIds) (h : s.find? st'.id = some st) :
    ((s.put st').retire st'.id).1 = s.put { st' with tracked := false } := by
  have hd' : (s.put st').DistinctIds := by rw [DistinctIds, map_id_put]; exact hd
  simp only [retire, tracked?_eq hd', find?_put h]
  cases ht : st'.tracked with
  | true =>
    simp only [Option.filter_some, ht, if_true]
    exact put_put rfl
  | false =>
    simp only [Option.filter_some, ht, Bool.false_eq_true, if_false]
    rw [show ({ st' with tracked := false } : Stream) = st' by rw [← ht]]

theorem retireIf_put (st' : Stream) (hd : s.DistinctIds) (h : s.find? st'.id = some st) :
    ((s.put st').retireIf st'.retirable st'.id).1 = s.put st'.settle := by
  simp only [retireIf]
  cases hr : st'.retirable with
  | true =>
    rw [if_pos rfl, retire_put st' hd h]
    simp [Stream.settle, hr]
  | false =>
    simp [Stream.settle, hr]

/-! ## Adding a stream -/

variable {t : Session}

theorem DistinctIds.append (hd : s.DistinctIds) (h : s.find? st.id = none)
    (ht : t.streams = s.streams ++ [st]) : t.DistinctIds := by
  rw [DistinctIds, ht, List.map_append, List.nodup_append]
  refine ⟨hd, by simp, ?_⟩
  intro a ha b hb heq
  obtain ⟨old, hold, rfl⟩ := List.mem_map.mp ha
  rw [List.map_singleton, List.mem_singleton] at hb
  exact find?_eq_none_iff.mp h old hold (heq.trans hb)

theorem find?_append (s : Session) (st : Stream) (ht : t.streams = s.streams ++ [st]) :
    t.find? id = (s.find? id).or (if id = st.id then some st else none) := by
  rw [find?, ht, List.find?_append, find?]
  by_cases h : id = st.id
  · simp [h]
  · simp [h, Ne.symm h]

theorem find?_append_self (h : s.find? st.id = none) (ht : t.streams = s.streams ++ [st]) :
    t.find? st.id = some st := by
  rw [find?_append s st ht, h]
  simp

theorem find?_append_ne (h : id ≠ st.id) (ht : t.streams = s.streams ++ [st]) :
    t.find? id = s.find? id := by
  rw [find?_append s st ht, if_neg h, Option.or_none]

theorem put_append (s : Session) (st st' : Stream) (h : s.find? st.id = none)
    (hid : st'.id = st.id) :
    ({ s with streams := s.streams ++ [st] } : Session).put st' =
      { s with streams := s.streams ++ [st'] } := by
  have same : ∀ a ∈ s.streams, (if a.id = st'.id then st' else a) = a := by
    intro a ha
    rw [if_neg (by rw [hid]; exact find?_eq_none_iff.mp h a ha)]
  simp only [put, List.map_append, List.map_singleton, hid, if_true]
  rw [hid] at same
  rw [List.map_congr_left (g := fun a => a) same, List.map_id']

end StreamMux.Session
