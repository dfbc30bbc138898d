/-
Which streams a session routes frames to: those that it still has something to do
for, and no other. What an application was given or may yet accept is forgotten only
when it is final, and a stream that is final and that nobody will read is forgotten.
-/
import StreamMux.Proofs.Grammar

namespace StreamMux

namespace Stream

variable {s : Stream}

/-- There is something left to do for the stream: it was not aborted, and if both sides
have finished, then it has unread bytes and somebody may read them. -/
structure Matters (s : Stream) : Prop where
  live : s.reset = none
  unfinished : s.localClosed = true → s.remoteClosed = true → s.unread ≠ [] ∧ s.handle ≠ .dropped

theorem Sound.matters_iff (h : s.Sound) : s.Matters ↔ s.retirable = false := by
  have hunread : s.buffered = 0 ↔ s.unread = [] := by rw [h.buffered_eq, List.length_eq_zero_iff]
  have hretirable : s.retirable = false ↔
      s.reset = none ∧ (s.localClosed = true → s.remoteClosed = true → s.unread ≠ [] ∧
          s.handle ≠ .dropped) := by
    simp [retirable, hunread]
  rw [hretirable]
  constructor
  · intro hm
    exact ⟨hm.live, hm.unfinished⟩
  · rintro ⟨hlive, hunfinished⟩
    exact ⟨hlive, hunfinished⟩

theorem isTerminal_iff : s.isTerminal = true ↔ s.phase = .closed ∨ s.phase = .reset := by
  simp [isTerminal]

end Stream

namespace Session

variable {role : Role} {config : Config} {id : UInt32} {es : List Event}

/-- In the course of these events the stream `id` was handed to the application, or it
waited to be accepted. -/
inductive Surfaced (s : Session) (id : UInt32) (es : List Event) : Prop
  | opened : s.Opens id es → Surfaced s id es
  | accepted {ticket} : (.call (.accept ticket), .accepted (.ready (.ok id))) ∈ s.trace es →
    Surfaced s id es
  | queued {before later} : es = before ++ later → id ∈ (s.after before).backlog → Surfaced s id es

/-- What a call of accept answers with has waited. -/
theorem waited_of_accepted {s : Session} (wf : s.WellFormed) {ticket : Nat}
    (h : (s.step (.call (.accept ticket))).result = .accepted (.ready (.ok id))) :
    id ∈ s.backlog := by
  have hattempt := attempt wf ticket
  rw [show (s.accept ticket).result = .ready (.ok id) from Reply.accepted.inj h] at hattempt
  generalize (s.accept ticket).state = s' at hattempt
  cases hattempt with
  | served _ _ hb =>
    rw [hb]
    exact List.mem_cons_self

/-- A session has the streams that ever surfaced. -/
theorem Surfaced.exists (h : (make role config).Surfaced id es) :
    ∃ st, ((make role config).after es).find? id = some st := by
  have queued {before later : List Event} (hes : es = before ++ later)
      (hmem : id ∈ ((make role config).after before).backlog) :
      ∃ st, ((make role config).after es).find? id = some st := by
    have wf := wellFormed_after role config before
    obtain ⟨st, hst, -⟩ := wf.backlog id hmem
    rw [hes, after_append]
    exact find?_after later wf hst
  cases h with
  | opened hopens => exact Option.ne_none_iff_exists'.mp (opens_iff.mp hopens).2
  | accepted hmem =>
    obtain ⟨before, later, hes, hresult⟩ := split_of_mem_trace hmem
    exact queued hes (waited_of_accepted (wellFormed_after role config before) hresult)
  | queued hes hmem => exact queued hes hmem

/-- The number of streams that are routed to lies between those that are not final
and those that matter. -/
theorem streamCount_bounds {s : Session} (wf : s.WellFormed) :
    s.streams.countP (!·.isTerminal) ≤ s.streamCount ∧
      s.streamCount ≤ s.streams.countP (!·.retirable) := by
  constructor
  · refine List.countP_mono_left fun st hm hlive => ?_
    exact (wf.sound st hm).tracked_of_live (by simpa using hlive)
  · refine List.countP_mono_left fun st hm ht => ?_
    simpa using (wf.sound st hm).busy ht

/-! ## Any run -/

/-- Whatever the peer sends and the application asks for: the streams that are routed to
all matter; those that surfaced and are not routed to any more are closed or aborted; so
every stream that is not final gets its frames, and the count of the streams that are
routed to has none that is finished. -/
theorem tracking (role : Role) (config : Config) (es : List Event) :
    (∀ st ∈ ((make role config).after es).streams,
      st.tracked = true → st.retirable = false ∧ st.Matters) ∧
    (∀ id, (make role config).Surfaced id es →
      ∃ st, ((make role config).after es).find? id = some st ∧
        (((make role config).after es).tracked? id = none → st.phase = .closed ∨
          st.phase = .reset)) ∧
    (∀ st ∈ ((make role config).after es).streams, st.isTerminal = false →
      ((make role config).after es).tracked? st.id = some st) ∧
    ((make role config).after es).streams.countP (!·.isTerminal) ≤
      ((make role config).after es).streamCount ∧
    ((make role config).after es).streamCount ≤ ((make role config).after es).streams.countP
      (!·.retirable) := by
  have wf := wellFormed_after role config es
  have routed (st : Stream) (hm : st ∈ ((make role config).after es).streams)
      (hlive : st.isTerminal = false) : ((make role config).after es).tracked? st.id = some st := by
    rw [tracked?_of_find? wf (find?_of_mem wf.distinct hm),
      if_pos ((wf.sound st hm).tracked_of_live hlive)]
  refine ⟨?_, ?_, routed, streamCount_bounds wf⟩
  · intro st hm ht
    have hbusy := (wf.sound st hm).busy ht
    exact ⟨hbusy, (wf.sound st hm).matters_iff.mpr hbusy⟩
  · intro id hsurfaced
    obtain ⟨st, hst⟩ := hsurfaced.exists
    refine ⟨st, hst, fun hnone => ?_⟩
    have hm := mem_of_find? hst
    rw [← Stream.isTerminal_iff]
    by_contra hlive
    have hsome := routed st hm (by simpa using hlive)
    rw [find?_id hst, hnone] at hsome
    cases hsome

/-- Both sides have finished, and a byte is left to be read. -/
def lastByte : List Event :=
  [.message (Frame.syn 1).encode, .call (.accept 0), .message (Frame.data 1 [7]).encode,
    .message (Frame.fin 1).encode, .call (.closeWrite 1)]

theorem tracking_of_last_byte :
    (∃ st, ((make .server ⟨4, 4, 50, 1⟩).after lastByte).tracked? 1 = some st ∧
      st.phase = .closed ∧ st.unread ≠ []) ∧
      ∃ st, ((make .server ⟨4, 4, 50, 1⟩).after (lastByte ++ [.call (.read 1 4 false)])).find? 1 =
        some st ∧ (st.phase = .closed ∨ st.phase = .reset) := by
  constructor
  · obtain ⟨hmatters, -⟩ := tracking .server ⟨4, 4, 50, 1⟩ lastByte
    obtain ⟨-, hst⟩ := hmatters _ List.mem_cons_self rfl
    exact ⟨_, rfl, rfl, (hst.unfinished rfl rfl).1⟩
  · obtain ⟨-, hgone, -⟩ := tracking .server ⟨4, 4, 50, 1⟩ (lastByte ++ [.call (.read 1 4 false)])
    obtain ⟨st, hst, hphase⟩ :=
      hgone 1 (.queued (List.take_append_drop 1 _).symm List.mem_cons_self)
    exact ⟨st, hst, hphase rfl⟩

end Session
end StreamMux
