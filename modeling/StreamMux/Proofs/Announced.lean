/-
Which SYNs announce a stream, told from the messages alone: those with an id that the
peer gives out, above all that were announced before. A session knows the last of these
ids, also when it has ended, and so lets just these SYNs pass. While it is open each of
them brings a stream into being; later none does.
-/
import StreamMux.Proofs.AcceptQueue

namespace StreamMux.Session

/-- The frames among the messages of a run, whatever became of them. -/
def framesRead (config : Config) (es : List Event) : List Frame :=
  (messages es).filterMap fun message => (Frame.decode message config.maxFramePayload).toOption

/-- The ids that the peer of a session has announced, in order. -/
def announcedIds (role : Role) (config : Config) (es : List Event) : List UInt32 :=
  (((framesRead config es).filter (·.type = .syn)).map (·.streamId)).foldl (letIn role) []

variable {s : Session} {e : Event} {es : List Event} {id : UInt32} {f : Frame} {message : Bytes}
  {role : Role} {config : Config}

theorem framesRead_of_ok (hdec : Frame.decode message config.maxFramePayload = .ok f) :
    framesRead config (es ++ [.message message]) = framesRead config es ++ [f] := by
  simp [framesRead, messages, hdec, Except.toOption]

theorem framesRead_of_error {err : FrameError}
    (hdec : Frame.decode message config.maxFramePayload = .error err) :
    framesRead config (es ++ [.message message]) = framesRead config es := by
  simp [framesRead, messages, hdec, Except.toOption]

theorem framesRead_of_other (h : ∀ message, e ≠ .message message) :
    framesRead config (es ++ [e]) = framesRead config es := by
  cases e with
  | message message => exact absurd rfl (h message)
  | call | connectionEnded | connectionFailed | sent => simp [framesRead, messages]

theorem announcedIds_of_syn (hdec : Frame.decode message config.maxFramePayload = .ok f)
    (hty : f.type = .syn) :
    announcedIds role config (es ++ [.message message]) =
      letIn role (announcedIds role config es) f.streamId := by
  simp [announcedIds, framesRead_of_ok hdec, List.filter_append, hty]

theorem announcedIds_of_ok (hdec : Frame.decode message config.maxFramePayload = .ok f)
    (hty : f.type ≠ .syn) :
    announcedIds role config (es ++ [.message message]) = announcedIds role config es := by
  simp [announcedIds, framesRead_of_ok hdec, List.filter_append, hty]

theorem announcedIds_of_read (h : framesRead config (es ++ [e]) = framesRead config es) :
    announcedIds role config (es ++ [e]) = announcedIds role config es := by
  rw [announcedIds, h, announcedIds]

theorem mem_of_letIn {ids : List UInt32} {i : UInt32} (h : i ∈ letIn role ids id) :
    i ∈ ids ∨ i = id := by
  rw [letIn] at h
  split at h
  · exact (List.mem_append.mp h).imp_right List.mem_singleton.mp
  · exact .inl h

/-- Every announced id is that of a SYN among the messages. -/
theorem mem_announcedIds (h : id ∈ announcedIds role config es) :
    ∃ f ∈ framesRead config es, f.type = .syn ∧ f.streamId = id := by
  have hid : id ∈ ((framesRead config es).filter (·.type = .syn)).map (·.streamId) := by
    refine List.foldlRecOn (motive := fun ids => ∀ i ∈ ids, i ∈ _) _ (letIn role) (by simp) ?_ id h
    intro ids hids j hj i hi
    rcases mem_of_letIn hi with hold | rfl
    · exact hids i hold
    · exact hj
  obtain ⟨f, hf, rfl⟩ := List.mem_map.mp hid
  obtain ⟨hf, hty⟩ := List.mem_filter.mp hf
  exact ⟨f, hf, by simpa using hty, rfl⟩

/-- While a session is open, it takes in all the frames that it reads. -/
theorem takenOf_eq_framesRead (hopen : ((make role config).after es).ended = none) :
    (make role config).takenOf es = framesRead config es := by
  induction es using List.reverseRecOn with
  | nil => rfl
  | append_singleton es e ih =>
    have hbefore := ended_after_mono hopen
    have hconfig := config_after role config es
    rw [takenOf_concat, ih hbefore]
    cases e with
    | message message =>
      cases hdec : Frame.decode message config.maxFramePayload with
      | ok f => rw [framesRead_of_ok hdec, taken_of_ok hbefore (by rw [hconfig]; exact hdec)]
      | error err =>
        rw [framesRead_of_error hdec, taken_of_error hbefore (by rw [hconfig]; exact hdec),
          List.append_nil]
    | call | connectionEnded | connectionFailed | sent =>
      rw [framesRead_of_other (by simp)]
      exact List.append_nil _

/-- While a session is open, every stream that was announced was admitted. -/
theorem announcedIds_eq_admittedIds (hopen : ((make role config).after es).ended = none) :
    announcedIds role config es = (make role config).admittedIds es := by
  rw [admittedIds_eq hopen, synIds, takenOf_eq_framesRead hopen, announcedIds]

/-! ## The last id of the peer -/

theorem coarse_lastRemoteId : Coarse lastRemoteId :=
  ⟨⟨⟨fun _ _ => rfl, fun _ _ _ => rfl⟩, fun _ _ _ => rfl⟩, fun _ => rfl⟩

theorem lineless_lastRemoteId : Lineless lastRemoteId := ⟨fun _ _ => rfl, fun _ _ _ => rfl⟩

theorem onSyn_lastRemoteId (s : Session) (id : UInt32) :
    (s.onSyn id).state.lastRemoteId = if s.mayOpen id then id else s.lastRemoteId := by
  simp only [onSyn]
  split
  · split
    · rfl
    split
    · rfl
    · exact coarse_lastRemoteId.resetStream { s with
        lastRemoteId := id
        streams := s.streams ++ [.make id s.config .unclaimed]
        stats := s.stats.refused } (.make id s.config .unclaimed) .here
  · rfl

/-- A SYN that the session lets pass leaves its id; nothing else moves the last id. -/
theorem lastRemoteId_of_ok (hdec : Frame.decode message s.config.maxFramePayload = .ok f) :
    (s.step (.message message)).state.lastRemoteId =
      if f.type = .syn ∧ s.mayOpen f.streamId = true then f.streamId else s.lastRemoteId := by
  rw [step_of_ok hdec]
  by_cases ht : f.type = .syn
  · rw [onFrame, ht]
    simp only [true_and]
    exact onSyn_lastRemoteId _ _
  · rw [if_neg fun h => ht h.1]
    exact coarse_lastRemoteId.onFrame (fun _ => rfl) _ ht

theorem lastRemoteId_of_error {err : FrameError}
    (hdec : Frame.decode message s.config.maxFramePayload = .error err) :
    (s.step (.message message)).state.lastRemoteId = s.lastRemoteId := by
  rw [step_of_error hdec]
  exact coarse_lastRemoteId.onMalformed (fun _ => rfl) _ err

theorem lastRemoteId_of_other (h : ∀ message, e ≠ .message message) :
    (s.step e).state.lastRemoteId = s.lastRemoteId := by
  cases e with
  | call c => exact coarse_lastRemoteId.anyCall lineless_lastRemoteId s c
  | message message => exact absurd rfl (h message)
  | connectionEnded | connectionFailed => exact coarse_lastRemoteId.terminate s _
  | sent f => rfl

/-! ## Runs -/

/-- An id is above the last one of the peer if it is above all that were announced. -/
theorem lastRemoteId_lt_iff (role : Role) (config : Config) (es : List Event) (id : UInt32) :
    ((make role config).after es).lastRemoteId < id ↔ id ≠ 0 ∧ ∀ i ∈ announcedIds role config es,
      i < id := by
  have pos (id : UInt32) : 0 < id ↔ id ≠ 0 := by
    rw [UInt32.lt_iff_toNat_lt, ne_eq, ← UInt32.toNat_inj]
    exact Nat.pos_iff_ne_zero
  induction es using List.reverseRecOn generalizing id with
  | nil => exact (pos id).trans (by simp [announcedIds, framesRead, messages])
  | append_singleton es e ih =>
    have hrole := role_after role config es
    have hconfig := config_after role config es
    rw [after_concat]
    generalize (make role config).after es = s at ih hrole hconfig ⊢
    subst hrole
    by_cases hmessage : ∃ message, e = .message message
    · obtain ⟨message, rfl⟩ := hmessage
      cases hdec : Frame.decode message config.maxFramePayload with
      | error err =>
        rw [announcedIds_of_read (framesRead_of_error hdec),
          lastRemoteId_of_error (by rw [hconfig]; exact hdec)]
        exact ih id
      | ok f =>
        rw [lastRemoteId_of_ok (by rw [hconfig]; exact hdec)]
        by_cases hty : f.type = .syn
        · -- The session lets the SYN pass just when it announces a stream.
          have hpasses : s.mayOpen f.streamId = true ↔ f.streamId ≠ 0 ∧
              s.role.other.owns f.streamId = true ∧
              (announcedIds s.role config es).all (· < f.streamId) = true := by
            simp only [mayOpen_iff, List.all_eq_true, decide_eq_true_eq]
            refine and_congr_right fun hzero => ?_
            rw [Role.owns_other hzero, Bool.not_eq_true']
            exact and_congr_right fun _ => (ih f.streamId).trans (and_iff_right hzero)
          simp only [announcedIds_of_syn hdec hty, letIn, ← hpasses, hty, true_and]
          split
          next hm =>
            obtain ⟨hzero, -, habove⟩ := hpasses.mp hm
            simp only [List.all_eq_true, decide_eq_true_eq] at habove
            rw [List.forall_mem_append, List.forall_mem_singleton]
            refine ⟨fun hlt => ⟨?_, fun i hi => UInt32.lt_trans (habove i hi) hlt, hlt⟩,
              fun h => h.2.2⟩
            exact (pos id).mp (UInt32.lt_trans ((pos _).mpr hzero) hlt)
          next => exact ih id
        · rw [announcedIds_of_ok hdec hty, if_neg fun h => hty h.1]
          exact ih id
    · have hother : ∀ message, e ≠ .message message := fun message he => hmessage ⟨message, he⟩
      rw [announcedIds_of_read (framesRead_of_other hother), lastRemoteId_of_other hother]
      exact ih id

/-- A session, open or not, lets those SYNs pass that announce a stream. -/
theorem mayOpen_iff_announced (role : Role) (config : Config) (es : List Event) (id : UInt32) :
    ((make role config).after es).mayOpen id = true ↔
      id ≠ 0 ∧ role.owns id = false ∧ ∀ i ∈ announcedIds role config es, i < id := by
  rw [mayOpen_iff, role_after, lastRemoteId_lt_iff]
  tauto

end StreamMux.Session
