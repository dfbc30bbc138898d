/-
What settings that pass every check are good for. Credit goes back for a part of the window
that is neither empty nor larger than it, a stream that nothing was written on yet takes some
of what is written first, and what its writer sends, a receiver with the same settings
reads and has room for. One thing the checks leave open: a session is set up unless
its accept backlog is too long.
-/
import StreamMux.Config.Document
import StreamMux.Proofs.Answers
import StreamMux.Proofs.Birth
import StreamMux.Proofs.Spending

namespace StreamMux

/-! ## Where settings come from -/

namespace Config

theorem validate_of_resolve {settings : Settings} {config : Config}
    (h : settings.resolve = .ok config) : config.validate = .ok () := by
  unfold Settings.resolve at h
  split at h
  next hok =>
    cases h
    exact hok
  next => cases h

theorem validate_of_document {read? : List Char → Option Settings} {text : String} {config : Config}
    (h : readDocument read? text = .ok config) : config.validate = .ok () := by
  unfold readDocument at h
  split at h
  · cases h
    rfl
  · split at h
    · cases h
    · exact validate_of_resolve h

variable {config : Config}

/-- What fits a frame fits the window. -/
theorem Valid.payload_le (h : config.Valid) :
    config.maxFramePayload.toNat ≤ config.initialWindow.toNat :=
  UInt32.le_iff_toNat_le.mp h.2.2.2.1

end Config

/-! ## Credit is only spent on what is written -/

theorem le_toNat_saturatingAdd (a b : UInt32) : a.toNat ≤ (saturatingAdd a b).toNat := by
  by_cases h : a.toNat + b.toNat < UInt32.size
  · rw [toNat_saturatingAdd h]
    exact Nat.le_add_right _ _
  · rw [saturatingAdd, if_neg h]
    exact Nat.le_sub_one_of_lt a.toNat_lt_size

namespace Stream

variable {s s' : Stream} {maxPayload : UInt32} {e : Session.Event} {u : Traffic}

theorem Step.credit_le (h : s.Step maxPayload e u s') :
    s.send.credit.toNat ≤ s'.send.credit.toNat + u.wrote.length := by
  cases h with
  | @write bytes expired n _ _ _ _ hn =>
    have hleft : (s.send.credit - n.toUInt32).toNat = s.send.credit.toNat - n :=
      toNat_sub_natCast (by omega)
    show _ ≤ (s.send.credit - n.toUInt32).toNat + (bytes.take n).length
    rw [hleft, List.length_take]
    omega
  | windowUpdate =>
    rw [grant_eq]
    split
    · exact Nat.le_add_right _ _
    · exact Nat.le_trans (le_toNat_saturatingAdd _ _) (Nat.le_add_right _ _)
  | closeWrite | dropHandle => simp [afterDrop]
  | _ => simp

end Stream

namespace Session

variable {role : Role} {config : Config} {id : UInt32} {es : List Event} {st : Stream} {f : Frame}

theorem initialWindow_le (h : ((make role config).after es).find? id = some st) :
    config.initialWindow.toNat ≤ st.send.credit.toNat +
      ((make role config).bytesWritten id es).length := by
  rw [bytesWritten_eq]
  refine stream_induction (P := fun st t => config.initialWindow.toNat ≤
    st.send.credit.toNat + t.wrote.length)
    (fun _ => Nat.le_refl _) (fun _ => Nat.le_refl _) (fun _ => Nat.le_refl _) ?_ ?_ h
  · rintro st st' e t u - hstep ih
    have hspent := hstep.credit_le
    rw [Traffic.wrote_append, List.length_append]
    omega
  · rintro st t cause - ih
    exact tornDown_of (P := fun st => _ ≤ st.send.credit.toNat + _) ih
      (by rwa [Stream.aborted_send])

/-! ## The first write -/

/-- Whatever is written on the stream, some of it is accepted at once. -/
def TakesSome (s : Session) (id : UInt32) : Prop :=
  ∀ bytes expired, bytes ≠ [] →
    ∃ n, 1 ≤ n ∧ n ≤ bytes.length ∧ (s.step (.call (.write id bytes expired))).result =
      .wrote (.ready (.ok n))

/-- Nothing was written on the stream before. -/
theorem takesSome (hvalid : config.Valid) (h : ((make role config).after es).find? id = some st)
    (hheld : st.handle = .held)
    (hr : st.reset = none) (hl : st.localClosed = false)
    (hfirst : (make role config).bytesWritten id es = []) :
    ((make role config).after es).TakesSome id := by
  intro bytes expired hb
  have wf := wellFormed_after role config es
  have hconfig := config_after role config es
  have hcredit := initialWindow_le h
  have hwindow := hvalid.payload_le
  have hpositive : ((make role config).after es).portion st bytes ≠ 0 := by
    intro hz
    have hnone := credit_of_portion (by rw [hconfig]; exact hvalid.2.1) hb hz
    rw [hnone, hfirst] at hcredit
    exact hvalid.1 (UInt32.toNat_inj.mp (Nat.le_zero.mp hcredit))
  refine ⟨_, Nat.one_le_iff_ne_zero.mpr hpositive, portion_le, ?_⟩
  rw [answer_write_until wf h hheld hr hl hb, if_neg hpositive]

/-- The stream was opened last. -/
theorem takesSome_of_opened (hvalid : config.Valid)
    (h : (((make role config).after es).step (.call .openStream)).result = .opened (.ok id)) :
    ((make role config).after (es ++ [.call .openStream])).TakesSome id := by
  obtain ⟨hnone, -, hfind, -⟩ := opened_of_answer (wellFormed_after role config es) h
  rw [← after_concat] at hfind
  refine takesSome hvalid hfind rfl rfl rfl ?_
  rw [bytesWritten_concat, bytesWritten_eq, traffic_eq_empty hnone]
  rfl

/-! ## What is sent -/

theorem decode_of_queued (hf : f ∈ (make role config).framesOf es) :
    Frame.decode f.encode config.maxFramePayload = .ok f :=
  Frame.decode_encode (legal_of_frame hf)

theorem admitted_of_queued (hvalid : config.Valid) (hf : f ∈ (make role config).framesOf es)
    (hty : f.type = .data) :
    ∃ recv, (RecvWindow.make config.initialWindow config.threshold).receive f.payload.length =
      .ok recv := by
  have hlegal := legal_of_frame hf
  rw [Frame.Legal, hty] at hlegal
  obtain ⟨recv, hrec, -⟩ :=
    RecvWindow.exists_receive (w := .make config.initialWindow config.threshold)
      (Nat.le_trans hlegal hvalid.payload_le)
  exact ⟨recv, hrec⟩

theorem start_of_valid (role : Role) (hvalid : config.validate = .ok ()) :
    start role config = if config.acceptBacklog ≤ maxBacklog then .ok (make role config)
      else .error .backlogTooLong := by
  rw [start, hvalid]
  by_cases hb : config.acceptBacklog ≤ maxBacklog
  · simp only [if_pos hb, if_neg (Nat.not_lt.mpr hb)]
  · simp only [if_neg hb, if_pos (Nat.lt_of_not_le hb)]

/-- Settings that pass every check, as do all that are filled in or read from a document, whoever
reads it. For either role a session is set up with them if the accept backlog is not longer than a
queue can be, and only then. The threshold is neither zero nor above the initial window. A stream
takes some of what is written on it as long as nothing was written on it before, in particular
when it was just opened. DATA of any run is decoded as it was sent, and a window that nothing has
come through yet has room for it. -/
theorem runnable (config : Config) :
    (∀ settings : Settings, settings.resolve = .ok config → config.validate = .ok ()) ∧
    (∀ read? text, Config.readDocument read? text = .ok config → config.validate = .ok ()) ∧
    (config.validate = .ok () →
      (∀ role, start role config =
        if config.acceptBacklog ≤ maxBacklog then .ok (make role config)
          else .error .backlogTooLong) ∧
      1 ≤ config.threshold ∧ config.threshold ≤ config.initialWindow ∧
      (∀ role es id, (((make role config).after es).step (.call .openStream)).result =
        .opened (.ok id) →
        ((make role config).after (es ++ [.call .openStream])).TakesSome id) ∧
      (∀ role es id st, ((make role config).after es).find? id = some st → st.handle = .held →
        st.reset = none → st.localClosed = false → (make role config).bytesWritten id es = [] →
          ((make role config).after es).TakesSome id) ∧
      ∀ role es f, f ∈ (make role config).framesOf es → f.type = .data →
        Frame.decode f.encode config.maxFramePayload = .ok f ∧
          ∃ recv, (RecvWindow.make config.initialWindow config.threshold).receive f.payload.length =
            .ok recv) := by
  refine ⟨fun _ => Config.validate_of_resolve, fun _ _ => Config.validate_of_document,
    fun hok => ?_⟩
  have hvalid := (Config.validate_eq_ok_iff config).mp hok
  refine ⟨fun role => start_of_valid role hok, ?_, ?_, ?_, ?_, ?_⟩
  · exact UInt32.le_iff_toNat_le.mpr config.threshold_pos
  · exact UInt32.le_iff_toNat_le.mpr hvalid.threshold_le
  · exact fun role es id => takesSome_of_opened hvalid
  · exact fun role es id st => takesSome hvalid
  · exact fun role es f hf hty => ⟨decode_of_queued hf, admitted_of_queued hvalid hf hty⟩

/-- A window of one byte. -/
theorem runnable_of_one_byte :
    start .client ⟨1, 1, 1, 1⟩ = .ok (make .client ⟨1, 1, 1, 1⟩) ∧
      ((make .client ⟨1, 1, 1, 1⟩).after [.call .openStream]).TakesSome 1 ∧
      Frame.decode (Frame.data 1 [7]).encode 1 = .ok (Frame.data 1 [7]) := by
  obtain ⟨-, -, admitted⟩ := runnable ⟨1, 1, 1, 1⟩
  obtain ⟨hstart, -, -, hopened, -, hsent⟩ := admitted rfl
  refine ⟨(hstart .client).trans (if_pos (by decide)), hopened .client [] 1 rfl, ?_⟩
  have hmem : Frame.data 1 [7] ∈
      (make .client ⟨1, 1, 1, 1⟩).framesOf [.call .openStream, .call (.write 1 [7, 8] false)] := by
        decide
  exact (hsent .client _ _ hmem rfl).1

/-- Settings with nothing wrong in them, given in a document or not, that no session can be set up
with. -/
theorem not_runnable_of_long_backlog :
    ∃ config,
      Settings.resolve { Settings.empty with acceptBacklog := some 2305843009213693952 } =
        .ok config ∧
      (∀ read? text, text.toList.all Text.isBlank = false →
        read? text.toList = some { Settings.empty with acceptBacklog := some 2305843009213693952 } →
        Config.readDocument read? text = .ok config) ∧
      config.validate = .ok () ∧ ∀ role, start role config = .error .backlogTooLong := by
  refine ⟨{ Config.default with acceptBacklog := 2305843009213693952 }, rfl, ?_, rfl,
    fun role => rfl⟩
  intro read? text hblank hread
  rw [Config.readDocument, if_neg (by simp [hblank]), hread]
  rfl

example : Config.Document.parse? "accept_backlog = 2305843009213693952".toList =
    some { Settings.empty with acceptBacklog := some 2305843009213693952 } := by decide +kernel

end Session
end StreamMux
