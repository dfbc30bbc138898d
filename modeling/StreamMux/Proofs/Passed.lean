/-
What a session counts of the traffic on its connection: each frame that the connection
has taken, when the session learns of it, and each message that its reader takes. Nothing
else that can happen to the session moves these counters.
-/
import StreamMux.Proofs.Coarse

namespace StreamMux.Session

variable {s : Session} {e : Event}

/-- The counters of frames and bytes sent, and of messages and bytes received. -/
abbrev passed (s : Session) : Nat × Nat × Nat × Nat :=
  (s.stats.framesSent, s.stats.bytesSent, s.stats.framesReceived, s.stats.bytesReceived)

theorem coarse_passed : Coarse passed :=
  ⟨⟨⟨fun _ _ => rfl, fun _ _ _ => rfl⟩, fun _ _ _ => rfl⟩, fun _ => rfl⟩

theorem lineless_passed : Lineless passed := ⟨fun _ _ => rfl, fun _ _ _ => rfl⟩

theorem onSyn_passed (s : Session) (id : UInt32) : (s.onSyn id).state.passed = s.passed := by
  simp only [onSyn]
  split
  · split
    · rfl
    split
    · rfl
    · exact coarse_passed.resetStream { s with
        lastRemoteId := id
        streams := s.streams ++ [.make id s.config .unclaimed]
        stats := s.stats.refused } (.make id s.config .unclaimed) .here
  · rfl

/-- Whatever a session makes of a message, it counts it as received, with all its bytes. -/
theorem message_passed (message : Bytes) :
    (s.step (.message message)).state.passed =
      (s.stats.framesSent, s.stats.bytesSent, s.stats.framesReceived + 1,
        s.stats.bytesReceived + message.length) := by
  cases hdec : Frame.decode message s.config.maxFramePayload with
  | ok f =>
    rw [step_of_ok hdec]
    by_cases hty : f.type = .syn
    · rw [onFrame, hty]
      exact onSyn_passed _ _
    · exact coarse_passed.onFrame (fun _ => rfl) _ hty
  | error err =>
    rw [step_of_error hdec]
    exact coarse_passed.onMalformed (fun _ => rfl) _ err

/-- Other events leave the counters alone. -/
theorem step_passed (hmessage : ∀ message, e ≠ .message message) (hsent : ∀ f, e ≠ .sent f) :
    (s.step e).state.passed = s.passed := by
  cases e with
  | call c => exact coarse_passed.anyCall lineless_passed s c
  | message bytes => exact absurd rfl (hmessage bytes)
  | connectionEnded | connectionFailed => exact coarse_passed.terminate s _
  | sent f => exact absurd rfl (hsent f)

end StreamMux.Session
