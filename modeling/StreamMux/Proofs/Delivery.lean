/-
Bytes end to end. Whatever the two applications do, in whatever order frames are
written and read, and whenever the connection is cut, what a reader has been
given is a first part of what the writer had accepted; and a reader that is told
of the end of the stream has been given all of it.
-/
import StreamMux.Proofs.LinkRun

namespace StreamMux

namespace Link

open Session (Event Reply)

variable {l l' : Link} {r : Role} {m : Move} {moves : List Move} {id : UInt32} {config : Config}

/-- The bytes that pass the application at the end `r` over a run with its answers,
where `bytes` says what passes in one call. -/
def passing (bytes : Event → Reply → Bytes) (r : Role) (answers : List (Move × Reply)) : Bytes :=
  answers.flatMap fun answer => match answer.1 with
    | .call r' c => if r' = r then bytes (.call c) answer.2 else []
    | _ => []

/-- The bytes that write calls of the end `r` had accepted on the stream `id`: of a
call that answered with `n`, the first `n`. -/
def accepted (r : Role) (id : UInt32) (answers : List (Move × Reply)) : Bytes :=
  passing (Session.acceptedBy id) r answers

/-- The bytes that read calls of the end `r` have returned from the stream `id`. -/
def returned (r : Role) (id : UInt32) (answers : List (Move × Reply)) : Bytes :=
  passing (Session.returnedBy id) r answers

/-- The frames that the end `r` has queued over a run. -/
def queued (l : Link) (r : Role) (moves : List Move) : List Frame :=
  (l.endOf r).session.framesOf (l.events r moves)

/-! ## Answers and events -/

theorem passing_cons {bytes : Event → Reply → Bytes} {answer : Move × Reply}
    {answers : List (Move × Reply)} :
    passing bytes r (answer :: answers) = passing bytes r [answer] ++ passing bytes r answers := by
  simp [passing]

/-- What passes in a move is what passes in the events it is to the session. -/
theorem passing_step {bytes : Event → Reply → Bytes}
    (hcalls : ∀ e reply, bytes e reply ≠ [] → ∃ c, e = .call c) :
    passing bytes r [(m, (l.step m).1)] =
      ((l.endOf r).session.trace (l.happens m r)).flatMap
        fun answer => bytes answer.1 answer.2 := by
  have nothing (h : ∀ c, m ≠ .call r c) :
      ((l.endOf r).session.trace (l.happens m r)).flatMap (fun answer => bytes answer.1 answer.2) =
          [] := by
    rw [List.flatMap_eq_nil_iff]
    rintro ⟨e, reply⟩ hmem
    refine Decidable.byContradiction fun hne => ?_
    obtain ⟨c, rfl⟩ := hcalls e reply hne
    exact h c ((act_of_step l m).call_inv (Session.mem_of_mem_trace hmem))
  cases m with
  | call r' c =>
    rcases Role.eq_or_eq_other r r' with rfl | rfl
    · simp [passing, happens, Session.trace, step, perform, Session.step]
    · rw [nothing (by simp)]
      simp [passing]
  | _ => rw [nothing (by simp)]; rfl

theorem passing_trace {bytes : Event → Reply → Bytes}
    (hcalls : ∀ e reply, bytes e reply ≠ [] → ∃ c, e = .call c)
    (l : Link) (r : Role) (moves : List Move) :
    passing bytes r (l.trace moves) =
      ((l.endOf r).session.trace (l.events r moves)).flatMap
        fun answer => bytes answer.1 answer.2 := by
  induction moves generalizing l with
  | nil => rfl
  | cons m moves ih =>
    rw [trace, passing_cons, passing_step hcalls, ih, (act_of_step l m).session r, events,
      Session.trace_append, List.flatMap_append]

theorem accepted_trace (l : Link) (r : Role) (id : UInt32) (moves : List Move) :
    accepted r id (l.trace moves) = ((l.endOf r).session.traffic id (l.events r moves)).wrote := by
  rw [Session.wrote_traffic]
  refine passing_trace (fun e reply hne => ?_) l r moves
  cases e with
  | call c => exact ⟨c, rfl⟩
  | _ => exact absurd rfl hne

theorem returned_trace (l : Link) (r : Role) (id : UInt32) (moves : List Move) :
    returned r id (l.trace moves) =
      ((l.endOf r).session.traffic id (l.events r moves)).returned := by
  rw [Session.returned_traffic]
  refine passing_trace (fun e reply hne => ?_) l r moves
  cases e with
  | call c => exact ⟨c, rfl⟩
  | _ => exact absurd rfl hne

/-! ## Delivery -/

/-- What has been returned is a first part of what has been accepted. -/
theorem returned_part (config : Config) (moves : List Move) (r : Role) (id : UInt32) :
    returned r id ((make config).trace moves) <+: accepted r.other id
      ((make config).trace moves) := by
  rw [returned_trace, accepted_trace, session_make, session_make, ← Session.payloads_sent]
  have c := conversation config moves
  cases h : ((Session.make r config).after ((make config).events r moves)).find? id with
  | none =>
    rw [Session.traffic_eq_empty h]
    exact List.nil_prefix
  | some st =>
    exact (Session.inbound h).returned.trans
      ((payloads_mono (List.takeWhile_prefix _)).trans (c.payloads_got h))

/-- A read that finds the end of the stream comes after the FIN was queued and after
all that was accepted by then has been returned. -/
theorem returned_of_eof {room : Nat} {expired : Bool} (hroom : 0 < room)
    (h : (((make config).after moves).step (.call r (.read id room expired))).1 =
      .got (.ready (.ok []))) :
    .fin id ∈ (make config).queued r.other moves ∧
      returned r id ((make config).trace moves) = accepted r.other id
        ((make config).trace moves) := by
  have c := conversation config moves
  have hread :
      ((sessionOf config (history config moves) r).step (.call (.read id room expired))).result =
      .got (.ready (.ok [])) := by
    rw [← session_of_run]
    exact h
  obtain ⟨st, hfind, hheld, hrc, hreset, hunread⟩ :=
    Session.eof_of_read Conversation.wellFormed hroom hread
  have hin := Conversation.inbound hfind
  have hgot := hin.fin hrc
  constructor
  · obtain ⟨f, hf, hty⟩ := c.carries_got hfind (by simp) hgot
    rw [Session.sent_traffic, List.mem_filter] at hf
    have heq := Frame.eq_fin (Session.legal_of_frame hf.1) hty
    rw [queued, session_make, ← (by simpa using hf.2 : f.streamId = id), ← heq]
    exact hf.1
  · have hwhole := hin.whole hreset (by rw [hheld]; simp)
    rw [hunread, List.append_nil] at hwhole
    rw [returned_trace, accepted_trace, session_make, session_make, hwhole, ← Session.payloads_sent]
    exact c.payloads_whole hfind hgot

/-- What a stream returns to its reader is a first part of what its writer had
accepted, in every run; and a reader is told of the end only behind the FIN and
behind all that the writer ever has accepted, before or afterwards. A stream that
lost bytes to an abort, to the end of a session or to a cut therefore never ends
as if it were complete. -/
theorem delivery (config : Config) (moves : List Move) (receiver : Role) (id : UInt32) :
    returned receiver id ((make config).trace moves) <+:
      accepted receiver.other id ((make config).trace moves) ∧
    ∀ before room expired later, moves = before ++ .call receiver (.read id room expired) :: later →
      0 < room →
      (((make config).after before).step (.call receiver (.read id room expired))).1 =
        .got (.ready (.ok [])) →
      .fin id ∈ (make config).queued receiver.other before ∧
        returned receiver id ((make config).trace before) =
          accepted receiver.other id ((make config).trace moves) := by
  refine ⟨returned_part config moves receiver id, fun before room expired later hmoves hroom heof =>
    ?_⟩
  obtain ⟨hfin, hall⟩ := returned_of_eof hroom heof
  refine ⟨hfin, hall.trans ?_⟩
  -- Behind its FIN the writer has nothing more accepted.
  rw [accepted_trace, accepted_trace, hmoves, events_append, session_make]
  refine (Session.wrote_of_fin ⟨.fin id, ?_, rfl⟩).symm
  rw [Session.sent_traffic, List.mem_filter]
  rw [queued, session_make] at hfin
  exact ⟨hfin, by simp [Frame.fin]⟩

/-- Two bytes, read before the end of the stream is. -/
def twoBytes : List Move :=
  [.call .client .openStream, .call .client (.write 1 [7, 8] false), .call .client (.closeWrite 1),
    .write .client, .write .client, .write .client, .read .server, .read .server, .read .server,
    .call .server (.accept 0), .call .server (.read 1 4 false)]

theorem delivery_of_two_bytes :
    returned .server 1 ((make ⟨4, 4, 50, 1⟩).trace twoBytes) = [7, 8] ∧
      .fin 1 ∈ (make ⟨4, 4, 50, 1⟩).queued .client twoBytes :=
  have h := (delivery ⟨4, 4, 50, 1⟩ (twoBytes ++ [.call .server (.read 1 4 false)]) .server 1).2
    twoBytes 4 false [] rfl (by decide) rfl
  ⟨h.2.trans rfl, h.1⟩

end Link
end StreamMux
