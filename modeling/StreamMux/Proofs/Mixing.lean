/-
Any mixing up of the streams of a load check is possible. The checks open their streams,
write what they have and send FIN; then each is answered in full, but with what was
written on the stream of another, whichever that is (`Crosses`). All are answered, so
all compare.

Every encounter on the way does something to one check and its stream, and leaves the
others as they were (`Advances`).
-/
import StreamMux.Proofs.Bookkeeping
import StreamMux.Proofs.DataOutcome
import StreamMux.Proofs.Ids
import StreamMux.Proofs.Runnable
import StreamMux.Proofs.Teardown

namespace StreamMux

/-! ## One stream -/

namespace Stream

/-- A stream in use of which these bytes are left to read, with FIN behind them or not. -/
structure Holds (bytes : Bytes) (finished : Bool) (st : Stream) : Prop where
  held : st.handle = .held
  unaborted : st.reset = none
  finished : st.remoteClosed = finished
  unread : st.unread = bytes

end Stream

namespace Session

variable {s s' s'' : Session} {id next : UInt32} {st st' : Stream} {bytes : Bytes} {room : Nat}
  {finished : Bool}

/-- The stream `id` is left as `st`, and all others as they were. -/
structure Leaves (s : Session) (id : UInt32) (st : Stream) (s' : Session) : Prop where
  mine : s'.find? id = some st
  others : ∀ i, i ≠ id → s'.find? i = s.find? i

theorem leaves_put (h : s.find? id = some st) (hid : st'.id = id) {stats : Stats}
    (hs : s' = { s.put st' with stats }) : s.Leaves id st' s' := by
  subst hid hs
  exact ⟨find?_put h, fun i hi => find?_put_ne hi⟩

/-- An operation on the stream leaves it as one of its steps does. -/
theorem leaves_of_steps {α : Type} {e : Event} {t : Traffic} {o : Outcome Session α}
    (h : s.find? id = some st)
    (hs : s.StepsOn st e o t) : ∃ st', st.Step s.config.maxFramePayload e t st' ∧
    s.Leaves id st' o.state := by
  obtain ⟨st', stats, hstate, -, -, hstep⟩ := hs
  exact ⟨st', hstep, leaves_put h (hstep.id_eq.trans (find?_id h)) hstate⟩

/-- Of all calls only that of open uses up an id. -/
theorem nextId_call (wf : s.WellFormed) {c : Call} (hc : c ≠ .openStream) :
    (s.step (.call c)).state.nextId = s.nextId := by
  cases naming wf (.call c) with
  | none _ hnext => exact hnext
  | opened he =>
    cases he
    exact absurd rfl hc
  | admitted he => cases he

theorem ends?_encode (f : Frame) : (Event.message f.encode).ends? = none := by
  have hlength : ¬ f.encode.length < Frame.headerSize := by
    simp only [Frame.encode, Frame.headerSize, List.length_cons, List.length_append,
      Frame.length_bigEndian]
    omega
  rw [Event.ends?, if_neg hlength]

theorem openStream_leaves (wf : s.WellFormed) (hopen : s.ended = none) (hn : s.nextId = some next) :
    (s.step (.call .openStream)).result = .opened (.ok next) ∧ s.find? next = none ∧
      s.Leaves next (.make next s.config .held) (s.step (.call .openStream)).state ∧
      (s.step (.call .openStream)).state.nextId = if next.toNat + 2 <
        UInt32.size then some (next + 2) else none := by
  have hresult : (s.step (.call .openStream)).result = .opened (.ok next) := by
    simp only [step, call, Outcome.as, openStream, queue, hopen, hn]
  obtain ⟨hnone, -, hfind, -⟩ := opened_of_answer wf hresult
  refine ⟨hresult, hnone, ⟨hfind, fun i hi => ?_⟩, ?_⟩ <;>
    simp only [step, call, Outcome.as, openStream, queue, hopen, hn]
  exact find?_append_ne (show i ≠ (Stream.make next s.config .held).id from hi) rfl

section

variable (wf : s.WellFormed) (h : s.find? id = some st)
include wf h

/-- All is written at once if a frame and the credit have room for it. -/
theorem write_whole (hst : st.Holds [] finished) (hl : st.localClosed = false) (hb : bytes ≠ [])
    (hfits : bytes.length ≤ s.config.maxFramePayload.toNat)
    (hcredit : bytes.length ≤ st.send.credit.toNat) :
    (s.step (.call (.write id bytes false))).result = .wrote (.ready (.ok bytes.length)) ∧
      ∃ send, s.Leaves id { st with send } (s.step (.call (.write id bytes false))).state := by
  have hall : s.portion st bytes = bytes.length := by
    unfold portion
    omega
  have hpositive : s.portion st bytes ≠ 0 := by
    rw [hall]
    exact fun hz => hb (List.length_eq_zero_iff.mp hz)
  have hresult := answer_write wf h hst.held hst.unaborted hl hb
  rw [if_neg hpositive, hall] at hresult
  refine ⟨hresult, ?_⟩
  obtain rfl := find?_id h
  have hop : s.step (.call (.write st.id bytes false)) =
      Outcome.as (s.write st bytes false) .wrote :=
    onHeld_of_find? wf h hst.held
  obtain ⟨t, hs, -, hwrote, -⟩ := write_steps wf h hst.held bytes false
  rw [hop] at hresult ⊢
  have hwrote : t.wrote = bytes := by
    rw [hwrote]
    exact (congrArg (bytes.take ·.count) hresult).trans List.take_length
  obtain ⟨st', hstep, hleaves⟩ := leaves_of_steps h hs
  cases hstep with
  | still | writeWaits => exact absurd hwrote.symm hb
  | write => exact ⟨_, hleaves⟩

/-- FIN is sent once, and leaves the other direction alone. -/
theorem closeWrite_leaves (hst : st.Holds bytes finished) :
    (s.step (.call (.closeWrite id))).result = .closed (.ok ()) ∧
      ∃ st', st'.Holds bytes finished ∧ st'.recv = st.recv ∧
        s.Leaves id st' (s.step (.call (.closeWrite id))).state := by
  refine ⟨(closeWrite_held wf h hst.held).1, ?_⟩
  obtain rfl := find?_id h
  obtain ⟨t, hs, -⟩ := closeWrite_steps wf h hst.held
  rw [step_closeWrite wf h hst.held]
  obtain ⟨st', hstep, hleaves⟩ := leaves_of_steps h hs
  refine ⟨st', ?_, ?_, hleaves⟩ <;> cases hstep
  · exact hst
  · exact ⟨hst.held, hst.unaborted, hst.finished, hst.unread⟩
  · rfl
  · rfl

/-- A read with room for all that is left returns it, and the next one finds the end. -/
theorem read_whole (hst : st.Holds bytes true) (hroom : 0 < room) (hlength : bytes.length ≤ room) :
    (s.step (.call (.read id room false))).result = .got (.ready (.ok bytes)) ∧
      ∃ st', st'.Holds [] true ∧ s.Leaves id st' (s.step (.call (.read id room false))).state := by
  have hresult : (s.step (.call (.read id room false))).result = .got (.ready (.ok bytes)) := by
    rw [answer_read wf h hst.held hst.unaborted hroom, hst.unread, hst.finished,
      List.take_of_length_le hlength]
    split
    next hnil => rw [hnil, if_pos rfl]
    next => rfl
  refine ⟨hresult, ?_⟩
  obtain rfl := find?_id h
  have hop : s.step (.call (.read st.id room false)) = Outcome.as (s.read st room false) .got :=
    onHeld_of_find? wf h hst.held
  obtain ⟨t, hs, -, -, hreturned⟩ := read_steps wf h hst.held room false
  rw [hop] at hresult ⊢
  have hreturned : t.returned = bytes := hreturned.trans (congrArg Reply.bytes hresult)
  obtain ⟨st', hstep, hleaves⟩ := leaves_of_steps h hs
  refine ⟨st', ?_, hleaves⟩
  cases hstep with
  | still =>
    obtain rfl : [] = bytes := hreturned
    exact hst
  | readWaits _ _ _ hopen => exact nomatch hopen.symm.trans hst.finished
  | read =>
    refine ⟨hst.held, hst.unaborted, hst.finished, ?_⟩
    rw [Stream.settle_unread, Stream.afterRead_unread, hst.unread, List.drop_eq_nil_of_le hlength]

theorem dropHandle_leaves (hheld : st.handle = .held) :
    ∃ st', s.Leaves id st' (s.step (.call (.dropHandle id))).state := by
  obtain rfl := find?_id h
  obtain ⟨t, hs, -⟩ := dropHandle_steps wf h hheld
  have hop : s.step (.call (.dropHandle st.id)) = Outcome.as (s.dropHandle st) fun _ => .nothing :=
    onHeld_of_find? wf h hheld
  rw [hop]
  obtain ⟨st', -, hleaves⟩ := leaves_of_steps h hs
  exact ⟨st', hleaves⟩

theorem tracked?_of_holds (hst : st.Holds bytes false) : s.tracked? id = some st := by
  obtain rfl := find?_id h
  have hlive : st.isTerminal = false := by simp [Stream.isTerminal_eq, hst.unaborted, hst.finished]
  have htracked := (wf.sound st (mem_of_find? h)).tracked_of_live hlive
  rw [tracked?_of_find? wf h, if_pos htracked]

/-- DATA that comes first is kept for the reader. -/
theorem data_leaves (hst : st.Holds [] false)
    (hfits : bytes.length ≤ s.config.maxFramePayload.toNat)
    (hroom : bytes.length ≤ st.recv.remaining.toNat) :
    ∃ st', st'.Holds bytes false ∧ s.Leaves id st'
      (s.step (.message (Frame.data id bytes).encode)).state := by
  have htr := tracked?_of_holds wf h hst
  have hword := st.recv.remaining.toNat_lt_size
  have hlength : bytes.length.toUInt32.toNat = bytes.length := UInt32.toNat_ofNat_of_lt' (by omega)
  have hallowed : st.Allows s.config.maxFramePayload bytes.length.toUInt32 bytes := by
    refine ⟨?_, hlength.symm, hst.finished, hroom⟩
    rw [UInt32.le_iff_toNat_le, hlength]
    exact hfits
  rw [step_of_allowed (Frame.splitHeader?_encode (.data id bytes)) hallowed]
  generalize s.stats.received (Frame.data id bytes).encode.length = stats
  obtain ⟨st', honly, hstate, -, hunread, -⟩ :=
    onData_of_wanted (s := { s with stats }) htr hst.unaborted hallowed (by simp [hst.held])
  refine ⟨st', ⟨?_, ?_, ?_, ?_⟩, leaves_put h ?_ hstate⟩
  · rw [honly]
    exact hst.held
  · rw [honly]
    exact hst.unaborted
  · rw [honly]
    exact hst.finished
  · rw [hunread, hst.unread, List.nil_append]
  · rw [honly]
    show st.id = id
    exact find?_id h

/-- FIN comes behind what is left to read. -/
theorem fin_leaves (hst : st.Holds bytes false) :
    ∃ st', st'.Holds bytes true ∧
      s.Leaves id st' (s.step (.message (Frame.fin id).encode)).state := by
  have htr := tracked?_of_holds wf h hst
  obtain rfl := find?_id h
  rw [step_of_ok (Frame.decode_encode (show (Frame.fin st.id).Legal _ from rfl))]
  generalize s.stats.received (Frame.fin st.id).encode.length = stats
  have htr : ({ s with stats } : Session).tracked? st.id = some st := htr
  have hfind : ({ s with stats } : Session).find? st.finish.id = some st := by
    rw [Stream.finish_id]
    exact h
  have hput := retireIf_put st.finish (wf.with_stats stats).distinct hfind
  rw [Stream.finish_id] at hput
  have hstate :
      (Outcome.as (({ s with stats } : Session).onFrame (Frame.fin st.id))
      fun _ => Reply.nothing).state =
      { s.put st.finish.settle with stats } := by
    simp only [Outcome.as, onFrame, Frame.fin, onFin, htr]
    exact hput
  refine ⟨st.finish.settle, ⟨?_, ?_, ?_, ?_⟩, leaves_put h ?_ hstate⟩
  · rw [Stream.settle_handle, Stream.finish_handle, hst.held]
  · rw [Stream.settle_reset, Stream.finish_reset, hst.unaborted]
  · rw [Stream.settle_remoteClosed, Stream.finish_remoteClosed, hst.unaborted]
    simp
  · rw [Stream.settle_unread, Stream.finish_unread, hst.unread]
  · rw [Stream.settle_id, Stream.finish_id]

end
end Session

/-! ## One check -/

namespace Load

open Session (Event Call Leaves)

variable {config : Config} {s s' s'' : System} {size streams i j room : Nat} {id : UInt32}
  {st st' : Stream} {stage stage' : Stage} {bytes : Bytes} {p : Nat → Nat}

namespace System

/-- The client's session. -/
abbrev client (s : System) : Session := (s.link.endOf .client).session

/-- What stays as it is while nothing goes wrong. -/
structure Sane (config : Config) (size : Nat) (s : System) : Prop where
  wf : s.client.WellFormed
  config_eq : s.client.config = config
  size_eq : s.size = size
  opened : s.client.ended = none

theorem Sane.step (h : s.Sane config size) {e : Event}
    (hclient : s'.client = (s.client.step e).state)
    (hsize : s'.size = s.size) (he : e.ends? = none) : s'.Sane config size where
  wf := by
    rw [hclient]
    exact Session.step_wellFormed h.wf e
  config_eq := by rw [hclient, (Session.turn_of_step h.wf e).config, h.config_eq]
  size_eq := hsize.trans h.size_eq
  opened := by rw [hclient, Session.ended_step h.wf e, h.opened, he]; rfl

/-- The check at the place `i` has come to this stage and its stream `id` to this state; all
others are as they were. -/
structure Advances (config : Config) (size : Nat) (s : System) (i : Nat) (id : UInt32)
    (stage : Stage) (st : Stream) (s' : System) :
    Prop where
  sane : s'.Sane config size
  check : s'.checks[i]? = some ⟨i, false, stage⟩
  checks : ∀ j, j ≠ i → s'.checks[j]? = s.checks[j]?
  leaves : s.client.Leaves id st s'.client

theorem Advances.trans (h : s.Advances config size i id stage st s')
    (h' : s'.Advances config size i id stage' st' s'') :
    s.Advances config size i id stage' st' s'' where
  sane := h'.sane
  check := h'.check
  checks j hj := (h'.checks j hj).trans (h.checks j hj)
  leaves := ⟨h'.leaves.mine, fun k hk => (h'.leaves.others k hk).trans (h.leaves.others k hk)⟩

section

variable (h : s.Sane config size) (hc : s.checks[i]? = some ⟨i, false, stage⟩)
include h hc

omit h in
theorem meet_check {what : Check.Step} {call : Call}
    (ht : (⟨i, false, stage⟩ : Check).take s.size s.link what =
      (⟨i, false, stage'⟩, [.call .client call])) :
    (s.meet (.check i what)).client = (s.client.step (.call call)).state ∧
      (s.meet (.check i what)).checks = replace s.checks i ⟨i, false, stage'⟩ ∧
      (s.meet (.check i what)).size = s.size := by
  have hmeet : s.meet (.check i what) = { s with
      link := s.link.after [.call .client call]
      checks := replace s.checks i ⟨i, false, stage'⟩
      reports := s.reports ++ (⟨i, false, stage'⟩ : Check).reports ⟨i, false, stage⟩ s.size } := by
    simp only [meet, act, hc, ht]
  rw [hmeet]
  exact ⟨rfl, rfl, rfl⟩

/-- A check that makes one call. -/
theorem advances_check {what : Check.Step} {call : Call}
    (ht : (⟨i, false, stage⟩ : Check).take s.size s.link what =
      (⟨i, false, stage'⟩, [.call .client call]))
    (hcall : (Event.call call).ends? = none)
    (hl : s.client.Leaves id st (s.client.step (.call call)).state) :
    s.Advances config size i id stage' st (s.meet (.check i what)) := by
  obtain ⟨hclient, hchecks, hsize⟩ := meet_check hc ht
  refine ⟨h.step hclient hsize hcall, ?_, fun j hj => ?_, by rw [hclient]; exact hl⟩
  · rw [hchecks]
    exact getElem?_replace hc
  · rw [hchecks]
    exact List.getElem?_set_ne hj.symm

theorem nextId_check {what : Check.Step} {call : Call}
    (ht : (⟨i, false, stage⟩ : Check).take s.size s.link what =
      (⟨i, false, stage'⟩, [.call .client call]))
    (hcall : call ≠ .openStream) : (s.meet (.check i what)).client.nextId = s.client.nextId := by
  rw [(meet_check hc ht).1]
  exact Session.nextId_call h.wf hcall

/-- A frame that comes for it. -/
theorem advances_frame {f : Frame}
    (hl : s.client.Leaves id st (s.client.step (.message f.encode)).state) :
    s.Advances config size i id stage st (s.meet (.message f.encode)) where
  sane := h.step rfl rfl (Session.ends?_encode f)
  check := hc
  checks _ _ := rfl
  leaves := hl

end

/-! ### It sends -/

/-- A check opens its stream, writes its payload and sends FIN. -/
def sending (i : Nat) : List Encounter := [.check i .openStream, .check i .send, .check i .send]

theorem length_payload (seed size : Nat) : (payload seed size).length = size := by
  rw [payload, List.length_map, List.length_range]

theorem payload_ne_nil {seed : Nat} (hsize : 0 < size) : payload seed size ≠ [] := by
  rw [← List.length_pos_iff, length_payload]
  exact hsize

variable {finished : Bool} {got : List Bytes}

section

variable (h : s.Sane config size)
include h

theorem meet_openStream (hc : s.checks[i]? = some ⟨i, false, .toOpen⟩)
    (hn : s.client.nextId = some id) : s.client.find? id = none ∧
      s.Advances config size i id (.running id (.writing (payload i size)) false [])
        (.make id config .held) (s.meet (.check i .openStream)) ∧
      (s.meet (.check i .openStream)).client.nextId = if id.toNat + 2 <
        UInt32.size then some (id + 2) else none := by
  obtain ⟨hopened, hnone, hleaves, hnext⟩ := Session.openStream_leaves h.wf h.opened hn
  rw [h.config_eq] at hleaves
  have htake : (⟨i, false, .toOpen⟩ : Check).take s.size s.link .openStream =
      (⟨i, false, .running id (.writing (payload i size)) false []⟩,
          [.call .client .openStream]) := by
    have hanswer : (s.link.step (.call .client .openStream)).1 = .opened (.ok id) := hopened
    simp only [Check.take, Check.openStream, hanswer, h.size_eq]
  refine ⟨hnone, advances_check h hc htake rfl hleaves, ?_⟩
  rw [(meet_check hc htake).1]
  exact hnext

theorem meet_write (hc : s.checks[i]? = some ⟨i, false, .running id (.writing bytes) false got⟩)
    (hfind : s.client.find? id = some st) (hst : st.Holds [] finished) (hl : st.localClosed = false)
    (hb : bytes ≠ [])
    (hfits : bytes.length ≤ config.maxFramePayload.toNat)
    (hcredit : bytes.length ≤ st.send.credit.toNat) :
    (∃ send, s.Advances config size i id (.running id (.writing []) false got) { st with send }
      (s.meet (.check i .send))) ∧
      (s.meet (.check i .send)).client.nextId = s.client.nextId := by
  obtain ⟨hwrote, send, hleaves⟩ :=
    Session.write_whole h.wf hfind hst hl hb (by rw [h.config_eq]; exact hfits) hcredit
  obtain ⟨b, rest, rfl⟩ := List.exists_cons_of_ne_nil hb
  have htake : (⟨i, false, .running id (.writing (b :: rest)) false got⟩ : Check).take
      s.size s.link .send =
      (⟨i, false, .running id (.writing []) false got⟩,
          [.call .client (.write id (b :: rest) false)]) := by
    have hanswer : (s.link.step (.call .client (.write id (b :: rest) false))).1 =
      .wrote (.ready (.ok (b :: rest).length)) := hwrote
    simp only [Check.take, Check.sendOnce, hanswer, List.drop_length]
  exact ⟨⟨send, advances_check h hc htake rfl hleaves⟩, nextId_check h hc htake (by simp)⟩

theorem meet_closeWrite (hc : s.checks[i]? = some ⟨i, false, .running id (.writing []) false got⟩)
    (hfind : s.client.find? id = some st) (hst : st.Holds bytes finished) :
    (∃ st', st'.Holds bytes finished ∧ st'.recv = st.recv ∧
      s.Advances config size i id (.running id .done false got) st' (s.meet (.check i .send))) ∧
      (s.meet (.check i .send)).client.nextId = s.client.nextId := by
  obtain ⟨hclosed, st', hst', hrecv, hleaves⟩ := Session.closeWrite_leaves h.wf hfind hst
  have htake : (⟨i, false, .running id (.writing []) false got⟩ : Check).take s.size s.link .send =
      (⟨i, false, .running id .done false got⟩, [.call .client (.closeWrite id)]) := by
    have hanswer : (s.link.step (.call .client (.closeWrite id))).1 = .closed (.ok ()) := hclosed
    simp only [Check.take, Check.sendOnce, hanswer]
  exact ⟨⟨st', hst', hrecv, advances_check h hc htake rfl hleaves⟩,
    nextId_check h hc htake (by simp)⟩

/-- A check that has room for all that is left reads it, and then finds the end. -/
theorem meet_receive (hc : s.checks[i]? = some ⟨i, false, .running id .done false got⟩)
    (hfind : s.client.find? id = some st) (hst : st.Holds bytes true) (hroom : 0 < room)
    (hlength : bytes.length ≤ room) :
    ∃ st', st'.Holds [] true ∧
      s.Advances config size i id
        (.running id .done bytes.isEmpty (if bytes.isEmpty then got else bytes :: got)) st'
        (s.meet (.check i (.receive room))) := by
  obtain ⟨hgot, st', hst', hleaves⟩ := Session.read_whole h.wf hfind hst hroom hlength
  refine ⟨st', hst', advances_check h hc ?_ rfl hleaves⟩
  have hanswer : (s.link.step (.call .client (.read id room false))).1 =
    .got (.ready (.ok bytes)) := hgot
  cases bytes <;> simp only [Check.take, Check.receiveOnce, hanswer, hroom.ne', if_false,
    List.isEmpty]
  · rfl
  · rfl

theorem meet_conclude (hc : s.checks[i]? = some ⟨i, false, .running id .done true got⟩)
    (hfind : s.client.find? id = some st) (hheld : st.handle = .held) :
    ∃ stage st', stage.compared? = some id ∧ s.Advances config size i id stage st'
      (s.meet (.check i .conclude)) := by
  obtain ⟨st', hleaves⟩ := Session.dropHandle_leaves h.wf hfind hheld
  refine ⟨_, st', ?_, advances_check h hc rfl rfl hleaves⟩
  split <;> rfl

theorem advances_sending (hv : config.Valid) (hsize : 0 < size)
    (hfits : size ≤ config.maxFramePayload.toNat)
    (hc : s.checks[i]? = some ⟨i, false, .toOpen⟩) (hn : s.client.nextId = some id) :
    s.client.find? id = none ∧ (∃ st, st.Holds [] false ∧ st.recv.remaining = config.initialWindow ∧
      s.Advances config size i id (.running id .done false []) st (s.meeting (sending i))) ∧
    (s.meeting (sending i)).client.nextId = if id.toNat + 2 < UInt32.size then some (id + 2)
      else none := by
  obtain ⟨hnone, hopened, hnext⟩ := meet_openStream h hc hn
  have hfresh : (Stream.make id config .held).Holds [] false := ⟨rfl, rfl, rfl, rfl⟩
  obtain ⟨⟨send, hwritten⟩, hnext₁⟩ :=
    meet_write hopened.sane hopened.check hopened.leaves.mine hfresh rfl
    (payload_ne_nil hsize) (by rw [length_payload]; exact hfits)
    (by rw [length_payload]; exact Nat.le_trans hfits hv.payload_le)
  have hstill : ({ Stream.make id config .held with send } : Stream).Holds [] false :=
    ⟨rfl, rfl, rfl, rfl⟩
  obtain ⟨⟨st, hst, hrecv, hclosed⟩, hnext₂⟩ :=
    meet_closeWrite hwritten.sane hwritten.check hwritten.leaves.mine hstill
  refine ⟨hnone, ⟨st, hst, ?_, (hopened.trans hwritten).trans hclosed⟩, ?_⟩
  · rw [hrecv]
    rfl
  · exact (hnext₂.trans hnext₁).trans hnext

/-! ### It gets an answer -/

/-- The relay sends these bytes and FIN on the stream, and the check reads all. -/
def answering (i : Nat) (id : UInt32) (bytes : Bytes) : List Encounter :=
  [.message (Frame.data id bytes).encode, .message (Frame.fin id).encode,
    .check i (.receive bytes.length), .check i (.receive bytes.length)]

theorem advances_answering (hv : config.Valid) (hb : bytes ≠ [])
    (hfits : bytes.length ≤ config.maxFramePayload.toNat)
    (hc : s.checks[i]? = some ⟨i, false, .running id .done false []⟩)
    (hfind : s.client.find? id = some st)
    (hst : st.Holds [] false) (hwindow : st.recv.remaining = config.initialWindow) :
    ∃ st', st'.Holds [] true ∧
      s.Advances config size i id (.running id .done true [bytes]) st'
        (s.meeting (answering i id bytes)) := by
  have hroom := List.length_pos_iff.mpr hb
  obtain ⟨st₁, hst₁, hdata⟩ := Session.data_leaves h.wf hfind hst (by rw [h.config_eq]; exact hfits)
    (by rw [hwindow]; exact Nat.le_trans hfits hv.payload_le)
  have hdata := advances_frame h hc hdata
  obtain ⟨st₂, hst₂, hfin⟩ := Session.fin_leaves hdata.sane.wf hdata.leaves.mine hst₁
  have hfin := advances_frame hdata.sane hdata.check hfin
  obtain ⟨st₃, hst₃, hread⟩ := meet_receive hfin.sane hfin.check hfin.leaves.mine hst₂ hroom
    (Nat.le_refl _)
  rw [List.isEmpty_eq_false_iff.mpr hb] at hread
  obtain ⟨st₄, hst₄, hend⟩ := meet_receive hread.sane hread.check hread.leaves.mine hst₃ hroom
    (Nat.zero_le _)
  exact ⟨st₄, hst₄, ((hdata.trans hfin).trans hread).trans hend⟩

end

/-! ## All checks send -/

/-- The check at this place has sent all, and nothing has come back. -/
def Waits (config : Config) (s : System) (i : Nat) : Prop :=
  ∃ id st, s.checks[i]? = some ⟨i, false, .running id .done false []⟩ ∧
    s.client.find? id = some st ∧
    st.Holds [] false ∧ st.recv.remaining = config.initialWindow

theorem Waits.advances (hw : s.Waits config j) (h : s.Advances config size i id stage st s')
    (hj : j ≠ i) (hid : s.openedBy? j ≠ some id) : s'.Waits config j := by
  obtain ⟨k, st, hc, hfind, hst⟩ := hw
  have hk : k ≠ id := by
    rintro rfl
    exact hid (by rw [openedBy?, hc]; rfl)
  exact ⟨k, st, (h.checks j hj).trans hc, (h.leaves.others k hk).trans hfind, hst⟩

theorem Waits.known (hw : s.Waits config i) (hid : s.openedBy? i = some id) :
    s.client.find? id ≠ none := by
  obtain ⟨k, st, hc, hfind, -⟩ := hw
  obtain rfl : k = id := by
    rw [openedBy?, hc] at hid
    exact Option.some.inj hid
  simp [hfind]

/-- The first `n` checks have sent all, and the others have done nothing. -/
structure Sent (config : Config) (size streams n : Nat) (s : System) : Prop where
  sane : s.Sane config size
  next : n < streams → ∃ id, s.client.nextId = some id ∧ id.toNat = 2 * n + 1
  waiting : ∀ i, i < n → s.Waits config i
  left : ∀ i, n ≤ i → i < streams → s.checks[i]? = some ⟨i, false, .toOpen⟩

variable {n : Nat} {es : List Event} {encounters : List Encounter}

theorem Sent.unanswered (config : Config) (size streams : Nat) :
    Sent config size streams 0 (unanswered config size streams false) where
  sane := ⟨Session.wellFormed_after .client config [], rfl, rfl, rfl⟩
  next _ := ⟨1, rfl, rfl⟩
  waiting _ hi := absurd hi (Nat.not_lt_zero _)
  left i _ hi := by
    simp [System.unanswered, System.make, hi]

/-- The next check takes its turn. -/
theorem Sent.send (h : s.Sent config size streams n) (hv : config.Valid) (hsize : 0 < size)
    (hfits : size ≤ config.maxFramePayload.toNat) (hids : streams ≤ 2 ^ 31) (hn : n < streams) :
    (s.meeting (sending n)).Sent config size streams (n + 1) := by
  obtain ⟨id, hid, hcount⟩ := h.next hn
  obtain ⟨hnone, ⟨st, hst, hwindow, hadvances⟩, hnext⟩ :=
    advances_sending h.sane hv hsize hfits (h.left n (Nat.le_refl n) hn) hid
  refine ⟨hadvances.sane, fun hn' => ?_, fun i hi => ?_, fun i hi hi' => ?_⟩
  · have hfit : id.toNat + 2 < UInt32.size := by
      rw [hcount, show UInt32.size = 2 * 2 ^ 31 from rfl]
      omega
    rw [if_pos hfit] at hnext
    exact ⟨id + 2, hnext, by rw [toNat_add_two hfit, hcount]; omega⟩
  · rcases Nat.lt_succ_iff_lt_or_eq.mp hi with hi | rfl
    -- The stream that was opened is not one of those that wait, for these were known before.
    · exact (h.waiting i hi).advances hadvances hi.ne fun hid => (h.waiting i hi).known hid hnone
    · exact ⟨id, st, hadvances.check, hadvances.leaves.mine, hst, hwindow⟩
  · rw [hadvances.checks i (by omega)]
    exact h.left i (by omega) hi'

theorem exists_sent (hv : config.Valid) (hsize : 0 < size)
    (hfits : size ≤ config.maxFramePayload.toNat)
    (hids : streams ≤ 2 ^ 31) (hn : n ≤ streams) :
    ∃ encounters, ((unanswered config size streams false).meeting encounters).Sent config
      size streams n := by
  induction n with
  | zero => exact ⟨[], .unanswered config size streams⟩
  | succ n ih =>
    obtain ⟨encounters, h⟩ := ih (Nat.le_of_succ_le hn)
    refine ⟨encounters ++ sending n, ?_⟩
    rw [meeting_append]
    exact h.send hv hsize hfits hids hn

/-! ## All checks are answered -/

/-- The relay answers on the streams that checks have read to the end, each in full and with FIN,
but what it returns to the check at the place `i` is what was written on the stream of the one at
`p i`. -/
def Crosses (config : Config) (es : List Event) (s : System) (p : Nat → Nat) : Prop :=
  ∀ i id, s.comparedBy? i = some id → ∃ id', s.openedBy? (p i) = some id' ∧
    Answered config es id ((Session.make .client config).bytesWritten id' es)

/-- All of this many checks have come to compare. -/
def AllCompared (s : System) (streams : Nat) : Prop := ∀ i < streams, s.comparedBy? i ≠ none

theorem Crosses.answered (hp : s.Crosses config es p) (h : s.Booked config es size streams)
    (hall : s.AllCompared streams)
    (hid : s.comparedBy? i = some id) :
    p i < streams ∧ Answered config es id (payload (p i) size) := by
  obtain ⟨id', hopened', hanswer⟩ := hp i id hid
  have hplace := h.lt_of_opened hopened'
  obtain ⟨k, hk⟩ := Option.ne_none_iff_exists'.mp (hall (p i) hplace)
  obtain ⟨hopened, hsent⟩ := h.compared hk
  obtain rfl : id' = k := Option.some.inj (hopened'.symm.trans hopened)
  rw [hsent] at hanswer
  exact ⟨hplace, hanswer⟩

theorem crosses_of_answered (h : s.Booked config es size streams) (hall : s.AllCompared streams)
    (hp : ∀ i < streams, p i < streams)
    (hanswers : ∀ i id, s.comparedBy? i = some id → Answered config es id (payload (p i) size)) :
    s.Crosses config es p := by
  intro i id hid
  obtain ⟨id', hid'⟩ := Option.ne_none_iff_exists'.mp
    (hall (p i) (hp i (h.lt_of_opened (h.compared hid).1)))
  obtain ⟨hopened, hsent⟩ := h.compared hid'
  exact ⟨id', hopened, by rw [hsent]; exact hanswers i id hid⟩

/-- The first `n` checks have compared the payloads of others, and the rest waits. -/
structure Served (config : Config) (size streams n : Nat) (p : Nat → Nat) (es : List Event)
    (s : System) : Prop where
  sane : s.Sane config size
  compared : ∀ i, i < n → ∃ id, s.comparedBy? i = some id ∧
    Answered config es id (payload (p i) size)
  waiting : ∀ i, n ≤ i → i < streams → s.Waits config i

/-- The next check gets what another is to send, and compares. -/
theorem Served.serve
    (h : ((unanswered config size streams false).meeting encounters).Served config size streams n p
      ((unanswered config size streams false).history encounters))
    (hv : config.Valid) (hsize : 0 < size) (hfits : size ≤ config.maxFramePayload.toNat)
    (hn : n < streams) :
    ∃ more, ((unanswered config size streams false).meeting (encounters ++ more)).Served config size
      streams (n + 1) p ((unanswered config size streams false).history (encounters ++ more)) := by
  obtain ⟨id, st, hc, hfind, hst, hwindow⟩ := h.waiting n (Nat.le_refl n) hn
  have hb : payload (p n) size ≠ [] := payload_ne_nil hsize
  obtain ⟨st₁, hst₁, hread⟩ :=
    advances_answering h.sane hv hb (by rw [length_payload]; exact hfits) hc hfind hst hwindow
  obtain ⟨stage, st₂, hstage, hconcluded⟩ :=
    meet_conclude hread.sane hread.check hread.leaves.mine hst₁.held
  have hadvances := hread.trans hconcluded
  -- That the relay has answered is read off the books of the check, before it drops its handle.
  rw [← meeting_append] at hread
  have hanswered := (booked config size streams false _).answered hread.check
  refine ⟨answering n id (payload (p n) size) ++ [.check n .conclude], ?_⟩
  rw [← List.append_assoc, meeting_concat, history_concat, meeting_append]
  refine ⟨hadvances.sane, fun i hi => ?_, fun i hi hi' => ?_⟩
  · rcases Nat.lt_succ_iff_lt_or_eq.mp hi with hi | rfl
    · obtain ⟨k, hk, hanswer⟩ := h.compared i hi
      refine ⟨k, ?_, ?_⟩
      · rw [comparedBy?, hadvances.checks i hi.ne]
        exact hk
      · rw [history_append, List.append_assoc]
        exact hanswer.mono
    · refine ⟨id, ?_, ?_⟩
      · rw [comparedBy?, hadvances.check]
        exact hstage
      · simpa using hanswered.mono
  · refine (h.waiting i (by omega) hi').advances hadvances (by omega) fun hid => ?_
    obtain ⟨c, hci, hcid⟩ := Option.bind_eq_some_iff.mp hid
    have hsame := (booked config size streams false encounters).apart i n c _ id hci hc hcid rfl
    omega

theorem exists_served (hv : config.Valid) (hsize : 0 < size)
    (hfits : size ≤ config.maxFramePayload.toNat)
    (hids : streams ≤ 2 ^ 31) (hn : n ≤ streams) :
    ∃ encounters, ((unanswered config size streams false).meeting encounters).Served config
      size streams n p ((unanswered config size streams false).history encounters) := by
  induction n with
  | zero =>
    obtain ⟨encounters, h⟩ := exists_sent hv hsize hfits hids (Nat.le_refl streams)
    exact ⟨encounters, h.sane, fun i hi => absurd hi (Nat.not_lt_zero i),
      fun i _ hi => h.waiting i hi⟩
  | succ n ih =>
    obtain ⟨encounters, h⟩ := ih (Nat.le_of_succ_le hn)
    obtain ⟨more, h⟩ := h.serve hv hsize hfits hn
    exact ⟨encounters ++ more, h⟩

/-- For every way to mix up the streams there is a relay that does it, and all checks come to
compare. -/
theorem exists_crosses (hv : config.Valid) (hsize : 0 < size)
    (hfits : size ≤ config.maxFramePayload.toNat)
    (hids : streams ≤ 2 ^ 31) (hp : ∀ i < streams, p i < streams) :
    ∃ encounters,
      ((unanswered config size streams false).meeting encounters).Crosses config
        ((unanswered config size streams false).history encounters) p ∧
      ((unanswered config size streams false).meeting encounters).AllCompared streams := by
  obtain ⟨encounters, h⟩ := exists_served (p := p) hv hsize hfits hids (Nat.le_refl streams)
  have hbooked := booked config size streams false encounters
  have hall : ((unanswered config size streams false).meeting encounters).AllCompared streams := by
    intro i hi
    obtain ⟨id, hid, -⟩ := h.compared i hi
    simp [hid]
  refine ⟨encounters, crosses_of_answered hbooked hall hp fun i id hid => ?_, hall⟩
  obtain ⟨k, hk, hanswer⟩ := h.compared i (hbooked.lt_of_opened (hbooked.compared hid).1)
  obtain rfl : id = k := Option.some.inj (hid.symm.trans hk)
  exact hanswer

end System
end Load
end StreamMux
