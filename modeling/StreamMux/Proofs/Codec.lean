/-
Reading and writing messages are inverse to each other: a message is accepted
exactly if it is what writing a legal frame gives, so a frame has one written
form and a written form one frame. A word is written as the number it is in base
256; a reader finds a credit in a WINDOW_UPDATE and in nothing else.
-/
import StreamMux.Proofs.Wire
import StreamMux.Session.Inbound

namespace StreamMux

/-! ## Words -/

/-- The number that bytes spell in base 256, most significant first. -/
def numberOf (bytes : Bytes) : Nat := bytes.foldl (fun n b => 256 * n + b.toNat) 0

theorem toNat_byte_shiftLeft (b : UInt8) {k : UInt32} (h : k ≤ 24) :
    (b.toUInt32 <<< k).toNat = b.toNat <<< k.toNat := by
  have hk : k.toNat ≤ 24 := UInt32.le_iff_toNat_le.mp h
  have hb : b.toNat ≤ 2 ^ 8 - 1 := by have := b.toNat_lt; omega
  have hfits : b.toNat * 2 ^ k.toNat < 2 ^ 32 := by
    have hpow : 2 ^ k.toNat ≤ 2 ^ 24 := Nat.pow_le_pow_right (by omega) hk
    calc b.toNat * 2 ^ k.toNat ≤ (2 ^ 8 - 1) * 2 ^ 24 := Nat.mul_le_mul hb hpow
      _ < 2 ^ 32 := by omega
  rw [UInt32.toNat_shiftLeft, UInt8.toNat_toUInt32, Nat.mod_eq_of_lt (show k.toNat < 32 by omega),
    Nat.shiftLeft_eq, Nat.mod_eq_of_lt hfits]

/-- The bytes of a word lie apart in it, so they add up. -/
theorem toNat_wordOf (a b c d : UInt8) : (wordOf a b c d).toNat = numberOf [a, b, c, d] := by
  have hb := b.toNat_lt
  have hc := c.toNat_lt
  have hd := d.toNat_lt
  have hword : (wordOf a b c d).toNat = a.toNat <<< 24 |||
      (b.toNat <<< 16 ||| (c.toNat <<< 8 ||| d.toNat)) := by
    simp only [wordOf, UInt32.toNat_or, Nat.or_assoc, UInt8.toNat_toUInt32]
    rw [toNat_byte_shiftLeft a (by decide), toNat_byte_shiftLeft b (by decide),
      toNat_byte_shiftLeft c (by decide)]
    rfl
  rw [hword, ← Nat.shiftLeft_add_eq_or_of_lt (i := 8) hd,
    ← Nat.shiftLeft_add_eq_or_of_lt (i := 16) (by simp only [Nat.shiftLeft_eq]; omega),
    ← Nat.shiftLeft_add_eq_or_of_lt (i := 24) (by simp only [Nat.shiftLeft_eq]; omega)]
  simp only [numberOf, List.foldl, Nat.shiftLeft_eq]
  omega

theorem bytes_eq_of_numberOf {a b c d a' b' c' d' : UInt8}
    (h : numberOf [a, b, c, d] = numberOf [a', b', c', d']) :
    [a, b, c, d] = [a', b', c', d'] := by
  have := a.toNat_lt
  have := b.toNat_lt
  have := c.toNat_lt
  have := d.toNat_lt
  have := a'.toNat_lt
  have := b'.toNat_lt
  have := c'.toNat_lt
  have := d'.toNat_lt
  simp only [numberOf, List.foldl] at h
  simp only [List.cons.injEq, ← UInt8.toNat_inj, and_true]
  omega

theorem bigEndian_wordOf (a b c d : UInt8) : bigEndian (wordOf a b c d) = [a, b, c, d] := by
  apply bytes_eq_of_numberOf
  rw [← toNat_wordOf, ← toNat_wordOf, wordOf_bytes]

theorem numberOf_bigEndian (w : UInt32) : numberOf (bigEndian w) = w.toNat := by
  rw [bigEndian, ← toNat_wordOf, wordOf_bytes]

namespace Frame

/-! ## Messages -/

theorem encode_of_splitHeader? {message payload : Bytes} {header : Header}
    (h : splitHeader? message = some (header, payload)) :
    message = header.typeByte :: (bigEndian header.streamId ++ bigEndian header.declared ++
      payload) := by
  unfold splitHeader? at h
  split at h
  · cases h
    simp only [bigEndian_wordOf, List.cons_append, List.nil_append]
  · cases h

/-- What is accepted is the written form of its frame. -/
theorem eq_encode_of_decode {message : Bytes} {max : UInt32} {f : Frame}
    (h : decode message max = .ok f) : message = f.encode := by
  simp only [decode] at h
  split at h
  · cases h
  next header payload hsplit =>
  split at h
  · cases h
  next type htype =>
  split at h
  · cases h
  split at h
  next hlen =>
    cases h
    have hdeclared : payload.length.toUInt32 = header.declared := by
      rw [hlen]; exact UInt32.ofNat_toNat
    rw [encode_of_splitHeader? hsplit, encode, FrameType.toByte_of_ofByte? htype, hdeclared]
  · cases h

theorem decode_eq_ok_iff {message : Bytes} {max : UInt32} {f : Frame} :
    decode message max = .ok f ↔ f.Legal max ∧ message = f.encode := by
  constructor
  · exact fun h => ⟨legal_of_decode h, eq_encode_of_decode h⟩
  · rintro ⟨hlegal, rfl⟩
    exact decode_encode hlegal

/-- The length field may be cut short; the bytes behind it are the payload all the same. -/
theorem encode_injective {f g : Frame} (h : f.encode = g.encode) : f = g := by
  have hsplit := splitHeader?_encode f
  rw [h, splitHeader?_encode, Option.some.injEq, Prod.mk.injEq, Header.mk.injEq] at hsplit
  obtain ⟨⟨htype, hid, -⟩, hpayload⟩ := hsplit
  have htype : f.type = g.type := by
    have := congrArg FrameType.ofByte? htype
    rw [FrameType.ofByte?_toByte, FrameType.ofByte?_toByte] at this
    exact (Option.some.inj this).symm
  cases f
  cases g
  simp_all

theorem legal_iff {max : UInt32} {f : Frame} :
    f.Legal max ↔
      match f.type with
      | .syn | .fin | .rst => f.payload = []
      | .windowUpdate => f.payload.length = 4
      | .data => f.payload.length ≤ max.toNat := by
  cases hty : f.type <;> simp [Legal, hty, FrameType.fixedLength?]

theorem eq_windowUpdate_of_legal {max : UInt32} {f : Frame} (h : f.Legal max)
    (hty : f.type = .windowUpdate) : ∃ c, f = windowUpdate f.streamId c := by
  obtain ⟨type, id, payload⟩ := f
  subst hty
  have hlen : payload.length = 4 := legal_iff.mp h
  match payload, hlen with
  | [a, b, c, d], _ => exact ⟨wordOf a b c d, by rw [windowUpdate, bigEndian_wordOf]⟩

theorem credit?_eq_some_iff {max : UInt32} {f : Frame} (h : f.Legal max) {c : UInt32} :
    f.credit? = some c ↔ f.type = .windowUpdate ∧ c.toNat = numberOf f.payload := by
  cases hty : f.type with
  | windowUpdate =>
    obtain ⟨given, hf⟩ := eq_windowUpdate_of_legal h hty
    rw [hf, credit?_windowUpdate, Option.some.injEq, windowUpdate, numberOf_bigEndian,
      UInt32.toNat_inj]
    exact ⟨fun hc => ⟨rfl, hc.symm⟩, fun hc => hc.2.symm⟩
  | syn | data | fin | rst => simp [credit?, hty]

/-- The messages that are accepted are the written forms of the legal frames, each of its own
frame. No two frames are written alike, so what is not legal is refused and never taken for
another frame. The credit of what is accepted is the number in a WINDOW_UPDATE, and a session
never has to do without one. -/
theorem decode_inverse_encode (max : UInt32) :
    (∀ (message : Bytes) (f : Frame),
      decode message max = .ok f ↔ f.Legal max ∧ message = f.encode) ∧
    (∀ f : Frame, f.Legal max ↔
      match f.type with
      | .syn | .fin | .rst => f.payload = []
      | .windowUpdate => f.payload.length = 4
      | .data => f.payload.length ≤ max.toNat) ∧
    (∀ f g : Frame, f.encode = g.encode → f = g) ∧
    (∀ f : Frame, decode f.encode max = .ok f ∨ ∃ e, decode f.encode max = .error e) ∧
    (∀ (message : Bytes) (f : Frame), decode message max = .ok f →
      (∀ c, f.credit? = some c ↔ f.type = .windowUpdate ∧ c.toNat = numberOf f.payload) ∧
      (f.type = .windowUpdate → ∃ c, f.credit? = some c ∧
        ∀ s : Session, s.onFrame f = s.onWindowUpdate f.streamId c)) := by
  refine ⟨fun _ _ => decode_eq_ok_iff, fun _ => legal_iff, fun _ _ => encode_injective, fun f => ?_,
    fun message f h => ⟨fun c => credit?_eq_some_iff (legal_of_decode h), fun hty => ?_⟩⟩
  · cases hdec : decode f.encode max with
    | ok g =>
      have hfg : f = g := encode_injective (eq_encode_of_decode hdec)
      exact .inl (by rw [hfg])
    | error e => exact .inr ⟨e, rfl⟩
  · obtain ⟨c, hf⟩ := eq_windowUpdate_of_legal (legal_of_decode h) hty
    have hc : f.credit? = some c := by rw [hf, credit?_windowUpdate]
    refine ⟨c, hc, fun s => ?_⟩
    simp only [Session.onFrame, hty, hc, Option.getD_some]

/-- A message that gives stream 3 a credit of 66051. -/
def grantMessage : Bytes := [2, 0, 0, 0, 3, 0, 0, 0, 4, 0, 1, 2, 3]

theorem decode_inverse_encode_of_grant :
    decode grantMessage 8 = .ok (windowUpdate 3 66051) ∧
      grantMessage = (windowUpdate 3 66051).encode ∧
      (windowUpdate 3 66051).credit? = some 66051 ∧
      ∃ c, (windowUpdate 3 66051).credit? = some c ∧
        ∀ s : Session, s.onFrame (windowUpdate 3 66051) = s.onWindowUpdate 3 c :=
  have hdec : decode grantMessage 8 = .ok (windowUpdate 3 66051) := rfl
  have ⟨exact, _, _, _, credit⟩ := decode_inverse_encode 8
  ⟨hdec, ((exact _ _).mp hdec).2, ((credit _ _ hdec).1 66051).mpr ⟨rfl, rfl⟩,
    (credit _ _ hdec).2 rfl⟩

end Frame
end StreamMux
