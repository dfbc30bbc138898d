/-
The wire form read back: `decode` answers the frame that `encode` wrote, for
every frame a receiver with that payload limit takes. What two sessions send
each other is such, so a message in flight stands for one frame.
-/
import StreamMux.Frame.Codec

namespace StreamMux

/-- Four bytes written most significant first spell the word they came from. -/
theorem wordOf_bytes (w : UInt32) :
    wordOf (w >>> 24).toUInt8 (w >>> 16).toUInt8 (w >>> 8).toUInt8 w.toUInt8 = w := by
  apply UInt32.toNat_inj.mp
  apply Nat.eq_of_testBit_eq
  intro i
  have high (h : 32 ≤ i) : w.toNat.testBit i = false :=
    Nat.testBit_lt_two_pow (Nat.lt_of_lt_of_le w.toNat_lt (Nat.pow_le_pow_right (by omega) h))
  simp only [wordOf, UInt32.toNat_or, UInt32.toNat_shiftLeft, UInt8.toNat_toUInt32,
    UInt32.toNat_toUInt8, UInt32.toNat_shiftRight]
  simp [Nat.testBit_or, Nat.testBit_mod_two_pow, Nat.testBit_shiftLeft, Nat.testBit_shiftRight,
    -Nat.reducePow]
  -- Exactly one of the four bytes holds bit `i`, and none does from the 32nd on.
  by_cases h8 : i < 8
  · simp [h8, show ¬ 8 ≤ i by omega, show ¬ 16 ≤ i by omega, show ¬ 24 ≤ i by omega]
  by_cases h16 : i < 16
  · simp [h8, show 8 ≤ i by omega, show ¬ 16 ≤ i by omega, show ¬ 24 ≤ i by omega,
      show i < 32 by omega, show i - 8 < 8 by omega, show 8 + (i - 8) = i by omega]
  by_cases h24 : i < 24
  · simp [h8, show ¬ i - 8 < 8 by omega, show 16 ≤ i by omega, show ¬ 24 ≤ i by omega,
      show i < 32 by omega, show i - 16 < 8 by omega, show 16 + (i - 16) = i by omega]
  by_cases h32 : i < 32
  · simp [h8, show ¬ i - 8 < 8 by omega, show ¬ i - 16 < 8 by omega, show 24 ≤ i by omega,
      show i < 32 by omega, show i - 24 < 8 by omega, show 24 + (i - 24) = i by omega]
  · simp [h8, h32, high (by omega)]

namespace Frame

@[simp] theorem credit?_windowUpdate (id credit : UInt32) :
    (windowUpdate id credit).credit? = some credit := by
  simp [credit?, windowUpdate, bigEndian, wordOf_bytes]

theorem splitHeader?_encode (f : Frame) :
    splitHeader? f.encode = some (⟨f.type.toByte, f.streamId, f.payload.length.toUInt32⟩,
      f.payload) := by
  simp only [encode, bigEndian, List.cons_append, List.nil_append, splitHeader?, wordOf_bytes]

theorem length_of_legal {f : Frame} {max : UInt32} (h : f.Legal max) :
    f.payload.length < UInt32.size := by
  have hmax := max.toNat_lt_size
  simp only [UInt32.size] at hmax ⊢
  simp only [Legal] at h
  cases hty : f.type <;> simp only [FrameType.fixedLength?, hty] at h <;> omega

/-- The check of the header is the check of the frame, if the payload is as long as declared. -/
theorem checkDeclared_iff {f : Frame} {declared max : UInt32}
    (h : f.payload.length = declared.toNat) :
    checkDeclared f.type f.streamId declared max = .ok () ↔ f.Legal max := by
  simp only [checkDeclared, Legal, h]
  cases f.type.fixedLength? with
  | some n =>
    simp only
    by_cases hn : declared.toNat = n <;> simp [hn]
  | none =>
    simp only [gt_iff_lt, UInt32.lt_iff_toNat_lt]
    by_cases hlt : max.toNat < declared.toNat
    · simp [hlt]
    · simp [hlt, Nat.le_of_not_lt hlt]

theorem decode_encode {f : Frame} {max : UInt32} (h : f.Legal max) :
    decode f.encode max = .ok f := by
  have hlen : f.payload.length = f.payload.length.toUInt32.toNat :=
    (UInt32.toNat_ofNat_of_lt' (length_of_legal h)).symm
  simp only [decode, splitHeader?_encode, FrameType.ofByte?_toByte, (checkDeclared_iff hlen).mpr h]
  rw [if_pos hlen]

/-- The stream that the header of a message names, if there is a header. -/
def headerStream? (message : Bytes) : Option UInt32 := (splitHeader? message).map (·.1.streamId)

theorem headerStream?_of_decode {message : Bytes} {max : UInt32} {f : Frame}
    (h : decode message max = .ok f) : headerStream? message = some f.streamId := by
  simp only [decode] at h
  split at h
  · cases h
  next header payload hsplit =>
  split at h
  · cases h
  split at h
  · cases h
  split at h
  next =>
    cases h
    rw [headerStream?, hsplit]
    rfl
  · cases h

theorem splitHeader?_eq_none_iff {message : Bytes} : splitHeader? message = none ↔
    message.length < headerSize := by
  match message with
  | [] | [_] | [_, _] | [_, _, _] | [_, _, _, _] | [_, _, _, _, _] | [_, _, _, _, _, _]
  | [_, _, _, _, _, _, _]
  | [_, _, _, _, _, _, _, _] => simp [splitHeader?, headerSize]
  | _ :: _ :: _ :: _ :: _ :: _ :: _ :: _ :: _ :: rest => simp [splitHeader?, headerSize]

theorem decode_of_short {message : Bytes} (h : message.length < headerSize) (max : UInt32) :
    decode message max = .error (.truncated message.length) := by
  rw [decode, splitHeader?_eq_none_iff.mpr h]

theorem isFatal_of_header {message : Bytes} {max id : UInt32} {err : FrameError}
    (h : headerStream? message = some id)
    (hdec : decode message max = .error err) : err.isFatal = false := by
  simp only [decode] at hdec
  split at hdec
  next hsplit => rw [headerStream?, hsplit] at h; cases h
  split at hdec
  · cases hdec; rfl
  split at hdec
  next hcheck =>
    cases hdec
    simp only [checkDeclared] at hcheck
    split at hcheck
    all_goals
      split at hcheck <;> cases hcheck
      rfl
  next =>
    split at hdec <;> cases hdec
    rfl

/-- The only error that ends the session is that of a message without a header. -/
theorem truncated_of_isFatal {message : Bytes} {max : UInt32} {err : FrameError}
    (h : decode message max = .error err)
    (hfatal : err.isFatal = true) : message.length < headerSize ∧
    err = .truncated message.length := by
  cases hsplit : splitHeader? message with
  | none =>
    have hlen := splitHeader?_eq_none_iff.mp hsplit
    rw [decode_of_short hlen] at h
    exact ⟨hlen, (Except.error.inj h).symm⟩
  | some split =>
    have hheader : headerStream? message = some split.1.streamId := by
      rw [headerStream?, hsplit]; rfl
    rw [isFatal_of_header hheader h] at hfatal
    cases hfatal

theorem data_of_checkDeclared {type : FrameType} {id declared max other : UInt32} {err : FrameError}
    (h : checkDeclared type id declared max = .error err) (hd : err.damagedStream? = some other) :
    type = .data ∧ id = other := by
  cases type with
  | data =>
    simp only [checkDeclared, FrameType.fixedLength?] at h
    split at h <;> cases h
    exact ⟨rfl, Option.some.inj hd⟩
  | syn | windowUpdate | fin | rst =>
    simp only [checkDeclared, FrameType.fixedLength?] at h
    split at h <;> cases h
    cases hd

/-- A message that is found to have cost a stream its DATA has the header of such DATA. -/
theorem splitHeader?_of_damaged {message : Bytes} {max id : UInt32} {err : FrameError}
    (h : decode message max = .error err) (hd : err.damagedStream? = some id) :
    ∃ declared payload, splitHeader? message = some
      (⟨FrameType.data.toByte, id, declared⟩, payload) := by
  simp only [decode] at h
  split at h
  · cases h; cases hd
  next header payload hsplit =>
  split at h
  · cases h; cases hd
  next type htype =>
  have hdata : type = .data ∧ header.streamId = id := by
    split at h
    next hcheck => cases h; exact data_of_checkDeclared hcheck hd
    next =>
      split at h <;> cases h
      cases type with
      | data => exact ⟨rfl, Option.some.inj hd⟩
      | syn | windowUpdate | fin | rst => cases hd
  obtain ⟨rfl, rfl⟩ := hdata
  have hbyte := FrameType.toByte_of_ofByte? htype
  exact ⟨header.declared, payload, by rw [hsplit, hbyte]⟩

theorem headerStream?_of_damaged {message : Bytes} {max id : UInt32} {err : FrameError}
    (h : decode message max = .error err) (hd : err.damagedStream? = some id) :
    headerStream? message = some id := by
  obtain ⟨declared, payload, hsplit⟩ := splitHeader?_of_damaged h hd
  rw [headerStream?, hsplit]
  rfl

theorem decode_of_data {message payload : Bytes} {max id declared : UInt32}
    (h : splitHeader? message = some (⟨FrameType.data.toByte, id, declared⟩, payload)) :
    decode message max =
      if max < declared then .error (.tooLarge id declared max)
      else if payload.length = declared.toNat then .ok (.data id payload)
      else .error (.lengthMismatch .data id declared payload.length) := by
  simp only [decode, h, FrameType.ofByte?_toByte, checkDeclared, FrameType.fixedLength?]
  by_cases hlong : max < declared
  · simp only [gt_iff_lt, if_pos hlong]
  · simp only [gt_iff_lt, if_neg hlong]
    rfl

theorem legal_of_decode {message : Bytes} {max : UInt32} {f : Frame}
    (h : decode message max = .ok f) : f.Legal max := by
  simp only [decode] at h
  split at h
  · cases h
  split at h
  · cases h
  split at h
  · cases h
  next hok =>
  split at h
  next hlen =>
    cases h
    exact (checkDeclared_iff hlen).mp hok
  · cases h

end Frame
end StreamMux
