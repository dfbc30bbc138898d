/-
The wire form of a frame: one type byte, the stream id and the payload length
as big-endian words, the payload. A message carries one frame and a frame is
never split, so both directions work on whole messages.

The length field keeps the low 32 bits of the payload's length, which is why
`encode` of a payload of 2^32 bytes or more is a message that `decode` refuses.
-/
import StreamMux.Frame.Error

namespace StreamMux.Frame

def encode (f : Frame) : Bytes :=
  f.type.toByte :: (bigEndian f.streamId ++ bigEndian f.payload.length.toUInt32 ++ f.payload)

/-- What the header of a message promises: type byte, stream id, payload length. -/
structure Header where
  typeByte : UInt8
  streamId : UInt32
  declared : UInt32
deriving DecidableEq, Repr

/-- Splits a message into its header and what follows. -/
def splitHeader? : Bytes → Option (Header × Bytes)
  | t :: a :: b :: c :: d :: e :: f :: g :: h :: rest =>
    some (⟨t, wordOf a b c d, wordOf e f g h⟩, rest)
  | _ => none

/-- Whether the declared length can belong to a frame of this type. -/
def checkDeclared (type : FrameType) (id declared maxPayload : UInt32) : Except FrameError Unit :=
  match type.fixedLength? with
  | some expected =>
    if declared.toNat = expected then .ok () else .error (.badControlLength type expected declared)
  | none => if declared > maxPayload then .error (.tooLarge id declared maxPayload) else .ok ()

/-- Reads one message, refusing DATA payloads above `maxPayload`. Faults are
looked for from left to right: header, type, declared length, actual length. -/
def decode (message : Bytes) (maxPayload : UInt32) : Except FrameError Frame :=
  match splitHeader? message with
  | none => .error (.truncated message.length)
  | some (header, payload) =>
    match FrameType.ofByte? header.typeByte with
    | none => .error (.unknownType header.typeByte)
    | some type =>
      match checkDeclared type header.streamId header.declared maxPayload with
      | .error e => .error e
      | .ok () =>
        if payload.length = header.declared.toNat then .ok ⟨type, header.streamId, payload⟩
        else .error (.lengthMismatch type header.streamId header.declared payload.length)

theorem length_encode (f : Frame) : f.encode.length = f.encodedLength := by
  simp [encode, encodedLength, headerSize, bigEndian]; omega

end StreamMux.Frame
