/-
Frames, the units two multiplexers exchange. Every frame names the stream it
is about. DATA carries stream bytes, WINDOW_UPDATE carries a four-byte credit,
and SYN, FIN and RST carry nothing.

Nothing here keeps a `Frame` well-formed: any type may stand with any payload,
and which frames are legal is a statement about them (`Frame.Legal`).
-/
namespace StreamMux

/-- The bytes of a message or a payload, first byte first. -/
abbrev Bytes := List UInt8

/-- What a frame does to its stream. -/
inductive FrameType
  /-- Opens the stream. -/
  | syn
  /-- Carries stream bytes. -/
  | data
  /-- Gives the peer more credit to send. -/
  | windowUpdate
  /-- Ends the sender's direction. -/
  | fin
  /-- Aborts both directions. -/
  | rst
deriving DecidableEq, Repr, Inhabited

namespace FrameType

def toByte : FrameType → UInt8
  | syn => 0
  | data => 1
  | windowUpdate => 2
  | fin => 3
  | rst => 4

def ofByte? (b : UInt8) : Option FrameType :=
  if b = 0 then some syn
  else if b = 1 then some data
  else if b = 2 then some windowUpdate
  else if b = 3 then some fin
  else if b = 4 then some rst
  else none

/-- The name used in error texts. -/
def name : FrameType → String
  | syn => "Syn"
  | data => "Data"
  | windowUpdate => "WindowUpdate"
  | fin => "Fin"
  | rst => "Rst"

/-- The payload length every frame of this type has, where it is fixed. -/
def fixedLength? : FrameType → Option Nat
  | syn | fin | rst => some 0
  | windowUpdate => some 4
  | data => none

@[simp] theorem ofByte?_toByte (t : FrameType) : ofByte? t.toByte = some t := by
  cases t <;> rfl

theorem toByte_of_ofByte? {b : UInt8} {t : FrameType} (h : ofByte? b = some t) : t.toByte = b := by
  unfold ofByte? at h
  repeat' split at h
  all_goals simp_all [toByte]
  all_goals subst h; rfl

end FrameType

/-- One multiplexer frame. -/
structure Frame where
  type : FrameType
  streamId : UInt32
  payload : Bytes
deriving DecidableEq, Repr, Inhabited

/-- The four bytes of a word, most significant first. -/
def bigEndian (w : UInt32) : Bytes :=
  [(w >>> 24).toUInt8, (w >>> 16).toUInt8, (w >>> 8).toUInt8, w.toUInt8]

/-- The word four bytes spell, most significant first. -/
def wordOf (a b c d : UInt8) : UInt32 :=
  (a.toUInt32 <<< 24) ||| (b.toUInt32 <<< 16) ||| (c.toUInt32 <<< 8) ||| d.toUInt32

namespace Frame

/-- Bytes of type, stream id and payload length that stand before a payload. -/
def headerSize : Nat := 9

/-- Payload length of a WINDOW_UPDATE. -/
def windowUpdateLength : Nat := 4

def syn (id : UInt32) : Frame := ⟨.syn, id, []⟩
def data (id : UInt32) (payload : Bytes) : Frame := ⟨.data, id, payload⟩
def windowUpdate (id credit : UInt32) : Frame := ⟨.windowUpdate, id, bigEndian credit⟩
def fin (id : UInt32) : Frame := ⟨.fin, id, []⟩
def rst (id : UInt32) : Frame := ⟨.rst, id, []⟩

/-- The credit a WINDOW_UPDATE carries; no other frame carries any. -/
def credit? (f : Frame) : Option UInt32 :=
  match f.type, f.payload with
  | .windowUpdate, [a, b, c, d] => some (wordOf a b c d)
  | _, _ => none

/-- Length of the encoded message. -/
def encodedLength (f : Frame) : Nat := headerSize + f.payload.length

/-- A frame that a receiver with this payload limit takes: control frames have
exactly their fixed length, DATA at most the limit. -/
def Legal (maxPayload : UInt32) (f : Frame) : Prop :=
  match f.type.fixedLength? with
  | some n => f.payload.length = n
  | none => f.payload.length ≤ maxPayload.toNat

instance (maxPayload : UInt32) (f : Frame) : Decidable (f.Legal maxPayload) := by
  unfold Legal; split <;> infer_instance

@[simp] theorem length_bigEndian (w : UInt32) : (bigEndian w).length = 4 := rfl

end Frame
end StreamMux
