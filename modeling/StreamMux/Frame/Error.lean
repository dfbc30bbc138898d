/-
Why a message is not a frame. Only a message too short to hold a header leaves
the receiver with nothing to go on; every other fault is confined to that
message, and if it cost a stream some DATA the error names that stream.
-/
import StreamMux.Frame

namespace StreamMux

inductive FrameError
  /-- The whole message is shorter than a header. -/
  | truncated (length : Nat)
  | unknownType (byte : UInt8)
  /-- DATA whose declared length is above the receiver's limit. -/
  | tooLarge (id length limit : UInt32)
  /-- The declared length is not the length that came. -/
  | lengthMismatch (type : FrameType) (id declared : UInt32) (actual : Nat)
  /-- A control frame that declares another length than its type has. -/
  | badControlLength (type : FrameType) (expected : Nat) (actual : UInt32)
deriving DecidableEq, Repr

namespace FrameError

/-- Two lower-case hexadecimal digits. -/
def hexByte (b : UInt8) : String :=
  String.ofList [Nat.digitChar (b.toNat / 16), Nat.digitChar (b.toNat % 16)]

def message : FrameError → String
  | truncated n => s!"message of {n} bytes is shorter than the frame header"
  | unknownType b => s!"unknown frame type 0x{hexByte b}"
  | tooLarge id len limit =>
    s!"stream {id}: declared payload of {len} bytes exceeds the {limit}-byte limit"
  | lengthMismatch t id declared actual =>
    s!"stream {id}: {t.name} declares {declared} payload bytes but message carries {actual}"
  | badControlLength t expected actual =>
    s!"{t.name} frame must carry {expected} payload bytes, got {actual}"

/-- Whether not even a header could be read. -/
def isFatal : FrameError → Bool
  | truncated _ => true
  | _ => false

/-- The stream whose DATA was lost with the message. It now has a hole and
cannot go on. -/
def damagedStream? : FrameError → Option UInt32
  | tooLarge id _ _ => some id
  | lengthMismatch .data id _ _ => some id
  | _ => none

end FrameError
end StreamMux
