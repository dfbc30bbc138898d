/-
What a load check sends. Each stream's bytes depend on the stream's number, so
that streams which got mixed up show. The arithmetic is that of 64-bit words,
of which the lowest byte is sent.
-/
import StreamMux.Frame

namespace StreamMux.Load

/-- Byte `i` of the payload of stream number `seed`. -/
def payloadByte (seed i : Nat) : UInt8 :=
  ((i.toUInt64 * 31) ^^^ (seed.toUInt64 * 0x9E)).toUInt8

/-- The payload of stream number `seed`. -/
def payload (seed size : Nat) : Bytes := (List.range size).map (payloadByte seed)

end StreamMux.Load
