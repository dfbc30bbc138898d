/-
How a client comes to a connection with the relay. It finds the relay at the
address that the URL names, and then asks for a WebSocket. If it cannot ask, or
the relay cannot read what it asks, both give up, and the relay knows why.
-/
import StreamMux.Load.Url

namespace StreamMux.Load

/-- Why a relay does not set up a WebSocket for a client that has reached it. -/
inductive HandshakeFault
  /-- The client went away without asking. -/
  | unfinished
  /-- A character of the target has no place in a request. -/
  | badToken
  /-- The target does not begin with a path. -/
  | noPath
  /-- The target is a lone question mark. -/
  | emptyQuery
deriving DecidableEq, Repr

/-- The error with the errors behind it. -/
def HandshakeFault.message : HandshakeFault → String
  | unfinished => "WebSocket protocol error: Handshake not finished: Handshake not finished"
  | badToken =>
    "WebSocket protocol error: httparse error: invalid token: httparse error: invalid token: " ++
      "invalid token"
  | noPath => "HTTP format error: invalid format: invalid format"
  | emptyQuery => "HTTP format error: invalid uri character: invalid uri character"

/-- How far a client gets. -/
inductive Approach
  /-- It does not reach the relay. -/
  | nowhere
  | rejected (why : HandshakeFault)
  | connected
deriving DecidableEq, Repr

/-- Where relays listen. -/
def relayHost : String := "127.0.0.1"

def relayPort : Nat := 9400

/-- What is wrong with a target, if anything is. -/
def targetFault? (target : List Char) : Option HandshakeFault :=
  if target.any (·.toNat == 0x7F) then some .badToken
  else match target with
    | ['?'] => some .emptyQuery
    | '?' :: _ => some .noPath
    | _ => none

/-- How far a client gets that is sent to this URL. -/
def approach (url : String) : Approach :=
  match Url.parse? url with
  | none => .nowhere
  | some u =>
    if u.host ≠ relayHost || u.port? ≠ some relayPort then .nowhere
    else if u.scheme ≠ some "ws" then .rejected .unfinished
    else match targetFault? u.target with
      | some why => .rejected why
      | none => .connected

end StreamMux.Load
