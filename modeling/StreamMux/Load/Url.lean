/-
URLs that name a host, `scheme://user@host:port/path?query`, taken apart as far
as a client needs it. Reading one is strict about which characters may stand
where, and lenient about what they mean: the host is not looked up, and a port
may have zeros or a plus sign in front.
-/
import StreamMux.Text.Decimal

namespace StreamMux.Load

structure Url where
  scheme : Option String
  /-- User, host and port as they are written; not empty. -/
  authority : List Char
  /-- Path and query, as a server is asked for them. -/
  target : List Char
deriving DecidableEq, Repr

namespace Url

/-- Most bytes a URL may have. -/
def lengthLimit : Nat := 65534

def isSchemeChar (c : Char) : Bool := c.isAlphanum || c == '+' || c == '-' || c == '.'

/-- Whether the authority ends before the character. -/
def endsAuthority (c : Char) : Bool := c == '/' || c == '?' || c == '#'

/-- Characters that stand for themselves anywhere in an authority. -/
def isPlain (c : Char) : Bool := c.isAlphanum || "!$&'()*+,-.;=_~".toList.contains c

def isPathChar (c : Char) : Bool :=
  let n := c.toNat
  n == 0x21 || n == 0x22 || (0x24 ≤ n && n ≤ 0x3B) || n == 0x3D ||
    (0x40 ≤ n && n ≤ 0x5F) || 0x61 ≤ n

def isQueryChar (c : Char) : Bool :=
  let n := c.toNat
  n == 0x21 || (0x24 ≤ n && n ≤ 0x3B) || n == 0x3D || 0x3F ≤ n

/-- What has to be remembered while an authority is read from left to right. -/
structure Scan where
  /-- Colons since the last name or bracketed host ended. -/
  colons : Nat
  /-- A percent sign was read since then. -/
  percent : Bool
  opened : Bool
  closed : Bool

/-- One character further; `none` if it may not stand there. A percent sign is
for names of users, and a host is put into brackets at most once. -/
def Scan.next (s : Scan) (c : Char) : Option Scan :=
  match c with
  | ':' => if s.colons < 8 then some { s with colons := s.colons + 1 } else none
  | '@' => some { s with colons := 0, percent := false }
  | '%' => some { s with percent := true }
  | '[' => if s.percent || s.opened then none else some { s with opened := true }
  | ']' =>
    if s.opened && !s.closed then some { s with colons := 0, percent := false, closed := true }
    else none
  | c => if isPlain c then some s else none

/-- Whether the text can be an authority: behind the host at most one colon is
left, and there is a host. -/
def isAuthority (cs : List Char) : Bool :=
  match cs.foldlM Scan.next ⟨0, false, false, false⟩ with
  | none => false
  | some s =>
    !cs.isEmpty && cs.getLast? != some '@' && s.colons ≤ 1 && !s.percent && s.opened == s.closed

/-- Splits off the scheme, if there is one; `none` if it is too long. -/
def splitScheme (cs : List Char) : Option (Option String × List Char) :=
  let name := cs.takeWhile isSchemeChar
  match cs.dropWhile isSchemeChar with
  | ':' :: '/' :: '/' :: rest =>
    if name.length ≤ 64 then some (some (String.ofList name), rest) else none
  | _ => some (none, cs)

/-- Path and query of what follows an authority; the rest behind `#` is not
looked at. -/
def target? (cs : List Char) : Option (List Char) :=
  let shown := cs.takeWhile (· != '#')
  let path := shown.takeWhile (· != '?')
  let query := (shown.dropWhile (· != '?')).drop 1
  if !path.all isPathChar || !query.all isQueryChar then none
  else if shown.isEmpty then some ['/']
  else some shown

/-- Reads a URL. Without a scheme it is nothing but an authority. -/
def parse? (text : String) : Option Url :=
  if lengthLimit < text.utf8ByteSize then none
  else do
    let (scheme, rest) ← splitScheme text.toList
    let authority := rest.takeWhile (!endsAuthority ·)
    let behind := rest.dropWhile (!endsAuthority ·)
    let target ← target? behind
    if !isAuthority authority || (scheme.isNone && !behind.isEmpty) then none
    else some { scheme, authority, target }

/-- What stands behind the last `sep`, or everything. -/
def lastPart (sep : Char) (cs : List Char) : List Char :=
  (cs.reverse.takeWhile (· != sep)).reverse

/-- The host, in brackets if it is written so. -/
def host (u : Url) : String :=
  let place := lastPart '@' u.authority
  String.ofList (match place with
    | '[' :: _ => place.takeWhile (· != ']') ++ [']']
    | _ => place.takeWhile (· != ':'))

/-- The port that is given or goes with the scheme. -/
def port? (u : Url) : Option Nat :=
  let given :=
    if u.authority.contains ':' then Text.unsigned? 65536 (lastPart ':' u.authority) else none
  match given, u.scheme with
  | some n, _ => some n
  | none, some "ws" => some 80
  | none, some "wss" => some 443
  | none, _ => none

end Url
end StreamMux.Load
