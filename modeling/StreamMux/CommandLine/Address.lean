/-
Socket addresses in the usual notation, `192.0.2.1:80` and `[2001:db8::1]:80`,
and the form in which they are shown: octets and port without superfluous
zeros, and the longest run of two or more zero groups, the first of equally
long ones, as `::`.
-/
import StreamMux.Text.Decimal

namespace StreamMux.CommandLine

inductive Address
  | v4 (octets : List Nat) (port : Nat)
  /-- Eight groups of 16 bits. -/
  | v6 (groups : List Nat) (scope port : Nat)
deriving DecidableEq, Repr

namespace Address

/-- Splits at every `sep`. -/
def splitAt (sep : Char) : List Char → List (List Char)
  | [] => [[]]
  | c :: rest =>
    if c = sep then [] :: splitAt sep rest
    else match splitAt sep rest with
      | part :: parts => (c :: part) :: parts
      | [] => [[c]]

def octets? (cs : List Char) : Option (List Nat) :=
  match splitAt '.' cs with
  | [a, b, c, d] => [a, b, c, d].mapM (Text.decimal? 256 false)
  | _ => none

def hexDigit? (c : Char) : Option Nat :=
  if c.isDigit then some (c.toNat - '0'.toNat)
  else if 'a' ≤ c && c ≤ 'f' then some (c.toNat - 'a'.toNat + 10)
  else if 'A' ≤ c && c ≤ 'F' then some (c.toNat - 'A'.toNat + 10)
  else none

/-- One to four hexadecimal digits. -/
def group? (cs : List Char) : Option Nat :=
  if cs.isEmpty || cs.length > 4 then none
  else cs.foldlM (fun n c => (hexDigit? c).map (16 * n + ·)) 0

/-- Groups separated by colons; the last two may be written as four octets. -/
def groups? (cs : List Char) : Option (List Nat) :=
  let parts := splitAt ':' cs
  match parts.getLast? with
  | none => none
  | some last =>
    match octets? last with
    | some [a, b, c, d] =>
      (parts.dropLast.mapM group?).map (· ++ [256 * a + b, 256 * c + d])
    | _ => parts.mapM group?

/-- Where `::` stands: what is before it and what is after it. -/
def splitGap : List Char → Option (List Char × List Char)
  | ':' :: ':' :: rest => some ([], rest)
  | c :: rest => (splitGap rest).map fun (a, b) => (c :: a, b)
  | [] => none

/-- The eight groups of a version 6 address. -/
def allGroups? (cs : List Char) : Option (List Nat) :=
  let part (cs : List Char) : Option (List Nat) := if cs.isEmpty then some [] else groups? cs
  match splitGap cs with
  | none => (groups? cs).filter (·.length == 8)
  | some (before, after) => do
    let a ← part before
    let b ← part after
    if before.contains '.' || a.length + b.length > 7 then none
    else some (a ++ List.replicate (8 - a.length - b.length) 0 ++ b)

/-- Reads an address with its port. -/
def parse? (text : String) : Option Address :=
  match text.toList with
  | '[' :: rest =>
    let inside := rest.takeWhile (· != ']')
    match rest.dropWhile (· != ']') with
    | ']' :: ':' :: port => do
      let port ← Text.decimal? 65536 true port
      let host := inside.takeWhile (· != '%')
      let scope ← match inside.dropWhile (· != '%') with
        | [] => some 0
        | _ :: scope => Text.decimal? UInt32.size true scope
      let groups ← allGroups? host
      return .v6 groups scope port
    | _ => none
  | cs => do
    let host := cs.takeWhile (· != ':')
    let port ← match cs.dropWhile (· != ':') with
      | _ :: port => Text.decimal? 65536 true port
      | [] => none
    let octets ← octets? host
    return .v4 octets port

/-- Hexadecimal digits of a group, without superfluous zeros. -/
def showGroup (n : Nat) : String := String.ofList (Nat.toDigits 16 n)

/-- The first longest run of zeros: where it starts and how long it is. -/
def longestGap (groups : List Nat) : Nat × Nat :=
  (List.range groups.length).foldl (fun best start =>
    let run := ((groups.drop start).takeWhile (· == 0)).length
    if run > best.2 then (start, run) else best) (0, 0)

/-- The notation of eight groups. -/
def showGroups (groups : List Nat) : String :=
  match groups with
  | [0, 0, 0, 0, 0, 0xffff, x, y] =>
    s!"::ffff:{x / 256}.{x % 256}.{y / 256}.{y % 256}"
  | _ =>
    let join (gs : List Nat) : String := ":".intercalate (gs.map showGroup)
    let (start, run) := longestGap groups
    if run > 1 then
      join (groups.take start) ++ "::" ++ join (groups.drop (start + run))
    else join groups

def text : Address → String
  | v4 octets port =>
    let host := ".".intercalate (octets.map toString)
    s!"{host}:{port}"
  | v6 groups 0 port => s!"[{showGroups groups}]:{port}"
  | v6 groups scope port => s!"[{showGroups groups}%{scope}]:{port}"

/-- Whether a version 4 address can be listened on: it is a loopback of this
machine, stands for all its addresses, or is shared by many machines, as that
of a group and the broadcast address are. -/
def isLocalV4 (octets : List Nat) : Bool :=
  octets.head?.any (fun a => a = 127 || (224 ≤ a && a ≤ 239)) || octets.all (· == 0) ||
    octets.all (· == 255)

/-- Whether the address can be listened on. Those of version 4 may be written
as addresses of version 6. -/
def isLocal : Address → Bool
  | v4 octets _ => isLocalV4 octets
  | v6 [0, 0, 0, 0, 0, 0xffff, x, y] _ _ => isLocalV4 [x / 256, x % 256, y / 256, y % 256]
  | v6 groups _ _ => groups.dropLast.all (· == 0) && groups.getLast?.all (· ≤ 1)

end Address
end StreamMux.CommandLine
