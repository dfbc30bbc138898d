/-
Integers as TOML writes them. A decimal integer may have a sign and has no
superfluous zero in front; `0x`, `0o` and `0b` introduce unsigned digits of
another base. Between two digits there may be one underscore.
-/
namespace StreamMux.Config.Integer

/-- The value of a digit up to `f`, in either case. -/
def digitValue? (c : Char) : Option Nat :=
  if '0' ≤ c && c ≤ '9' then some (c.toNat - '0'.toNat)
  else if 'a' ≤ c && c ≤ 'f' then some (c.toNat - 'a'.toNat + 10)
  else if 'A' ≤ c && c ≤ 'F' then some (c.toNat - 'A'.toNat + 10)
  else none

/-- Reads the digits that follow a digit, with `acc` for what stands before. -/
def moreDigits (base : Nat) (acc : Nat) : List Char → Option Nat
  | [] => some acc
  | '_' :: c :: rest =>
    (digitValue? c).bind fun d => if d < base then moreDigits base (base * acc + d) rest else none
  | c :: rest =>
    (digitValue? c).bind fun d => if d < base then moreDigits base (base * acc + d) rest else none

/-- Reads one or more digits. -/
def digits (base : Nat) : List Char → Option Nat
  | [] => none
  | c :: rest => (digitValue? c).bind fun d => if d < base then moreDigits base d rest else none

/-- Reads decimal digits without a superfluous zero. -/
def decimal : List Char → Option Nat
  | ['0'] => some 0
  | '0' :: _ => none
  | cs => digits 10 cs

def parse : List Char → Option Int
  | '+' :: cs => (decimal cs).map Int.ofNat
  | '-' :: cs => (decimal cs).map fun n => -(n : Int)
  | '0' :: 'x' :: cs => (digits 16 cs).map Int.ofNat
  | '0' :: 'o' :: cs => (digits 8 cs).map Int.ofNat
  | '0' :: 'b' :: cs => (digits 2 cs).map Int.ofNat
  | cs => (decimal cs).map Int.ofNat

end StreamMux.Config.Integer
