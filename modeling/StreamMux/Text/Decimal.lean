/-
Numbers in decimal digits with an upper bound, as addresses, URLs and arguments
hold them.
-/
namespace StreamMux.Text

/-- A number below `bound`; superfluous zeros in front only if `zeros` says so. -/
def decimal? (bound : Nat) (zeros : Bool) (cs : List Char) : Option Nat :=
  let n := cs.foldl (fun n c => 10 * n + (c.toNat - '0'.toNat)) 0
  if cs.isEmpty || !cs.all (·.isDigit) then none
  else if !zeros && cs.length > 1 && cs.head? = some '0' then none
  else if n < bound then some n
  else none

/-- A number below `bound`; one plus sign and any zeros may stand in front. -/
def unsigned? (bound : Nat) : List Char → Option Nat
  | '+' :: cs => decimal? bound true cs
  | cs => decimal? bound true cs

end StreamMux.Text
