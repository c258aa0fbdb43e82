/-!
Decimal numbers as digits and a power of ten.
-/

namespace Architecture.Data

def digitsValue (cs : List Char) : Nat :=
  cs.foldl (fun n c => n * 10 + (c.toNat - '0'.toNat)) 0

/-- The value of an exponent's digits; one with more than nine digits is beyond every use. -/
def exponentValue (cs : List Char) : Nat :=
  if 9 < (cs.dropWhile (· = '0')).length then 1000000000 else digitsValue cs

/-- Halfway between the largest number in double precision and the next one there would be. -/
def doubleLimit : Nat := Nat.pow 2 1024 - Nat.pow 2 970

/-- Whether `m · 10^e` is too large for double precision. -/
def exceedsDouble (m : Nat) (e : Int) : Bool :=
  if m = 0 then false
  else
    let magnitude := (Nat.toDigits 10 m).length + e
    if magnitude < 300 then false
    else if 400 < magnitude then true
    else if 0 ≤ e then doubleLimit ≤ m * Nat.pow 10 e.toNat
    else doubleLimit * Nat.pow 10 (-e).toNat ≤ m

end Architecture.Data
