/-!
The shortest decimal that reads back as a given binary number. A number `m · 2^q` stands for the
interval of reals that round to it; of the decimal grids, from the coarsest on, the first with a
point in that interval gives the fewest digits, and of its points the one nearest the number wins.
-/

namespace CallBridge.Decimal

/-- A positive binary number `mantissa · 2^exponent`. `coarse` says that the next smaller number is
only half as far away as the next larger one. -/
structure Binary where
  mantissa : Nat
  exponent : Int
  coarse : Bool
deriving DecidableEq, Repr

/-- The decimal `digits · 10^exponent`. -/
structure Scaled where
  digits : Nat
  exponent : Int
deriving DecidableEq, Repr

namespace Binary

/-- Whether `n · unit` lies in the interval of the number, both sides scaled by `scale` quarters of
the last place. The ends belong to an even mantissa. -/
def covers (b : Binary) (scale unit n : Nat) : Bool :=
  let low := (4 * b.mantissa - if b.coarse then 1 else 2) * scale
  let high := (4 * b.mantissa + 2) * scale
  if b.mantissa % 2 = 0 then low ≤ n * unit && n * unit ≤ high
  else low < n * unit && n * unit < high

/-- The point nearest the number on the grid of multiples of `10^p`, if one is in its interval. Of
two points equally near, the larger is taken. -/
def onGrid? (b : Binary) (p : Int) : Option Nat :=
  let s := b.exponent - 2
  let scale := Nat.pow 2 s.toNat * Nat.pow 10 (-p).toNat
  let unit := Nat.pow 2 (-s).toNat * Nat.pow 10 p.toNat
  let exact := 4 * b.mantissa * scale
  let below := exact / unit
  let upIsNearer := (below + 1) * unit - exact ≤ exact - below * unit
  match b.covers scale unit below, b.covers scale unit (below + 1) with
  | true, true => some (if upIsNearer then below + 1 else below)
  | true, false => some below
  | false, true => some (below + 1)
  | false, false => none

/-- Search `tries` grids, each ten times finer than the one before it. -/
def firstGrid? (b : Binary) : (tries : Nat) → (p : Int) → Option Scaled
  | 0, _ => none
  | tries + 1, p =>
    match b.onGrid? p with
    | some n => some { digits := n, exponent := p }
    | none => b.firstGrid? tries (p - 1)

/-- Exponent of a grid on which the number is smaller than one: since `3 · log₂ 10` is below ten,
three tenths of the number of bits, and one more for rounding and sign. -/
def topGrid (b : Binary) : Int :=
  let bits : Int := b.exponent + b.mantissa.log2 + 1
  if 0 ≤ bits then bits * 302 / 1000 + 1 else bits * 301 / 1000 + 1

/-- The shortest decimal of the number. Seventeen digits always suffice for 53 bits of mantissa. -/
def shortest (b : Binary) : Scaled :=
  (b.firstGrid? 24 b.topGrid).getD { digits := b.mantissa, exponent := 0 }

end Binary

end CallBridge.Decimal
