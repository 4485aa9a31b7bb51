/-
  The shortest decimal that reads back as a given double. A finite double is `m × 2 ^ e`; the
  reals that round to it form an interval around it, closed when `m` is even (ties go to the even
  neighbour). Walking the decimal grids from coarse to fine, the first grid with a point in that
  interval gives the fewest significant digits; of the value's two neighbours on that grid the
  nearer wins, and an exact tie goes to the even digit string. All comparisons are exact
  arithmetic on naturals.
-/

namespace ArrayBridge

/-- A finite double taken apart: its value is `(-1) ^ negative × mantissa × 2 ^ exponent`. -/
structure Binary where
  negative : Bool
  mantissa : Nat
  exponent : Int
  /-- The next smaller double is half as far away as the next larger one. -/
  narrowBelow : Bool
  deriving Repr

/-- A decimal `(-1) ^ negative × digits × 10 ^ exponent`. -/
structure Decimal where
  negative : Bool
  digits : Nat
  exponent : Int
  deriving Repr, DecidableEq

namespace Binary

/-- The parts of a finite double; `none` for NaN and the infinities. -/
def ofFloat? (x : Float) : Option Binary :=
  let bits : Nat := x.toBits.toNat
  let negative : Bool := bits / 9223372036854775808 % 2 == 1
  let biased : Nat := bits / 4503599627370496 % 2048
  let fraction : Nat := bits % 4503599627370496
  if biased == 2047 then none
  else if biased == 0 then some ⟨negative, fraction, -1074, false⟩
  else some ⟨negative, fraction + 4503599627370496, (biased : Int) - 1075,
    fraction == 0 && decide (biased > 1)⟩

end Binary

/-- `2 ^ n` for a non-negative `n`, and 1 otherwise. -/
private def pow2 (n : Int) : Nat := Nat.pow 2 n.toNat

/-- `10 ^ n` for a non-negative `n`, and 1 otherwise. -/
private def pow10 (n : Int) : Nat := Nat.pow 10 n.toNat

/-- `⌊log10 n⌋` for a positive `n`, and 0 for 0. -/
def log10 (n : Nat) : Nat :=
  if h : n < 10 then 0 else log10 (n / 10) + 1
termination_by n
decreasing_by omega

/-- The least `j` with `10 ^ j ≥ r`. -/
private def digitsToReach (r : Nat) : Nat :=
  if r ≤ 1 then 0 else log10 (r - 1) + 1

/-- `⌊log10 (num / den)⌋` for a positive fraction. -/
def floorLog10 (num den : Nat) : Int :=
  if den ≤ num then (log10 (num / den) : Int)
  else -((digitsToReach ((den + num - 1) / num) : Nat) : Int)

/-- Drop the trailing zeros of a digit string, raising the exponent to match. -/
def Decimal.normalize (d : Decimal) : Decimal :=
  if _h : d.digits ≠ 0 ∧ d.digits % 10 = 0 then
    Decimal.normalize { d with digits := d.digits / 10, exponent := d.exponent + 1 }
  else d
termination_by d.digits
decreasing_by exact Nat.div_lt_self (Nat.pos_of_ne_zero _h.1) (by decide)

namespace Binary

/-- The value and the ends of its rounding interval, all over one common denominator. -/
structure Scaled where
  value : Nat
  low : Nat
  high : Nat
  den : Nat
  closed : Bool

/-- The rounding interval of a double with a positive mantissa. -/
def scaled (b : Binary) : Scaled :=
  let up := pow2 b.exponent
  let lowGap := if b.narrowBelow then 1 else 2
  { value := 4 * b.mantissa * up
    low := (4 * b.mantissa - lowGap) * up
    high := (4 * b.mantissa + 2) * up
    den := 4 * pow2 (-b.exponent)
    closed := b.mantissa % 2 == 0 }

/-- `c × 10 ^ k` over the denominator `s.den`, and the factor the other side needs. -/
private def onGrid (s : Scaled) (c : Nat) (k : Int) : Nat × Nat :=
  if 0 ≤ k then (c * pow10 k * s.den, 1) else (c * s.den, pow10 (-k))

/-- Whether `c × 10 ^ k` reads back as the double. -/
def Scaled.admits (s : Scaled) (c : Nat) (k : Int) : Bool :=
  let (x, f) := onGrid s c k
  let lowOk := if s.closed then s.low * f ≤ x else s.low * f < x
  let highOk := if s.closed then x ≤ s.high * f else x < s.high * f
  lowOk && highOk

/-- The grid point `⌊value / 10 ^ k⌋`. -/
def Scaled.floorAt (s : Scaled) (k : Int) : Nat :=
  if 0 ≤ k then s.value / (s.den * pow10 k) else s.value * pow10 (-k) / s.den

/-- The distance from the value to `c × 10 ^ k`, scaled by `s.den × 10 ^ (-k)`. -/
def Scaled.distance (s : Scaled) (c : Nat) (k : Int) : Nat :=
  let (x, f) := onGrid s c k
  let v := s.value * f
  if x ≤ v then v - x else x - v

/-- The grid point of grid `k` chosen for the double, if the grid has one that reads back. -/
def Scaled.pick (s : Scaled) (k : Int) : Option Nat :=
  let lo := s.floorAt k
  let hi := lo + 1
  match s.admits lo k, s.admits hi k with
  | true, true =>
    let dl := s.distance lo k
    let dh := s.distance hi k
    if dl < dh then some lo else if dh < dl then some hi
    else if lo % 2 == 0 then some lo else some hi
  | true, false => some lo
  | false, true => some hi
  | false, false => none

/-- The shortest decimal that reads back as the double, nearest among the shortest. -/
def shortest (b : Binary) : Decimal :=
  if b.mantissa = 0 then ⟨b.negative, 0, 0⟩
  else
    let s := b.scaled
    let p := floorLog10 s.value s.den
    let grids : List Int := (List.range 20).map (fun (i : Nat) => p + 1 - Int.ofNat i)
    match grids.findSome? (fun k => (s.pick k).map (fun c => (c, k))) with
    | some (c, k) => ArrayBridge.Decimal.normalize { negative := b.negative, digits := c, exponent := k }
    | none => ⟨b.negative, b.mantissa, 0⟩

end Binary

end ArrayBridge
