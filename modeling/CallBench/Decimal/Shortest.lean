/-
# Shortest decimals

A binary floating-point number stands for all reals that round to it. Its shortest
decimal is the one with the fewest digits in that interval and, of those, the one
nearest to the number itself. The interval contains its ends exactly when the
mantissa is even, because ties round to even.

The search looks at one digit count after the other. On the grid of decimals with
`n` digits only the two neighbours of the number need to be tested, since the
interval contains the number and has no gaps.
-/

namespace CallBench.Decimal

/-- A power of two. -/
def twoTo (exponent : Nat) : Nat :=
  1 <<< exponent

/-- A power of ten. -/
def tenTo (exponent : Nat) : Nat :=
  Nat.pow 10 exponent

/-- The positive number `mantissa * 2 ^ exponent / 2 ^ 1074`. Every positive finite
double has this form. -/
structure Binary where
  mantissa : Nat
  exponent : Nat

/-- The digits of a positive decimal: `0.d₁d₂…dₙ * 10 ^ point`. -/
structure Digits where
  digits : List Nat
  point : Int

/-- Four times the denominator that all doubles have in common: halves and quarters of
the spacing of doubles are whole numbers over it. -/
def quarters : Nat :=
  4 * twoTo 1074

/-- A positive finite double, taken apart. The smallest normal number has the same
spacing below it as the subnormal ones. -/
def Binary.ofFloat (x : Float) : Binary :=
  let bits := x.toBits.toNat
  let fraction := bits % twoTo 52
  let biased := bits / twoTo 52 % twoTo 11
  if biased = 0 then ⟨fraction, 0⟩ else ⟨fraction + twoTo 52, biased - 1⟩

namespace Binary

/-- The number, as a numerator over `quarters`. -/
def quadruple (x : Binary) : Nat :=
  4 * x.mantissa * twoTo x.exponent

/-- How far the interval reaches above the number, over `quarters`. -/
def above (x : Binary) : Nat :=
  2 * twoTo x.exponent

/-- How far the interval reaches below the number, over `quarters`. Below a
power of two the spacing is half as wide, unless the number is the smallest
normal one. -/
def below (x : Binary) : Nat :=
  if x.mantissa = twoTo 52 ∧ 0 < x.exponent then twoTo x.exponent else 2 * twoTo x.exponent

/-- Whether `numerator / (quarters * scale)` rounds to the number. -/
def absorbs (x : Binary) (numerator scale : Nat) : Bool :=
  let low := (x.quadruple - x.below) * scale
  let high := (x.quadruple + x.above) * scale
  if x.mantissa % 2 = 0 then low ≤ numerator && numerator ≤ high
  else low < numerator && numerator < high

end Binary

/-- The number of decimal digits. -/
def digitCount (n : Nat) : Nat :=
  (Nat.toDigits 10 n).length

/-- The decimal magnitude of `numerator / denominator`: the `k` for which the
fraction lies between `10 ^ (k - 1)` and `10 ^ k`. No positive double is below
`10 ^ -400`, so scaling by `10 ^ 400` makes all of them whole. -/
def magnitude (numerator denominator : Nat) : Int :=
  (digitCount (numerator * tenTo 400 / denominator) : Int) - 400

/-- The multiples of a power of ten around a number. -/
structure Grid where
  /-- The greatest multiple that does not exceed the number. -/
  lower : Nat
  /-- The power of ten, over `quarters * scale`. -/
  unit : Nat
  /-- What numerator and denominator are multiplied by, to make the power whole. -/
  scale : Nat

/-- The grid of multiples of `10 ^ place` around a number. -/
def Grid.around (x : Binary) (place : Int) : Grid :=
  let scale := tenTo (-place).toNat
  let unit := quarters * tenTo place.toNat
  ⟨x.quadruple * scale / unit, unit, scale⟩

/-- The decimal on the grid that rounds to the number and is nearest to it; of two
equally near ones the upper. -/
def Grid.hit (x : Binary) (grid : Grid) : Option Nat :=
  let lower := grid.lower * grid.unit
  let upper := (grid.lower + 1) * grid.unit
  let value := x.quadruple * grid.scale
  match x.absorbs lower grid.scale, x.absorbs upper grid.scale with
  | true, true => some (if value - lower < upper - value then grid.lower else grid.lower + 1)
  | true, false => some grid.lower
  | false, true => some (grid.lower + 1)
  | false, false => none

/-- The first hit on grids of `count`, `count + 1`, … digits, with its place. -/
def search (x : Binary) (size : Int) : (fuel count : Nat) → Option (Nat × Int)
  | 0, _ => none
  | fuel + 1, count =>
      let place := size - count
      match Grid.hit x (Grid.around x place) with
      | some multiple => some (multiple, place)
      | none => search x size fuel (count + 1)

/-- The decimal digits of a number, highest first. -/
def digitsOf (n : Nat) : List Nat :=
  (Nat.toDigits 10 n).map fun c => c.toNat - '0'.toNat

/-- A digit list without the zeros at its end. -/
def stripZeros (digits : List Nat) : List Nat :=
  (digits.reverse.dropWhile (· == 0)).reverse

/-- The shortest decimal of a positive finite double. Seventeen digits always
suffice. -/
def shortest (x : Float) : Digits :=
  let binary := Binary.ofFloat x
  let size := magnitude binary.quadruple quarters
  match search binary size 17 1 with
  | some (multiple, place) =>
      let digits := digitsOf multiple
      ⟨stripZeros digits, digits.length + place⟩
  | none => ⟨[], 0⟩

end CallBench.Decimal
