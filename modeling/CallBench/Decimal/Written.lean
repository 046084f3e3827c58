/-
# Written decimals

Two ways to write a floating-point number with its shortest digits. The report
writes plain decimals: always positional and without a point when the number is
whole. The log writes marked decimals: they always show that the number is not an
integer, and very large or small ones have an exponent.
-/

import CallBench.Decimal.Shortest

namespace CallBench.Decimal

/-- Decimal digits as text. -/
def digitText (digits : List Nat) : String :=
  .ofList (digits.map fun digit => Char.ofNat ('0'.toNat + digit))

/-- So many zeros. -/
def zeros (count : Nat) : List Nat :=
  List.replicate count 0

/-- A decimal in positional notation: the digits before the point and those after
it. At least one digit stands before the point. -/
def Digits.positional (decimal : Digits) : List Nat × List Nat :=
  let count := decimal.digits.length
  if decimal.point ≤ 0 then ([0], zeros (-decimal.point).toNat ++ decimal.digits)
  else
    let split := decimal.point.toNat
    (decimal.digits.take split ++ zeros (split - count), decimal.digits.drop split)

/-- A decimal in exponent notation, with one digit before the point. -/
def Digits.scientific (decimal : Digits) : String :=
  let fraction := decimal.digits.drop 1
  digitText (decimal.digits.take 1) ++ (if fraction.isEmpty then "" else "." ++ digitText fraction) ++
    "e" ++ toString (decimal.point - 1)

/-- Whether a number has a minus sign, be it zero or not. -/
def isNegative (x : Float) : Bool :=
  twoTo 63 ≤ x.toBits.toNat

/-- A sign, and a finite number by its parts before and after the point. -/
def positionalText (x : Float) (wholeEnding : String) : String :=
  let (whole, fraction) := if x == 0 then ([0], []) else (shortest x.abs).positional
  (if isNegative x then "-" else "") ++ digitText whole ++
    if fraction.isEmpty then wholeEnding else "." ++ digitText fraction

/-- A number with its shortest digits, never with an exponent. -/
def plain (x : Float) : String :=
  if x.isNaN then "NaN"
  else if x.isInf then (if isNegative x then "-inf" else "inf")
  else positionalText x ""

/-- A number with its shortest digits, with `.0` when it is whole and with an
exponent below one ten-thousandth and from ten quadrillions on. -/
def marked (x : Float) : String :=
  if x.isNaN then "NaN"
  else if x.isInf then (if isNegative x then "-inf" else "inf")
  else if x != 0 && (x.abs < 1e-4 || 1e16 ≤ x.abs) then
    (if isNegative x then "-" else "") ++ (shortest x.abs).scientific
  else positionalText x ".0"

/-- The number of a digit list. -/
def valueOf (digits : List Char) : Nat :=
  digits.foldl (fun value c => 10 * value + (c.toNat - '0'.toNat)) 0

/-- Reads digits, optionally followed by a point and further digits. -/
def read? (text : List Char) : Option Float :=
  let whole := text.takeWhile Char.isDigit
  match whole, text.dropWhile Char.isDigit with
  | [], _ => none
  | _, [] => some (.ofScientific (valueOf whole) true 0)
  | _, '.' :: fraction =>
      if fraction.isEmpty || !fraction.all Char.isDigit then none
      else some (.ofScientific (valueOf (whole ++ fraction)) true fraction.length)
  | _, _ => none

/-- Whether a text is the plain form of some finite number that is not negative. -/
def isPlain (text : List Char) : Bool :=
  match read? text with
  | some x => !x.isInf && (plain x).toList == text
  | none => false

end CallBench.Decimal
