/-
# Cutting encoded text

Encoded text is cut at offsets into its bytes. A cut is refused where it would tear a
character apart, where it lies outside the text, and where its end lies before its start;
so is a difference of lengths that would be negative. A program that makes such a cut is
stopped by it, which a refusal stands for.
-/

namespace CallBench.Text

/-- Whether a byte goes on with a character that an earlier byte has begun. -/
def continues (byte : UInt8) : Bool :=
  0x80 ≤ byte && byte < 0xC0

/-- Whether text may be cut at an offset: at its end, or in front of a byte that begins
a character. -/
def isBoundary (bytes : List UInt8) (offset : Nat) : Bool :=
  match bytes[offset]? with
  | some byte => !continues byte
  | none => offset == bytes.length

/-- The bytes from one offset up to another, unless the cut is refused. -/
def slice? (bytes : List UInt8) (start finish : Nat) : Option (List UInt8) :=
  if start ≤ finish ∧ isBoundary bytes start ∧ isBoundary bytes finish then
    some ((bytes.take finish).drop start)
  else none

/-- The difference of two lengths or offsets, unless it is negative. -/
def minus? (first second : Nat) : Option Nat :=
  if second ≤ first then some (first - second) else none

end CallBench.Text
