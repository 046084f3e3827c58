/-
# Quoted text

A text is shown between double quotes. The quote and the backslash get a
backslash; tab, line feed, carriage return and the null character have short
forms; what has no shape of its own, or attaches itself to the character before
it, is written as its code point in hexadecimal. All else stands for itself.
-/

import CallBench.Text.Printable

namespace CallBench.Text

/-- The short form of a character that has one. -/
def shortEscape : Char → Option (List Char)
  | '"' => some ['\\', '"']
  | '\\' => some ['\\', '\\']
  | '\t' => some ['\\', 't']
  | '\n' => some ['\\', 'n']
  | '\r' => some ['\\', 'r']
  | '\x00' => some ['\\', '0']
  | _ => none

/-- The code point of a character, as `u` and hexadecimal digits in braces after
a backslash. -/
def codePointEscape (c : Char) : List Char :=
  ['\\', 'u', '\x7b'] ++ Nat.toDigits 16 c.toNat ++ ['\x7d']

/-- How a character is written between quotes. -/
def escapeChar (c : Char) : List Char :=
  match shortEscape c with
  | some short => short
  | none => if isExtending c || !isPrintable c then codePointEscape c else [c]

/-- A text between double quotes. -/
def quoted (text : String) : String :=
  .ofList ('"' :: text.toList.flatMap escapeChar ++ ['"'])

end CallBench.Text
