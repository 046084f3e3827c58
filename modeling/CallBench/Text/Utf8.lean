/-
# Text from bytes

What the operating system hands over is bytes, which need not be UTF-8. Reading
them as text replaces each maximal part that cannot belong to a well-formed
sequence by one replacement character. The reader takes one byte at a time and
remembers the sequence it is in.
-/

namespace CallBench.Text

/-- A sequence of bytes that is well formed so far but not finished. -/
structure Sequence where
  /-- The bits read so far. -/
  bits : Nat
  /-- How many bytes are still to come. -/
  owed : Nat
  /-- The least and the greatest byte that may come next. -/
  least : UInt8
  greatest : UInt8

/-- Stands for what could not be read. -/
def replacement : Char :=
  '\uFFFD'

/-- The sequence that a byte of `0x80` or more opens, if it can open one. The
bounds on the second byte exclude overlong forms, surrogates and numbers beyond
the last code point. -/
def Sequence.open? (byte : UInt8) : Option Sequence :=
  if 0xC2 ≤ byte && byte ≤ 0xDF then some ⟨byte.toNat - 0xC0, 1, 0x80, 0xBF⟩
  else if byte == 0xE0 then some ⟨0, 2, 0xA0, 0xBF⟩
  else if byte == 0xED then some ⟨0xD, 2, 0x80, 0x9F⟩
  else if 0xE1 ≤ byte && byte ≤ 0xEF then some ⟨byte.toNat - 0xE0, 2, 0x80, 0xBF⟩
  else if byte == 0xF0 then some ⟨0, 3, 0x90, 0xBF⟩
  else if 0xF1 ≤ byte && byte ≤ 0xF3 then some ⟨byte.toNat - 0xF0, 3, 0x80, 0xBF⟩
  else if byte == 0xF4 then some ⟨4, 3, 0x80, 0x8F⟩
  else none

/-- What a byte outside any sequence gives: characters, and the sequence it opens. -/
def readFirst (byte : UInt8) : List Char × Option Sequence :=
  if byte < 0x80 then ([Char.ofNat byte.toNat], none)
  else match Sequence.open? byte with
    | some sequence => ([], some sequence)
    | none => ([replacement], none)

/-- What the next byte gives. A byte that cannot continue the sequence ends it
with a replacement character and is then read afresh. -/
def readNext (byte : UInt8) : Option Sequence → List Char × Option Sequence
  | none => readFirst byte
  | some sequence =>
      if sequence.least ≤ byte && byte ≤ sequence.greatest then
        let bits := sequence.bits * 64 + (byte.toNat - 0x80)
        if sequence.owed ≤ 1 then ([Char.ofNat bits], none)
        else ([], some ⟨bits, sequence.owed - 1, 0x80, 0xBF⟩)
      else
        let (chars, opened) := readFirst byte
        (replacement :: chars, opened)

/-- The characters of the bytes from within a sequence on. -/
def readBytes : Option Sequence → List UInt8 → List Char
  | none, [] => []
  | some _, [] => [replacement]
  | pending, byte :: rest =>
      let (chars, pending) := readNext byte pending
      chars ++ readBytes pending rest

/-- Bytes as text, with replacement characters for what is not UTF-8. -/
def decodeLossy (bytes : List UInt8) : String :=
  .ofList (readBytes none bytes)

/-- The bytes of a text. -/
def encode (text : String) : List UInt8 :=
  text.toUTF8.toList

/-- Bytes as text, if they are UTF-8 throughout. -/
def decode? (bytes : List UInt8) : Option String :=
  let text := decodeLossy bytes
  if encode text = bytes then some text else none

end CallBench.Text
