/-
# Characters and their bytes

A text is encoded character by character. A byte below 0x80 is a character of its own; every
other character has a first byte of 0xC0 or more and continues with bytes between the two. So
the bytes alone tell where characters begin, and the byte of an ASCII character occurs nowhere
within another one. The reader of bytes takes in what the encoding has written, character by
character, and whatever follows after that: a text is read back from its bytes, and bytes that
begin like those of a text belong to a text that begins like it.
-/

import CallBench.Text.Slice
import CallBench.Text.Utf8

namespace CallBench.Text

/-- The bytes of characters. -/
def encodeChars (chars : List Char) : List UInt8 :=
  chars.flatMap String.utf8EncodeChar

theorem encodeChars_cons (c : Char) (chars : List Char) :
    encodeChars (c :: chars) = String.utf8EncodeChar c ++ encodeChars chars :=
  List.flatMap_cons

theorem encodeChars_append (first second : List Char) :
    encodeChars (first ++ second) = encodeChars first ++ encodeChars second :=
  List.flatMap_append

theorem toList_eq_data_toList (bytes : ByteArray) : bytes.toList = bytes.data.toList := by
  have hloop (start : Nat) (read : List UInt8) :
      ByteArray.toList.loop bytes start read =
        read.reverse ++ bytes.data.toList.drop start := by
    fun_induction ByteArray.toList.loop bytes start read with
    | case1 start read hlt ih =>
        have hstart : start < bytes.data.toList.length := by simpa using hlt
        rw [ih, List.drop_eq_getElem_cons hstart]
        simp [ByteArray.get!, hlt]
    | case2 start read hle =>
        rw [List.drop_eq_nil_of_le (by simpa using Nat.le_of_not_lt hle), List.append_nil]
  exact hloop 0 []

theorem encode_eq (text : String) : encode text = encodeChars text.toList := by
  rw [encode, String.toUTF8_eq_toByteArray, ← String.utf8Encode_toList, toList_eq_data_toList,
    List.utf8Encode, List.data_toByteArray, encodeChars]

theorem toNat_ofNat_of_lt {number : Nat} (h : number < 256) :
    (UInt8.ofNat number).toNat = number :=
  UInt8.toNat_ofNat_of_lt' h

theorem continues_iff {byte : UInt8} :
    continues byte = true ↔ 0x80 ≤ byte.toNat ∧ byte.toNat < 0xC0 := by
  simp [continues, UInt8.le_iff_toNat_le, UInt8.lt_iff_toNat_lt]

/-- A byte that carries six bits continues a character. -/
theorem continues_ofNat (number : Nat) : continues (.ofNat (number % 0x40 + 0x80)) = true := by
  rw [continues_iff, toNat_ofNat_of_lt (by omega)]
  omega

/-- A character begins with a byte that continues none, and all its other bytes do. -/
theorem exists_utf8EncodeChar (c : Char) :
    ∃ first later, String.utf8EncodeChar c = first :: later ∧ continues first = false ∧
      ∀ byte ∈ later, continues byte = true := by
  have begins {number : Nat} (hlt : number < 256) (hfar : number < 0x80 ∨ 0xC0 ≤ number) :
      continues (.ofNat number) = false := by
    rw [Bool.eq_false_iff, Ne, continues_iff, toNat_ofNat_of_lt hlt]
    omega
  fun_cases String.utf8EncodeChar c with
  | case1 value | case2 value | case3 value | case4 value =>
      refine ⟨_, _, rfl, begins (by omega) (by omega), ?_⟩
      simp [continues_ofNat, -UInt8.ofNat_add]

theorem utf8EncodeChar_of_ascii {c : Char} (ascii : c.toNat < 0x80) :
    String.utf8EncodeChar c = [.ofNat c.toNat] :=
  if_pos (Nat.le_of_lt_succ ascii)

theorem le_toNat_of_mem_utf8EncodeChar {c : Char} (beyond : 0x80 ≤ c.toNat) :
    ∀ byte ∈ String.utf8EncodeChar c, 0x80 ≤ byte.toNat := by
  have hvalue : ¬ c.val.toNat ≤ 0x7F := Nat.not_le.mpr beyond
  fun_cases String.utf8EncodeChar c with
  | case1 value hle => exact absurd hle hvalue
  | case2 value | case3 value | case4 value =>
      simp only [List.forall_mem_cons, UInt8.toNat_ofNat', List.not_mem_nil, false_implies,
        implies_true, and_true]
      omega

/-- The byte of an ASCII character does not occur in any other character. -/
theorem mem_utf8EncodeChar_iff {ascii c : Char} (hascii : ascii.toNat < 0x80) :
    UInt8.ofNat ascii.toNat ∈ String.utf8EncodeChar c ↔ c = ascii := by
  have hbyte : (UInt8.ofNat ascii.toNat).toNat = ascii.toNat := toNat_ofNat_of_lt (by omega)
  constructor
  · intro hmem
    by_cases hc : c.toNat < 0x80
    · rw [utf8EncodeChar_of_ascii hc, List.mem_singleton, ← UInt8.toNat_inj, hbyte,
        toNat_ofNat_of_lt (by omega)] at hmem
      rw [← Char.ofNat_toNat c, ← hmem, Char.ofNat_toNat]
    · have hhigh := le_toNat_of_mem_utf8EncodeChar (Nat.le_of_not_lt hc) _ hmem
      omega
  · rintro rfl
    rw [utf8EncodeChar_of_ascii hascii]
    exact List.mem_singleton_self _

/-- A byte below 0x80 is read as a character. -/
theorem readBytes_single {byte : UInt8} (single : byte.toNat < 0x80) (rest : List UInt8) :
    readBytes none (byte :: rest) = Char.ofNat byte.toNat :: readBytes none rest := by
  have hlt : byte < 0x80 := single
  rw [readBytes, readNext, readFirst, if_pos hlt]
  rfl

theorem readBytes_open {byte : UInt8} {sequence : Sequence} (hbyte : 0x80 ≤ byte.toNat)
    (hopen : Sequence.open? byte = some sequence) (rest : List UInt8) :
    readBytes none (byte :: rest) = readBytes (some sequence) rest := by
  have hnot : ¬ byte < 0x80 := Nat.not_lt.mpr hbyte
  rw [readBytes, readNext, readFirst, if_neg hnot, hopen]
  rfl

namespace Sequence

theorem open?_two {byte : UInt8} (hleast : 0xC2 ≤ byte.toNat) (hgreatest : byte.toNat ≤ 0xDF) :
    open? byte = some ⟨byte.toNat - 0xC0, 1, 0x80, 0xBF⟩ := by
  simp only [open?, UInt8.le_iff_toNat_le, UInt8.reduceToNat, Bool.and_eq_true, decide_eq_true_eq]
  rw [if_pos ⟨hleast, hgreatest⟩]

theorem open?_three {byte : UInt8} (hleast : 0xE0 ≤ byte.toNat) (hgreatest : byte.toNat ≤ 0xEF) :
    open? byte = some ⟨byte.toNat - 0xE0, 2, if byte.toNat = 0xE0 then 0xA0 else 0x80,
      if byte.toNat = 0xED then 0x9F else 0xBF⟩ := by
  simp only [open?, UInt8.le_iff_toNat_le, UInt8.reduceToNat, Bool.and_eq_true, decide_eq_true_eq,
    beq_iff_eq, ← UInt8.toNat_inj]
  grind

theorem open?_four {byte : UInt8} (hleast : 0xF0 ≤ byte.toNat) (hgreatest : byte.toNat ≤ 0xF4) :
    open? byte = some ⟨byte.toNat - 0xF0, 3, if byte.toNat = 0xF0 then 0x90 else 0x80,
      if byte.toNat = 0xF4 then 0x8F else 0xBF⟩ := by
  simp only [open?, UInt8.le_iff_toNat_le, UInt8.reduceToNat, Bool.and_eq_true, decide_eq_true_eq,
    beq_iff_eq, ← UInt8.toNat_inj]
  grind

/-- Whether a byte that carries some bits may come next in a sequence. -/
def Takes (sequence : Sequence) (bits : Nat) : Prop :=
  sequence.least.toNat ≤ bits + 0x80 ∧ bits + 0x80 ≤ sequence.greatest.toNat

end Sequence

section

variable {sequence : Sequence} {bits : Nat} (few : bits < 0x40) (takes : sequence.Takes bits)

include few takes

/-- The last byte of a sequence gives its character. -/
theorem readBytes_last (howed : sequence.owed = 1) (rest : List UInt8) :
    readBytes (some sequence) (.ofNat (bits + 0x80) :: rest) =
      Char.ofNat (sequence.bits * 64 + bits) :: readBytes none rest := by
  have hbyte : (UInt8.ofNat (bits + 0x80)).toNat = bits + 0x80 := toNat_ofNat_of_lt (by omega)
  rw [readBytes, readNext]
  simp only [UInt8.le_iff_toNat_le, hbyte, takes.1, takes.2, howed]
  simp

/-- Any other byte of a sequence only adds its bits. -/
theorem readBytes_next (owed : Nat) (howed : sequence.owed = owed + 2) (rest : List UInt8) :
    readBytes (some sequence) (.ofNat (bits + 0x80) :: rest) =
      readBytes (some ⟨sequence.bits * 64 + bits, owed + 1, 0x80, 0xBF⟩) rest := by
  have hbyte : (UInt8.ofNat (bits + 0x80)).toNat = bits + 0x80 := toNat_ofNat_of_lt (by omega)
  rw [readBytes, readNext]
  simp only [UInt8.le_iff_toNat_le, hbyte, takes.1, takes.2, howed]
  simp

end

/-- A character is read from its bytes. The bounds on its second byte are those that the first
one sets, because a character is neither a surrogate nor written longer than it has to be. -/
theorem readBytes_utf8EncodeChar (c : Char) (rest : List UInt8) :
    readBytes none (String.utf8EncodeChar c ++ rest) = c :: readBytes none rest := by
  have hvalid : c.val.toNat < 0xD800 ∨ 0xDFFF < c.val.toNat ∧ c.val.toNat < 0x110000 := c.valid
  have hchar : Char.ofNat c.val.toNat = c := Char.ofNat_toNat c
  have low (number : Nat) : number % 0x40 < 0x40 := Nat.mod_lt number (by decide)
  have anywhere (sum owed number : Nat) :
      Sequence.Takes ⟨sum, owed, 0x80, 0xBF⟩ (number % 0x40) := by
    simp only [Sequence.Takes, UInt8.reduceToNat]
    omega
  fun_cases String.utf8EncodeChar c with
  | case1 value =>
      have hbyte : (UInt8.ofNat value).toNat = value := toNat_ofNat_of_lt (by omega)
      rw [List.singleton_append, readBytes_single (by omega), hbyte, hchar]
  | case2 value =>
      have hfirst : (UInt8.ofNat (value / 64 % 0x20 + 0xC0)).toNat = value / 64 + 0xC0 := by
        rw [toNat_ofNat_of_lt (by omega)]
        omega
      have hvalue : (value / 64 + 0xC0 - 0xC0) * 64 + value % 0x40 = value := by omega
      simp only [List.cons_append, List.nil_append]
      rw [readBytes_open (by omega) (Sequence.open?_two (by omega) (by omega)), hfirst,
        readBytes_last (low _) (anywhere _ _ _) rfl, hvalue, hchar]
  | case3 value =>
      have hfirst : (UInt8.ofNat (value / 4096 % 0x10 + 0xE0)).toNat = value / 4096 + 0xE0 := by
        rw [toNat_ofNat_of_lt (by omega)]
        omega
      have hsecond : Sequence.Takes ⟨value / 4096 + 0xE0 - 0xE0, 2,
          if value / 4096 + 0xE0 = 0xE0 then 0xA0 else 0x80,
          if value / 4096 + 0xE0 = 0xED then 0x9F else 0xBF⟩ (value / 64 % 0x40) := by
        simp only [Sequence.Takes, apply_ite UInt8.toNat, UInt8.reduceToNat]
        constructor <;> split <;> omega
      have hvalue : ((value / 4096 + 0xE0 - 0xE0) * 64 + value / 64 % 0x40) * 64 +
          value % 0x40 = value := by omega
      simp only [List.cons_append, List.nil_append]
      rw [readBytes_open (by omega) (Sequence.open?_three (by omega) (by omega)), hfirst,
        readBytes_next (low _) hsecond 0 rfl,
        readBytes_last (low _) (anywhere _ _ _) rfl, hvalue, hchar]
  | case4 value =>
      have hfirst : (UInt8.ofNat (value / 262144 % 0x08 + 0xF0)).toNat =
          value / 262144 + 0xF0 := by
        rw [toNat_ofNat_of_lt (by omega)]
        omega
      have hsecond : Sequence.Takes ⟨value / 262144 + 0xF0 - 0xF0, 3,
          if value / 262144 + 0xF0 = 0xF0 then 0x90 else 0x80,
          if value / 262144 + 0xF0 = 0xF4 then 0x8F else 0xBF⟩ (value / 4096 % 0x40) := by
        simp only [Sequence.Takes, apply_ite UInt8.toNat, UInt8.reduceToNat]
        constructor <;> split <;> omega
      have hvalue : (((value / 262144 + 0xF0 - 0xF0) * 64 + value / 4096 % 0x40) * 64 +
          value / 64 % 0x40) * 64 + value % 0x40 = value := by omega
      simp only [List.cons_append, List.nil_append]
      rw [readBytes_open (by omega) (Sequence.open?_four (by omega) (by omega)), hfirst,
        readBytes_next (low _) hsecond 1 rfl,
        readBytes_next (low _) (anywhere _ _ _) 0 rfl,
        readBytes_last (low _) (anywhere _ _ _) rfl, hvalue, hchar]

/-- Characters are read from their bytes, and what follows these bytes is read after them. -/
theorem readBytes_encodeChars_append (chars : List Char) (rest : List UInt8) :
    readBytes none (encodeChars chars ++ rest) = chars ++ readBytes none rest := by
  induction chars with
  | nil => rfl
  | cons c chars ih =>
      rw [encodeChars_cons, List.append_assoc, readBytes_utf8EncodeChar, ih, List.cons_append]

theorem readBytes_encodeChars (chars : List Char) : readBytes none (encodeChars chars) = chars := by
  have hread := readBytes_encodeChars_append chars []
  rwa [List.append_nil, readBytes, List.append_nil] at hread

theorem decodeLossy_encode (text : String) : decodeLossy (encode text) = text := by
  rw [decodeLossy, encode_eq, readBytes_encodeChars, String.ofList_toList]

theorem decode?_encode (text : String) : decode? (encode text) = some text := by
  rw [decode?, decodeLossy_encode, if_pos rfl]

end CallBench.Text
