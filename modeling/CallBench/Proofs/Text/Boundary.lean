/-
# Where encoded text is cut

Text may be cut exactly where one of its characters ends and the next one begins. So a cut
between characters is not refused, and gives the bytes of the characters between its ends;
and whether a text ends in another can be told from their bytes, since bytes that begin with
the beginning of a character do not begin within one.
-/

import CallBench.Proofs.Text.Encoding

namespace CallBench.Text

theorem encodeChars_inj {first second : List Char} :
    encodeChars first = encodeChars second ↔ first = second := by
  constructor
  · intro heq
    rw [← readBytes_encodeChars first, heq, readBytes_encodeChars]
  · rintro rfl
    rfl

theorem isBoundary_append (front back : List UInt8) (offset : Nat) :
    isBoundary (front ++ back) (front.length + offset) = isBoundary back offset := by
  rw [isBoundary, isBoundary, List.getElem?_append_right (Nat.le_add_right _ _),
    Nat.add_sub_cancel_left]
  cases hbyte : back[offset]? with
  | some byte => rfl
  | none =>
      dsimp only
      rw [List.length_append, Bool.eq_iff_iff, beq_iff_eq, beq_iff_eq]
      exact Nat.add_left_cancel_iff

/-- A text begins where its first character does. -/
theorem isBoundary_zero (chars : List Char) : isBoundary (encodeChars chars) 0 = true := by
  cases chars with
  | nil => rfl
  | cons c chars =>
      obtain ⟨first, later, hbytes, hfirst, -⟩ := exists_utf8EncodeChar c
      simp [encodeChars_cons, hbytes, isBoundary, hfirst]

/-- Text may be cut between characters and nowhere else. -/
theorem isBoundary_iff {chars : List Char} {offset : Nat} :
    isBoundary (encodeChars chars) offset = true ↔
      ∃ front back, chars = front ++ back ∧ offset = (encodeChars front).length := by
  constructor
  · intro hboundary
    induction chars generalizing offset with
    | nil => exact ⟨[], [], rfl, by simpa [encodeChars, isBoundary] using hboundary⟩
    | cons c chars ih =>
        by_cases hzero : offset = 0
        · exact ⟨[], c :: chars, rfl, hzero⟩
        · obtain ⟨first, later, hbytes, -, hlater⟩ := exists_utf8EncodeChar c
          -- Within the character there are only bytes that continue it.
          have hbehind : (String.utf8EncodeChar c).length ≤ offset := by
            rw [← Nat.not_lt]
            intro hwithin
            have hlt : offset - 1 < later.length := by
              rw [hbytes, List.length_cons] at hwithin
              omega
            have hbyte : (encodeChars (c :: chars))[offset]? = some later[offset - 1] := by
              rw [encodeChars_cons, hbytes, List.cons_append, List.getElem?_cons, if_neg hzero,
                List.getElem?_append_left hlt, List.getElem?_eq_getElem hlt]
            rw [isBoundary, hbyte] at hboundary
            simp [hlater _ (List.getElem_mem hlt)] at hboundary
          obtain ⟨more, rfl⟩ := Nat.exists_eq_add_of_le hbehind
          rw [encodeChars_cons, isBoundary_append] at hboundary
          obtain ⟨front, back, rfl, rfl⟩ := ih hboundary
          exact ⟨c :: front, back, rfl, by rw [encodeChars_cons, List.length_append]⟩
  · rintro ⟨front, back, rfl, rfl⟩
    have hend := isBoundary_append (encodeChars front) (encodeChars back) 0
    rw [encodeChars_append, ← isBoundary_zero back, ← hend, Nat.add_zero]

/-- A letter outside ASCII is not cut in two. -/
example : slice? (encodeChars ['é', '/']) 0 1 = none := by
  decide

/-- A cut between characters gives what stands there. -/
theorem slice?_middle (front middle back : List Char) :
    slice? (encodeChars (front ++ middle ++ back)) (encodeChars front).length
      (encodeChars (front ++ middle)).length = some (encodeChars middle) := by
  have hstart : isBoundary (encodeChars (front ++ middle ++ back)) (encodeChars front).length :=
    isBoundary_iff.mpr ⟨front, middle ++ back, List.append_assoc _ _ _, rfl⟩
  have hfinish : isBoundary (encodeChars (front ++ middle ++ back))
      (encodeChars (front ++ middle)).length :=
    isBoundary_iff.mpr ⟨front ++ middle, back, rfl, rfl⟩
  have horder : (encodeChars front).length ≤ (encodeChars (front ++ middle)).length := by
    rw [encodeChars_append, List.length_append]
    exact Nat.le_add_right _ _
  rw [slice?, if_pos ⟨horder, hstart, hfinish⟩, encodeChars_append (front ++ middle),
    List.take_left, encodeChars_append, List.drop_left]

theorem slice?_front (front back : List Char) :
    slice? (encodeChars (front ++ back)) 0 (encodeChars front).length =
      some (encodeChars front) :=
  slice?_middle [] front back

theorem slice?_back (front back : List Char) :
    slice? (encodeChars (front ++ back)) (encodeChars front).length
      (encodeChars (front ++ back)).length = some (encodeChars back) := by
  have hmiddle := slice?_middle front back []
  rwa [List.append_nil] at hmiddle

theorem minus?_append (front back : List UInt8) :
    minus? (front ++ back).length back.length = some front.length := by
  rw [minus?, if_pos (by simp), List.length_append, Nat.add_sub_cancel]

/-- A text ends in another if its bytes end in those of the other. -/
theorem encodeChars_suffix_iff {suffix text : List Char} :
    encodeChars suffix <:+ encodeChars text ↔ suffix <:+ text := by
  constructor
  · rintro ⟨before, hsplit⟩
    have hboundary : isBoundary (encodeChars text) before.length = true := by
      have hend := isBoundary_append before (encodeChars suffix) 0
      rwa [hsplit, Nat.add_zero, isBoundary_zero] at hend
    obtain ⟨front, back, rfl, hlength⟩ := isBoundary_iff.mp hboundary
    rw [encodeChars_append] at hsplit
    have hback := (List.append_inj hsplit hlength).2
    exact ⟨front, by rw [encodeChars_inj.mp hback]⟩
  · rintro ⟨before, rfl⟩
    exact ⟨encodeChars before, (encodeChars_append before suffix).symm⟩

end CallBench.Text
