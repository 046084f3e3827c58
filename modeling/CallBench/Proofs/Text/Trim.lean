/-
# White space around a text, and the case of its letters

White space around a text makes no difference once it is trimmed. Neither does it matter
whether capitals are made small before or after that, since letters are not white space. Two
texts differ at most in the case of their letters if making them small leaves the same text.
-/

import CallBench.Text.Blank

namespace CallBench.Text

theorem trimChars_pad_front {before : List Char} (blank : ∀ c ∈ before, isBlank c = true)
    (text : List Char) : trimChars (before ++ text) = trimChars text := by
  rw [trimChars, List.dropWhile_append_of_pos blank]
  rfl

theorem trimChars_pad_back {after : List Char} (blank : ∀ c ∈ after, isBlank c = true)
    (text : List Char) : trimChars (text ++ after) = trimChars text := by
  rw [trimChars, trimChars, List.dropWhile_append]
  by_cases hempty : (text.dropWhile isBlank).isEmpty = true
  · have hall : after.dropWhile isBlank = [] := by
      rw [← List.append_nil after, List.dropWhile_append_of_pos blank]
      rfl
    rw [if_pos hempty, List.isEmpty_iff.mp hempty, hall]
  · have hreverse : ∀ c ∈ after.reverse, isBlank c = true :=
      fun c hmem => blank c (List.mem_reverse.mp hmem)
    rw [if_neg hempty, List.reverse_append, List.dropWhile_append_of_pos hreverse]

/-- More white space on either side of a text does not change what is left of it. -/
theorem trim_pad {before after : String} (hbefore : ∀ c ∈ before.toList, isBlank c = true)
    (hafter : ∀ c ∈ after.toList, isBlank c = true) (text : String) :
    trim (before ++ text ++ after) = trim text := by
  rw [trim, String.toList_append, String.toList_append, trimChars_pad_back hafter,
    trimChars_pad_front hbefore, trim]

/-- From the first capital to the last small letter there is no white space. -/
theorem isBlank_letter {c : Char} (hleast : 0x41 ≤ c.toNat) (hgreatest : c.toNat ≤ 0x7A) :
    isBlank c = false := by
  rw [Bool.eq_false_iff]
  simp only [isBlank, inRanges, blankRanges, List.any_cons, List.any_nil, Ne, Bool.or_eq_true,
    Bool.and_eq_true, decide_eq_true_eq, Bool.false_eq_true, or_false]
  omega

theorem isBlank_toLower (c : Char) : isBlank c.toLower = isBlank c := by
  by_cases hcapital : c.val ≥ 'A'.val ∧ c.val ≤ 'Z'.val
  · have hrange : 0x41 ≤ c.toNat ∧ c.toNat ≤ 0x5A := hcapital
    have hsmall : c.toLower.toNat = c.toNat + 0x20 := by
      have hval : c.toLower.val = c.val + 0x20 := congrArg Char.val (dif_pos hcapital)
      have hsum : (c.val + 0x20).toNat = (c.toNat + 0x20) % 2 ^ 32 := UInt32.toNat_add _ _
      rw [Char.toNat, hval, hsum]
      omega
    rw [isBlank_letter hrange.1 (by omega), isBlank_letter (by omega) (by omega)]
  · have hsame : c.toLower = c := dif_neg hcapital
    rw [hsame]

theorem trimChars_map_toLower (text : List Char) :
    trimChars (text.map Char.toLower) = (trimChars text).map Char.toLower := by
  have hblank : isBlank ∘ Char.toLower = isBlank := funext isBlank_toLower
  rw [trimChars, List.dropWhile_map, hblank, ← List.map_reverse, List.dropWhile_map, hblank,
    ← List.map_reverse, trimChars]

theorem toList_toLower (text : String) : text.toLower.toList = foldCase text :=
  String.toList_map

theorem toLower_trim (text : String) : (trim text).toLower = trim text.toLower := by
  rw [← String.toList_inj, toList_toLower, foldCase, trim, trim, String.toList_ofList,
    String.toList_ofList, toList_toLower, foldCase, trimChars_map_toLower]

theorem sameWord_iff {text word : String} :
    sameWord text word = true ↔ text.toLower = word.toLower := by
  rw [sameWord, beq_iff_eq, ← String.toList_inj, toList_toLower, toList_toLower]

/-- Whether a text is one of some words that are written in small letters. -/
theorem any_sameWord_iff {words : List String}
    (small : ∀ word ∈ words, foldCase word = word.toList) {text : String} :
    words.any (sameWord text) = true ↔ text.toLower ∈ words := by
  have htoLower (word : String) (hmem : word ∈ words) : word.toLower = word := by
    rw [← String.toList_inj, toList_toLower, small word hmem]
  rw [List.any_eq_true]
  constructor
  · rintro ⟨word, hmem, hsame⟩
    rw [sameWord_iff, htoLower word hmem] at hsame
    rwa [hsame]
  · intro hmem
    refine ⟨text.toLower, hmem, ?_⟩
    rw [sameWord_iff, htoLower _ hmem]

end CallBench.Text
