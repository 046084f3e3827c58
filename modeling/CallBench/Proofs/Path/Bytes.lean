/-
# Cutting bytes is cutting characters

The readers of a path look for the bytes of separator and dot, which no other character has
in it. So they find in the bytes what they find in the characters: the bytes of a path are
built around the bytes of its last portion, and where a cut is made a character ends. No cut
and no difference of offsets is refused, and the bytes that are cut out are those of the
characters that are cut out of the same text.
-/

import CallBench.Path.Bytes
import CallBench.Proofs.Path.Reassembly
import CallBench.Proofs.Text.Boundary

namespace CallBench.Path

open Text

theorem encodeChars_separator_cons (chars : List Char) :
    encodeChars (separator :: chars) = separator :: encodeChars chars :=
  rfl

theorem encodeChars_dot_cons (chars : List Char) :
    encodeChars (dot :: chars) = dot :: encodeChars chars :=
  rfl

theorem encodeChars_separators (count : Nat) :
    encodeChars (List.replicate count separator) = List.replicate count separator := by
  induction count with
  | zero => rfl
  | succ count ih =>
      rw [List.replicate_succ, encodeChars_separator_cons, ih, List.replicate_succ]

theorem encodeChars_append_separators (chars : List Char) (count : Nat) :
    encodeChars (chars ++ List.replicate count separator) =
      encodeChars chars ++ List.replicate count separator := by
  rw [encodeChars_append, encodeChars_separators]

theorem encodeChars_below (front base : List Char) (count : Nat) :
    encodeChars (front ++ separator :: base ++ List.replicate count separator) =
      encodeChars front ++ separator :: encodeChars base ++ List.replicate count separator := by
  rw [encodeChars_append_separators, encodeChars_append, encodeChars_separator_cons]

theorem encodeChars_eq_nil_iff {chars : List Char} : encodeChars chars = [] ↔ chars = [] :=
  @encodeChars_inj chars []

theorem encodeChars_eq_separator_iff {chars : List Char} :
    encodeChars chars = [separator] ↔ chars = [separator] :=
  @encodeChars_inj chars [separator]

theorem encodeChars_eq_dot_iff {chars : List Char} :
    encodeChars chars = [dot] ↔ chars = [dot] :=
  @encodeChars_inj chars [dot]

theorem separator_mem_encodeChars_iff {chars : List Char} :
    separator ∈ encodeChars chars ↔ separator ∈ chars := by
  have hbyte (c : Char) : separator ∈ String.utf8EncodeChar c ↔ c = separator :=
    @mem_utf8EncodeChar_iff separator c (by decide)
  rw [encodeChars, List.mem_flatMap]
  simp [hbyte]

theorem dot_mem_encodeChars_iff {chars : List Char} :
    dot ∈ encodeChars chars ↔ dot ∈ chars := by
  have hbyte (c : Char) : dot ∈ String.utf8EncodeChar c ↔ c = dot :=
    @mem_utf8EncodeChar_iff dot c (by decide)
  rw [encodeChars, List.mem_flatMap]
  simp [hbyte]

theorem IsPortion.encode {base : List Char} (portion : IsPortion base) :
    IsPortion (encodeChars base) :=
  ⟨mt encodeChars_eq_nil_iff.mp portion.ne_nil,
    mt separator_mem_encodeChars_iff.mp portion.separator_notMem⟩

theorem Opens.encode {before : List Char} (opens : Opens before) : Opens (encodeChars before) := by
  rcases opens with rfl | ⟨front, rfl⟩
  · exact .inl rfl
  · exact .inr ⟨encodeChars front, encodeChars_append front [separator]⟩

theorem directory?_encodeChars (path : List Char) :
    directory? (encodeChars path) = some (encodeChars (directory path)) := by
  cases cut path with
  | separators count =>
      have hend := directoryEnd?_separators (u := UInt8) count
      rw [← encodeChars_separators] at hend
      rw [directory?, hend, directory_separators]
      cases count with
      | zero => rfl
      | succ count => exact slice?_front [separator] (List.replicate count separator)
  | alone base portion count =>
      have hend := directoryEnd?_alone portion.encode count
      rw [← encodeChars_append_separators] at hend
      rw [directory?, hend, directory_alone portion]
      rfl
  | below front base portion count =>
      have hend := directoryEnd?_below (encodeChars front) portion.encode count
      rw [← encodeChars_below] at hend
      rw [directory?, hend, directory_below front portion, parent, parent]
      simp only [encodeChars_eq_separator_iff, encodeChars_eq_nil_iff]
      by_cases hdouble : front = [separator]
      · subst hdouble
        exact slice?_front [separator, separator] (base ++ List.replicate count separator)
      · by_cases hnil : front = []
        · subst hnil
          exact slice?_front [separator] (base ++ List.replicate count separator)
        · rw [if_neg hdouble, if_neg hdouble, if_neg hnil, if_neg hnil, List.append_assoc]
          exact slice?_front front (separator :: base ++ List.replicate count separator)

theorem trimmed?_encodeChars (path : List Char) :
    trimmed? (encodeChars path) = some (encodeChars (trimmed path)) := by
  have hcut (front : List Char) (count : Nat)
      (ends : ∀ unit ∈ (encodeChars front).getLast?, unit ≠ separator) :
      trimmed? (encodeChars (front ++ List.replicate count separator)) =
        some (encodeChars front) := by
    have hlength := trimmedLength_append_separators ends count
    rw [← encodeChars_append_separators] at hlength
    rw [trimmed?, hlength]
    exact slice?_front front (List.replicate count separator)
  cases cut path with
  | separators count =>
      rw [trimmed_separators]
      exact hcut [] count fun _ hlast => nomatch hlast
  | alone base portion count =>
      rw [trimmed_alone portion]
      exact hcut base count (portion.encode.getLast?_ne [])
  | below front base portion count =>
      rw [trimmed_below front portion]
      refine hcut (front ++ separator :: base) count ?_
      rw [encodeChars_append, encodeChars_separator_cons]
      exact portion.encode.getLast?_below_ne (encodeChars front)

/-- What stands behind a separator. -/
theorem slice?_behind (front base : List Char) :
    slice? (encodeChars (front ++ separator :: base)) ((encodeChars front).length + 1)
      (encodeChars (front ++ separator :: base)).length = some (encodeChars base) := by
  have hcut := slice?_back (front ++ [separator]) base
  rwa [← List.append_cons, encodeChars_append front [separator], List.length_append] at hcut

/-- The last separator of a path, and how many bytes are in front of it. -/
theorem lastSeparator?_encodeChars_below (front : List Char) {base : List Char}
    (portion : IsPortion base) :
    lastSeparator? (encodeChars (front ++ separator :: base)) =
      some (encodeChars front).length := by
  rw [encodeChars_append, encodeChars_separator_cons]
  exact lastSeparator?_below _ portion.encode.separator_notMem

theorem portion?_encodeChars (path : List Char) :
    portion? (encodeChars path) = some (encodeChars (portion path)) := by
  rw [portion?, trimmed?_encodeChars, Option.bind_eq_bind, Option.bind_some]
  cases cut path with
  | separators count =>
      rw [trimmed_separators, portion_separators]
      rfl
  | alone base portion count =>
      rw [trimmed_alone portion, portion_alone portion,
        lastSeparator?_of_notMem portion.encode.separator_notMem]
  | below front base portion count =>
      rw [trimmed_below front portion, portion_below front portion,
        lastSeparator?_encodeChars_below front portion]
      exact slice?_behind front base

theorem withoutEnd?_encodeChars (front back : List Char) :
    withoutEnd? (encodeChars (front ++ back)) (encodeChars back) = some (encodeChars front) := by
  have hlength := minus?_append (encodeChars front) (encodeChars back)
  rw [← encodeChars_append] at hlength
  rw [withoutEnd?, hlength]
  exact slice?_front front back

theorem withoutSuffix?_encodeChars (base suffix : List Char) :
    withoutSuffix? (encodeChars base) (encodeChars suffix) =
      some (encodeChars (withoutSuffix base suffix)) := by
  simp only [withoutSuffix?, withoutSuffix, List.isSuffixOf_iff_suffix]
  by_cases hsuffix : suffix <:+ base
  · rw [if_pos (encodeChars_suffix_iff.mpr hsuffix), if_pos hsuffix]
    obtain ⟨front, rfl⟩ := hsuffix
    rw [take_length_sub rfl]
    exact withoutEnd?_encodeChars front suffix
  · rw [if_neg (mt encodeChars_suffix_iff.mp hsuffix), if_neg hsuffix]

theorem portionWithout?_encodeChars (path suffix : List Char) :
    portionWithout? (encodeChars path) (encodeChars suffix) =
      some (encodeChars (portionWithout path suffix)) := by
  simp only [portionWithout?, portionWithout, portion?_encodeChars, Option.bind_eq_bind,
    Option.bind_some, ne_eq, encodeChars_eq_nil_iff, encodeChars_inj]
  by_cases hwhole : ¬ suffix = [] ∧ suffix = path
  · rw [if_pos hwhole, if_pos hwhole]
    rfl
  · rw [if_neg hwhole, if_neg hwhole]
    by_cases hshort : ¬ suffix = [] ∧ ¬ portion path = suffix
    · rw [if_pos hshort, if_pos hshort, withoutSuffix?_encodeChars]
    · rw [if_neg hshort, if_neg hshort]

/-- The portion ends behind a unit if its end has been read. -/
def Ended (scan : ExtensionScan) : Prop :=
  ∀ finish ∈ scan.finish, 1 ≤ finish

theorem Ended.read {scan : ExtensionScan} (ended : Ended scan) (unit : UInt8) (offset : Nat) :
    Ended (scan.read unit offset) := by
  have hfinish : (scan.read unit offset).finish = some (scan.finish.getD (offset + 1)) := by
    rw [ExtensionScan.read]
    cases scan.lastDot with
    | none => dsimp only; split <;> rfl
    | some lastDot => rfl
  intro finish hmem
  rw [hfinish, Option.mem_some_iff] at hmem
  subst hmem
  cases hscan : scan.finish with
  | none => exact Nat.le_add_left 1 offset
  | some finish => exact ended finish hscan

theorem ended_scanExtension {items : List (UInt8 × Nat)} {scan : ExtensionScan}
    (ended : Ended scan) : Ended (scanExtension items scan) := by
  induction items generalizing scan with
  | nil => exact ended
  | cons item items ih =>
      rw [scanExtension]
      split
      · split
        · exact ih ended
        · exact ended
      · exact ih (ended.read item.1 item.2)

/-- Taking one from the end of the portion is never refused, so the extension is cut out
where its reader has found it. -/
theorem extension?_eq (path : List UInt8) :
    extension? path =
      match extensionSpan? path with
      | some span => slice? path span.1 span.2
      | none => some [] := by
  have ended : Ended (scanExtension (backwards path) {}) :=
    ended_scanExtension fun _ hmem => nomatch hmem
  rw [extension?, extensionSpan?]
  cases hdot : (scanExtension (backwards path) {}).lastDot with
  | none => rfl
  | some lastDot =>
      cases hfinish : (scanExtension (backwards path) {}).finish with
      | none => rfl
      | some finish =>
          have hpositive : 1 ≤ finish := ended finish hfinish
          have hlast : lastDot = finish - 1 ↔ lastDot + 1 = finish := by omega
          simp only [minus?, hpositive, if_true, Option.bind_eq_bind,
            Option.bind_some, hlast]
          split <;> rfl

theorem extension?_encodeChars_portion {before base : List Char} (opens : Opens before)
    (portion : IsPortion base) (count : Nat) :
    extension? (encodeChars (before ++ base ++ List.replicate count separator)) =
      some (encodeChars (extension base)) := by
  by_cases hdot : dot ∈ base
  · obtain ⟨stem, tail, rfl, htail⟩ := exists_last_dot hdot
    have hplain := portion.encode.separator_notMem
    rw [encodeChars_append, encodeChars_dot_cons] at hplain
    have hspan := extensionSpan?_of_last_dot opens.encode hplain
      (mt dot_mem_encodeChars_iff.mp htail) count
    rw [← encodeChars_dot_cons, ← encodeChars_append, ← encodeChars_append,
      ← encodeChars_append_separators, ← encodeChars_append, ← encodeChars_append] at hspan
    simp only [encodeChars_eq_nil_iff, encodeChars_eq_dot_iff] at hspan
    rw [extension?_eq, hspan, extension_eq_of_last_dot portion.separator_notMem htail]
    by_cases hnone : stem = [] ∨ stem = [dot] ∧ tail = []
    · rw [if_pos hnone, if_pos hnone]
      rfl
    · rw [if_neg hnone, if_neg hnone, ← List.append_assoc before stem]
      exact slice?_middle (before ++ stem) (dot :: tail) (List.replicate count separator)
  · have hspan := extensionSpan?_of_no_dot opens.encode portion.encode
      (mt dot_mem_encodeChars_iff.mp hdot) count
    rw [← encodeChars_append, ← encodeChars_append_separators] at hspan
    rw [extension?_eq, hspan, extension_eq_nil_of_no_dot portion hdot]
    rfl

theorem extension?_encodeChars (path : List Char) :
    extension? (encodeChars path) = some (encodeChars (extension path)) := by
  cases cut path with
  | separators count =>
      rw [extension?_eq, extension_separators, encodeChars_separators,
        extensionSpan?_separators]
      rfl
  | alone base portion count =>
      rw [extension_alone portion]
      exact extension?_encodeChars_portion (.inl rfl) portion count
  | below front base portion count =>
      rw [extension_below front portion, List.append_cons]
      exact extension?_encodeChars_portion (.inr ⟨front, rfl⟩) portion count

theorem encodeChars_root (path : List Char) :
    encodeChars (root path) = root (encodeChars path) := by
  cases path with
  | nil => rfl
  | cons first rest =>
      by_cases hfirst : first = separator
      · rw [hfirst, encodeChars_separator_cons, root_separator_cons, root_separator_cons]
        rfl
      · have hroot := root_alone (IsPortion.singleton hfirst).encode (encodeChars rest)
        rw [← encodeChars_append] at hroot
        rw [root_of_ne hfirst]
        exact hroot.symm

theorem withoutEnd?_extension {base : List Char} (plain : separator ∉ base) :
    withoutEnd? (encodeChars base) (encodeChars (extension base)) =
      some (encodeChars (base.take (base.length - (extension base).length))) := by
  have hname := withoutEnd?_encodeChars (base.take (base.length - (extension base).length))
    (extension base)
  rwa [name_append_extension plain] at hname

theorem partsOf?_encodeChars (path : List Char) :
    partsOf? (encodeChars path) = some ((partsOf path).map encodeChars) := by
  simp only [partsOf?, trimmed?_encodeChars, Option.bind_eq_bind, Option.bind_some,
    ← encodeChars_root, encodeChars_eq_nil_iff]
  cases cut path with
  | separators count =>
      rw [trimmed_separators, partsOf_separators, if_pos rfl, Parts.of, root_root]
      rfl
  | alone base portion count =>
      rw [trimmed_alone portion, partsOf_alone portion, if_neg portion.ne_nil,
        lastSeparator?_of_notMem portion.encode.separator_notMem, root_alone portion]
      simp only [Option.bind_some, extension?_encodeChars,
        withoutEnd?_extension portion.separator_notMem]
      rfl
  | below front base portion count =>
      have hnonempty : front ++ separator :: base ≠ [] := by simp
      have hroot := root_below front (base ++ List.replicate count separator)
      rw [← List.cons_append, ← List.append_assoc] at hroot
      rw [trimmed_below front portion, partsOf_below front portion, if_neg hnonempty,
        lastSeparator?_encodeChars_below front portion, hroot]
      by_cases hnil : front = []
      · subst hnil
        have hbase := slice?_behind [] base
        have hlength : (encodeChars []).length = 0 := rfl
        rw [hlength, List.nil_append, Nat.zero_add] at hbase
        simp only [hlength, List.nil_append, hbase, Option.bind_some, extension?_encodeChars,
          withoutEnd?_extension portion.separator_notMem]
        rfl
      · have hdir := slice?_front front (separator :: base)
        have hbase := slice?_behind front base
        obtain ⟨length, hlength⟩ : ∃ length, (encodeChars front).length = length + 1 :=
          Nat.exists_eq_succ_of_ne_zero
            (mt List.length_eq_zero_iff.mp (mt encodeChars_eq_nil_iff.mp hnil))
        rw [hlength] at hdir hbase
        simp only [hlength, hdir, hbase, Option.bind_some, extension?_encodeChars,
          withoutEnd?_extension portion.separator_notMem]
        rw [parent, if_neg hnil]
        rfl

theorem encode_ofList (chars : List Char) : encode (.ofList chars) = encodeChars chars := by
  rw [encode_eq, String.toList_ofList]

/-- **Paths may be cut in their bytes.** No cut that is made in the bytes of a path is
refused, neither is any difference of offsets, and what is cut out encodes what is cut out of
the characters of the path. So directory, last portion with and without a suffix, extension
and parts are found for every path, and they are the same texts in both readings. -/
theorem bytes_cut_like_characters (path : String) (suffix : Option String) :
    directory? (encode path) = some (encode (dirname path)) ∧
    base? (encode path) (suffix.map encode) = some (encode (basename path suffix)) ∧
    extension? (encode path) = some (encode (extname path)) ∧
    partsOf? (encode path) = some ((parse path).map encode) := by
  have hbase : base? (encode path) (suffix.map encode) =
      some (encode (basename path suffix)) := by
    cases suffix with
    | none =>
        rw [Option.map_none, base?, basename, encode_ofList, encode_eq, portion?_encodeChars]
    | some suffix =>
        rw [Option.map_some, base?, basename, encode_ofList, encode_eq, encode_eq,
          portionWithout?_encodeChars]
  have hparts : (parse path).map encode = (partsOf path.toList).map encodeChars := by
    simp only [parse, Parts.map, encode_ofList]
  refine ⟨?_, hbase, ?_, ?_⟩
  · rw [dirname, encode_ofList, encode_eq, directory?_encodeChars]
  · rw [extname, encode_ofList, encode_eq, extension?_encodeChars]
  · rw [hparts, encode_eq, partsOf?_encodeChars]

end CallBench.Path
