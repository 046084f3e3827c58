/-
# What the setting decides about the log

The setting is read as a word: nothing, a word for no, a word for yes, or a filter expression.
The first two turn the log off. The expression alone chooses the filter, and the general
setting is asked only where there is none. So the choice is settled by the word, and neither
white space around it nor the case of a word for yes can change it.
-/

import CallBench.Command.Logging
import CallBench.Proofs.Text.Encoding
import CallBench.Proofs.Text.Trim
import CallBench.Recording

namespace CallBench.Command

open Text

/-- A setting turns the log off if it says nothing or says no. -/
theorem logEnabled_eq_false_iff {setting : String} :
    logEnabled setting = false ↔
      trim setting = "" ∨ (trim setting).toLower ∈ ["0", "false", "off"] := by
  have hoff : offWords.any (sameWord (trim setting)) = true ↔
      (trim setting).toLower ∈ ["0", "false", "off"] := any_sameWord_iff (by decide)
  rw [logEnabled, Bool.and_eq_false_iff, Bool.not_eq_false', Bool.not_eq_false',
    String.isEmpty_iff, hoff]

/-- A setting holds an expression unless it says nothing or says yes. -/
theorem ownExpression?_eq (setting : String) :
    ownExpression? setting =
      if trim setting = "" ∨ (trim setting).toLower ∈ ["1", "true", "on"] then none
      else some (trim setting) := by
  have hon : onWords.any (sameWord (trim setting)) = true ↔
      (trim setting).toLower ∈ ["1", "true", "on"] := any_sameWord_iff (by decide)
  simp only [ownExpression?, Bool.or_eq_true, String.isEmpty_iff, hon]

section

variable {φ : Type} (read? : String → Option φ) (default : φ) {setting other : String}

/-- Whether two settings decide alike about the log, whatever the general setting is. -/
def DecideAlike (setting other : String) : Prop :=
  logEnabled setting = logEnabled other ∧
    ∀ general, chooseFilter read? default setting general =
      chooseFilter read? default other general

theorem decideAlike_of_trim_eq (htrim : trim setting = trim other) :
    DecideAlike read? default setting other := by
  refine ⟨?_, fun general => ?_⟩
  · rw [logEnabled, logEnabled, htrim]
  · rw [chooseFilter, chooseFilter, ownExpression?, ownExpression?, htrim]

/-- A word for yes turns the log on. -/
theorem logEnabled_of_yes (hyes : (trim setting).toLower ∈ ["1", "true", "on"]) :
    logEnabled setting = true := by
  have hapart : ∀ word ∈ ["1", "true", "on"], word ∉ ["", "0", "false", "off"] := by decide
  have hempty : ("" : String).toLower = "" := by
    rw [← String.toList_inj, toList_toLower]
    rfl
  cases hlog : logEnabled setting with
  | true => rfl
  | false =>
      refine absurd (List.mem_cons.mpr ?_) (hapart _ hyes)
      refine (logEnabled_eq_false_iff.mp hlog).imp_left fun hnothing => ?_
      rw [hnothing, hempty]

/-- All words for yes decide alike. -/
theorem decideAlike_of_yes (hsetting : (trim setting).toLower ∈ ["1", "true", "on"])
    (hother : (trim other).toLower ∈ ["1", "true", "on"]) :
    DecideAlike read? default setting other := by
  refine ⟨?_, fun general => ?_⟩
  · rw [logEnabled_of_yes hsetting, logEnabled_of_yes hother]
  · rw [chooseFilter, chooseFilter, ownExpression?_eq, ownExpression?_eq, if_pos (.inr hsetting),
      if_pos (.inr hother)]

/-- Who decides about the log, given how expressions are read. -/
structure Decided (setting : String) : Prop where
  /-- The log is off if the setting says nothing or says no. -/
  off_iff : logEnabled setting = false ↔
    trim setting = "" ∨ (trim setting).toLower ∈ ["0", "false", "off"]
  /-- A setting that says neither nothing nor yes is an expression and decides alone. -/
  own : trim setting ≠ "" → (trim setting).toLower ∉ ["1", "true", "on"] →
    ∀ general, chooseFilter read? default setting general = (read? (trim setting)).getD default
  /-- Otherwise the general setting decides, if there is one that can be read. -/
  general : trim setting = "" ∨ (trim setting).toLower ∈ ["1", "true", "on"] →
    ∀ general, chooseFilter read? default setting general = (general.bind read?).getD default
  /-- White space around the setting changes nothing. -/
  padded : ∀ before after : String, (∀ c ∈ before.toList, isBlank c = true) →
    (∀ c ∈ after.toList, isBlank c = true) →
      DecideAlike read? default (before ++ setting ++ after) setting
  /-- The case of the letters of a yes changes nothing. -/
  caseless : (trim setting).toLower ∈ ["1", "true", "on"] → ∀ other : String,
    other.toLower = setting.toLower → DecideAlike read? default other setting

/-- **Who decides about the log.** The log is off if the setting says nothing or says no. If the
setting says neither nothing nor yes, it is an expression and decides alone: what it reads as is
the filter, or the default if it cannot be read, whatever the general setting is. Otherwise the
general setting decides, if there is one that can be read, and else the default. White space
around the setting changes nothing, and neither does the case of its letters if it says yes. -/
theorem chooseFilter_precedence (setting : String) : Decided read? default setting := by
  refine ⟨logEnabled_eq_false_iff, ?own, ?general, ?padded, ?caseless⟩
  case own =>
    intro hsomething hexpression general
    have hown : ¬ (trim setting = "" ∨ (trim setting).toLower ∈ ["1", "true", "on"]) :=
      not_or.mpr ⟨hsomething, hexpression⟩
    rw [chooseFilter, ownExpression?_eq, if_neg hown, Option.some_or, Option.bind_some]
  case general =>
    intro hnone general
    rw [chooseFilter, ownExpression?_eq, if_pos hnone, Option.none_or]
  case padded =>
    intro before after hbefore hafter
    exact decideAlike_of_trim_eq read? default (trim_pad hbefore hafter setting)
  case caseless =>
    intro hyes other hsame
    refine decideAlike_of_yes read? default ?_ hyes
    rwa [toLower_trim, hsame, ← toLower_trim]

end

/-- A word for yes between wide spaces, and an expression that cannot be read. -/
theorem chooseFilter_of_yes_and_of_refused :
    ((trim "\u3000On ").toLower ∈ ["1", "true", "on"] ∧
      chooseFilter (fun text => if text = "12" then some 12 else none) 7 "\u3000On " (some "12") =
        12 ∧
      DecideAlike (fun text => if text = "12" then some 12 else none) 7 "\u3000oN "
        "\u3000On ") ∧
    (trim " x1" ≠ "" ∧ (trim " x1").toLower ∉ ["1", "true", "on"] ∧
      ∀ general, chooseFilter (fun text => if text = "12" then some 12 else none) 7 " x1" general =
        7) := by
  have hyes : (trim "\u3000On ").toLower = "on" := by
    rw [← String.toList_inj, toList_toLower]
    decide
  have hexpression : (trim " x1").toLower = "x1" := by
    rw [← String.toList_inj, toList_toLower]
    decide
  have hsame : ("\u3000oN " : String).toLower = ("\u3000On " : String).toLower := by
    rw [← String.toList_inj, toList_toLower, toList_toLower]
    decide
  have hmem : (trim "\u3000On ").toLower ∈ ["1", "true", "on"] := by simp [hyes]
  have hnotMem : (trim " x1").toLower ∉ ["1", "true", "on"] := by simp [hexpression]
  have hsomething : trim " x1" ≠ "" := by decide
  refine ⟨⟨hmem, ?_, ?_⟩, hsomething, hnotMem, ?_⟩
  · exact (chooseFilter_precedence _ 7 "\u3000On ").general (.inr hmem) (some "12")
  · exact (chooseFilter_precedence _ 7 "\u3000On ").caseless hmem "\u3000oN " hsame
  · exact (chooseFilter_precedence _ 7 " x1").own hsomething hnotMem

/-- The default expression can be read. -/
theorem read?_defaultExpression : Filter.read? defaultExpression = some defaultFilter :=
  rfl

/-- The program asks its environment for both settings. A general setting that is not text counts
as missing. -/
theorem filterOfEnvironment_runFrom {ν σ : Type} {surroundings : Surroundings} {setting : String}
    (hsetting : surroundings.environment "YASO_BENCH_TRACE" = some (encode setting))
    (recording : Recording ν σ) :
    (filterOfEnvironment : Recorded ν σ (Option Filter)).runFrom surroundings recording =
      (.ok (if logEnabled setting then
        some (chooseFilter Filter.read? defaultFilter setting
          ((surroundings.environment "RUST_LOG").bind decode?)) else none), recording) := by
  have hrun : (filterOfEnvironment : Recorded ν σ (Option Filter)).runFrom surroundings recording =
      (.ok ((((surroundings.environment "YASO_BENCH_TRACE").bind decode?).filter logEnabled).map
        (filterFor · ((surroundings.environment "RUST_LOG").bind decode?))), recording) := rfl
  rw [hrun, hsetting, Option.bind_some, decode?_encode, Option.filter_some]
  cases logEnabled setting <;> rfl

end CallBench.Command
