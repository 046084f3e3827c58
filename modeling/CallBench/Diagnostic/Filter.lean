/-
# Diagnostic filters

A filter is a list of directives. A directive sets a threshold for the targets
that start with a given text, or for all targets. The first directive that applies
to a diagnostic decides, so directives are kept with the most specific first.
-/

import CallBench.Diagnostic.Basic
import CallBench.Text.Alphanumeric
import CallBench.Text.Blank

namespace CallBench

/-- The least important level that passes; `none` lets nothing pass. -/
abbrev Threshold : Type := Option Level

namespace Threshold

/-- The thresholds, from the one that lets nothing pass on. -/
def all : List Threshold :=
  [none, some .error, some .warn, some .info, some .debug, some .trace]

/-- The name of a threshold. -/
def name : Threshold → String
  | none => "off"
  | some .error => "error"
  | some .warn => "warn"
  | some .info => "info"
  | some .debug => "debug"
  | some .trace => "trace"

/-- Whether a level passes. -/
def allows (threshold : Threshold) (level : Level) : Bool :=
  match threshold with
  | none => false
  | some least => level.rank ≤ least.rank

/-- The number that a run of digits stands for, with or without a plus sign. -/
def readNumber? (text : List Char) : Option Nat :=
  let digits := if text.head? = some '+' then text.tail else text
  if digits.isEmpty || !digits.all Char.isDigit then none
  else some (digits.foldl (fun value c => 10 * value + (c.toNat - '0'.toNat)) 0)

/-- Reads a threshold by its name, whatever the case of its letters, or by its place
in the list of all. -/
def read? (text : String) : Option Threshold :=
  match readNumber? text.toList with
  | some number => all[number]?
  | none => all.find? fun threshold => Text.sameWord text threshold.name

end Threshold

/-- Sets a threshold for some targets. -/
structure Directive where
  /-- The text that the targets start with; `none` stands for all targets. -/
  target : Option String
  threshold : Threshold
  deriving DecidableEq

namespace Directive

/-- Whether a target may start with this character. -/
def startsTarget (c : Char) : Bool :=
  Text.isAlphanumeric c || c == '-' || c == ':' || c == '_'

/-- Reads a directive: a target with a threshold after an equals sign, or one of the
two alone. A target without a threshold lets everything pass. -/
def read? (text : List Char) : Option Directive :=
  if !(text.head?.any startsTarget) then none
  else match text.span (· ≠ '=') with
    | (target, _ :: threshold) =>
        if threshold = [] then some ⟨some (.ofList target), some .trace⟩
        else (Threshold.read? (.ofList threshold)).map (⟨some (.ofList target), ·⟩)
    | (whole, []) =>
        match Threshold.read? (.ofList whole) with
        | some threshold => some ⟨none, threshold⟩
        | none => some ⟨some (.ofList whole), some .trace⟩

/-- The text of a directive. -/
def text (directive : Directive) : String :=
  match directive.target with
  | some target => target ++ "=" ++ directive.threshold.name
  | none => directive.threshold.name

/-- Whether a directive applies to a target. -/
def applies (directive : Directive) (target : String) : Bool :=
  match directive.target with
  | some start => start.toList.isPrefixOf target.toList
  | none => true

/-- Whether one target is to be looked at before another: the longer one, counted
in bytes, and of equally long ones the greater. All targets come last. -/
def precedes : Option String → Option String → Bool
  | some target, some other =>
      if target.utf8ByteSize = other.utf8ByteSize then other < target
      else other.utf8ByteSize < target.utf8ByteSize
  | some _, none => true
  | none, _ => false

end Directive

/-- Directives, the most specific first and with different targets. -/
structure Filter where
  directives : List Directive
  deriving DecidableEq

namespace Filter

/-- Puts a directive in its place. It replaces one for the same target. -/
def insert (directive : Directive) : List Directive → List Directive
  | [] => [directive]
  | other :: rest =>
      if directive.target = other.target then directive :: rest
      else if Directive.precedes directive.target other.target then directive :: other :: rest
      else other :: insert directive rest

/-- Reads directives separated by commas. Empty ones are skipped; one that cannot be
read makes the whole expression invalid. -/
def read? (expression : String) : Option Filter :=
  let texts := (expression.toList.splitOn ',').filter (· ≠ [])
  (texts.mapM Directive.read?).map fun directives =>
    ⟨directives.foldl (fun sorted directive => insert directive sorted) []⟩

/-- The text of a filter. -/
def text (filter : Filter) : String :=
  ",".intercalate (filter.directives.map Directive.text)

/-- Whether a filter lets a diagnostic pass. -/
def allows (filter : Filter) (diagnostic : Diagnostic) : Bool :=
  match filter.directives.find? (·.applies diagnostic.target) with
  | some directive => directive.threshold.allows diagnostic.level
  | none => false

end Filter

end CallBench
