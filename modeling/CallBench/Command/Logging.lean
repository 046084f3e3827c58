/-
# Whether and what to log

One setting turns the log on and can hold a filter. A value that only says yes leaves
the choice to the general log setting; an expression of its own never does, not even
one that cannot be read. Expressions that cannot be read give way to the default.
-/

import CallBench.Diagnostic.Filter
import CallBench.Host
import CallBench.Text.Utf8

namespace CallBench.Command

/-- The words that turn the log off. -/
def offWords : List String :=
  ["0", "false", "off"]

/-- The words that turn the log on without choosing a filter. -/
def onWords : List String :=
  ["1", "true", "on"]

/-- Whether a setting turns the log on. -/
def logEnabled (setting : String) : Bool :=
  let word := Text.trim setting
  !word.isEmpty && !offWords.any (Text.sameWord word)

/-- The filter expression that a setting holds, if it is not just a word for yes. -/
def ownExpression? (setting : String) : Option String :=
  let word := Text.trim setting
  if word.isEmpty || onWords.any (Text.sameWord word) then none else some word

/-- What is logged unless another choice is made. -/
def defaultExpression : String :=
  "yaso::bench=debug,yaso::suites=debug,yaso::process=debug,yaso::cli=info"

/-- The filter of the default expression. -/
def defaultFilter : Filter :=
  (Filter.read? defaultExpression).getD ⟨[]⟩

/-- Chooses a filter, given how expressions are read: the setting's own expression,
then the general one, then the default. -/
def chooseFilter {φ : Type} (read? : String → Option φ) (default : φ) (setting : String)
    (general : Option String) : φ :=
  (((ownExpression? setting).or general).bind read?).getD default

/-- The filter for a setting and the general log setting. -/
def filterFor (setting : String) (general : Option String) : Filter :=
  chooseFilter Filter.read? defaultFilter setting general

/-- The filter that the environment asks for; none if the log is off. Values that are
not text count as missing. -/
def filterOfEnvironment {m : Type → Type} [Monad m] [MonadHost m] : m (Option Filter) := do
  let setting := (← MonadHost.environment "YASO_BENCH_TRACE").bind Text.decode?
  let general := (← MonadHost.environment "RUST_LOG").bind Text.decode?
  pure ((setting.filter logEnabled).map (filterFor · general))

end CallBench.Command
