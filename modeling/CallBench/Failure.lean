/-
# Failures and panics

A computation that does not return either fails with an error, which its callers
can wrap in contexts, or panics. An error is known by its cause; its wording is
settled here and nowhere else.
-/

namespace CallBench

/-- An error of the operating system. -/
structure SystemError where
  description : String
  code : Nat
  deriving DecidableEq

namespace SystemError

/-- What is asked for does not exist. -/
def notFound : SystemError :=
  ⟨"No such file or directory", 2⟩

/-- The error in words. -/
def text (error : SystemError) : String :=
  error.description ++ " (os error " ++ toString error.code ++ ")"

end SystemError

/-- Why a computation failed. -/
inductive Cause where
  /-- The computation said so in its own words. -/
  | reported (text : String)
  /-- A failure known by a number alone. -/
  | marker (code : Int)
  /-- A suite was asked for by a name that none has. -/
  | unknownSuite (name : String) (available : List String)
  /-- The operating system refused. -/
  | system (error : SystemError)
  deriving DecidableEq

/-- The cause in words. -/
def Cause.text : Cause → String
  | .reported text => text
  | .marker code => "marker " ++ toString code
  | .unknownSuite name available =>
      "unknown suite '" ++ name ++ "' (available: " ++ ", ".intercalate available ++ ")"
  | .system error => error.text

/-- A cause with the contexts it was wrapped in, the outermost first. -/
structure Failure where
  cause : Cause
  contexts : List String := []
  deriving DecidableEq

namespace Failure

/-- The failure with one more context around it. -/
def within (failure : Failure) (context : String) : Failure :=
  { failure with contexts := context :: failure.contexts }

/-- All texts of a failure, from the outermost context to the cause. -/
def chain (failure : Failure) : List String :=
  failure.contexts ++ [failure.cause.text]

/-- The outermost text of a failure. -/
def message (failure : Failure) : String :=
  failure.contexts.head?.getD failure.cause.text

/-- The number of a marker that has been passed on unchanged. -/
def marker? (failure : Failure) : Option Int :=
  match failure.cause, failure.contexts with
  | .marker code, [] => some code
  | _, _ => none

/-- The texts below the outermost, as they are listed: a single one is indented,
several are numbered. -/
def causes (failure : Failure) : List String :=
  match failure.chain.tail with
  | [] => []
  | [cause] => ["", "Caused by:", "    " ++ cause]
  | causes => "" :: "Caused by:" ::
      causes.zipIdx.map fun (cause, index) => "    " ++ toString index ++ ": " ++ cause

/-- The lines with which a program reports the failure that ended it. -/
def report (failure : Failure) : List String :=
  ("Error: " ++ failure.message) :: failure.causes

end Failure

/-- Why a computation did not return. -/
inductive Stop where
  | failed (failure : Failure)
  | panicked (message : String)
  deriving DecidableEq

/-- A failure without contexts. -/
def Stop.ofCause (cause : Cause) : Stop :=
  .failed ⟨cause, []⟩

section

variable {m : Type → Type} [Monad m] [MonadExceptOf Stop m] {α : Type}

/-- The outcome of an action, as a value. -/
def attempt (action : m α) : m (Except Stop α) :=
  tryCatch (Except.ok <$> action) fun stop => pure (.error stop)

/-- Ends as an action has ended. -/
def conclude : Except Stop α → m α
  | .ok value => pure value
  | .error stop => throw stop

/-- What was returned, be it a failure. After a panic nothing was. -/
def asResult : Except Stop α → Except Stop (Except Failure α)
  | .ok value => .ok (.ok value)
  | .error (.failed failure) => .ok (.error failure)
  | .error (.panicked message) => .error (.panicked message)

/-- What an action returns, be it a failure. A panic is passed on. -/
def resultOf (action : m α) : m (Except Failure α) := do
  conclude (asResult (← attempt action))

/-- Goes on with a value that was returned, and passes a failure on. -/
def ofResult : Except Failure α → m α
  | .ok value => pure value
  | .error failure => throw (.failed failure)

end

end CallBench
