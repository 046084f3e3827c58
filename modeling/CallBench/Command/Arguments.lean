/-
# Command-line arguments

Arguments are read from left to right, and the first problem or request for help or
the version decides. A double dash ends the options; a single dash and the empty
text are names of suites.
-/

namespace CallBench.Command

/-- What the program is asked to do. -/
structure Arguments where
  /-- The suites to run, in the order they are named. -/
  suites : List String := []
  /-- List the benchmarks instead of running them. -/
  list : Bool := false
  deriving DecidableEq

/-- An argument that the program cannot use. -/
inductive Misuse where
  /-- No option is spelled like this. -/
  | unknownOption (option : String)
  /-- The option takes no value. -/
  | unexpectedValue (option value : String)
  /-- The option has been given before. -/
  | repeatedOption (option : String)
  deriving DecidableEq

/-- Why the program does not get to its work. -/
inductive Interruption where
  | help
  | version
  | misuse (misuse : Misuse)
  deriving DecidableEq

/-- The misuse in words. -/
def Misuse.text : Misuse → String
  | .unknownOption option => "error: unexpected argument '" ++ option ++ "' found"
  | .unexpectedValue option value =>
      "error: unexpected value '" ++ value ++ "' for '" ++ option ++
        "' found; no more were expected"
  | .repeatedOption option =>
      "error: the argument '" ++ option ++ "' cannot be used multiple times"

/-- The lines of the help text. -/
def helpLines : List String :=
  ["Time yaso runtime library calls",
    "",
    "Usage: yaso-bench [OPTIONS] [SUITE]...",
    "",
    "Arguments:",
    "  [SUITE]...  Suites to run, in order (events, os, path, process). All suites when omitted",
    "",
    "Options:",
    "      --list     Print `category<TAB>title` for every benchmark instead of running them",
    "  -h, --help     Print help",
    "  -V, --version  Print version",
    "",
    "Set YASO_BENCH_TRACE=1 (or a filter such as yaso::bench=trace) to log to stderr."]

/-- The line of the version. -/
def versionLine : String :=
  "yaso-bench 0.1.0"

/-- The advice that follows a misuse. -/
def usageLines : List String :=
  ["", "Usage: yaso-bench [OPTIONS] [SUITE]...", "", "For more information, try '--help'."]

/-- What an argument looks like. -/
inductive Shape where
  /-- Two dashes alone. -/
  | endOfOptions
  /-- Two dashes, a name, and a value if there is an equals sign. -/
  | long (name : List Char) (value : Option (List Char))
  /-- A dash and at least one letter; each letter is an option. -/
  | short (letter : Char)
  /-- Anything else. -/
  | suite
  deriving DecidableEq

/-- The shape of an argument. -/
def Shape.of : List Char → Shape
  | ['-', '-'] => .endOfOptions
  | '-' :: '-' :: text =>
      match text.span (· ≠ '=') with
      | (name, _ :: value) => .long name (some value)
      | (name, []) => .long name none
  | '-' :: letter :: _ => .short letter
  | _ => .suite

/-- The options that are written out, with what they do. -/
inductive LongOption where
  | list
  | help
  | version
  deriving DecidableEq

namespace LongOption

/-- The name of an option, without the dashes. -/
def name : LongOption → String
  | .list => "list"
  | .help => "help"
  | .version => "version"

/-- The option of a name. -/
def ofName? (text : List Char) : Option LongOption :=
  [list, help, version].find? (·.name.toList = text)

/-- An option as it is given. -/
def spelled (option : LongOption) : String :=
  "--" ++ option.name

end LongOption

namespace Arguments

/-- Takes in an option that is written out. -/
def takeLong (arguments : Arguments) (name : List Char) (value : Option (List Char)) :
    Except Interruption Arguments :=
  match LongOption.ofName? name, value with
  | none, _ => .error (.misuse (.unknownOption ("--" ++ .ofList name)))
  | some option, some value =>
      .error (.misuse (.unexpectedValue option.spelled (.ofList value)))
  | some .help, none => .error .help
  | some .version, none => .error .version
  | some .list, none =>
      if arguments.list then .error (.misuse (.repeatedOption LongOption.list.spelled))
      else .ok { arguments with list := true }

/-- Takes in an option of one letter. All of them end the reading. -/
def takeShort (letter : Char) : Interruption :=
  match letter with
  | 'h' => .help
  | 'V' => .version
  | letter => .misuse (.unknownOption (.ofList ['-', letter]))

/-- Takes in arguments, the first of them next. -/
def takeAll (arguments : Arguments) : List String → Except Interruption Arguments
  | [] => .ok arguments
  | text :: rest =>
      match Shape.of text.toList with
      | .endOfOptions => .ok { arguments with suites := arguments.suites ++ rest }
      | .long name value => (arguments.takeLong name value).bind (takeAll · rest)
      | .short letter => .error (takeShort letter)
      | .suite => takeAll { arguments with suites := arguments.suites ++ [text] } rest

/-- Reads the arguments that follow the name of the program. -/
def read (texts : List String) : Except Interruption Arguments :=
  takeAll {} texts

end Arguments

end CallBench.Command
