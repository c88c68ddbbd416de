import Reify.Run

/-!
# The program

What a command line leads to: a run, or one of the texts about the program itself.
-/

namespace Reify

namespace Program

/-- The name and number of this version. -/
def versionText : String := "cpp2v 0.1.0\n"

/-- How the program is used. -/
def helpText : String := "Translate elaborated C++ declarations into IR terms

Usage: cpp2v [OPTIONS] <INPUT>

Arguments:
  <INPUT>  JSON dump of the elaborated translation unit

Options:
  -o, --output <OUTPUT>  Output IR file (defaults to stdout)
      --spec <FILE>      Write collected specification annotations to this file
      --no-elaborate     Do not walk template instantiations and specializations
      --templates        Walk template patterns
      --only <FILE>      Only translate declarations located in this file (repeatable)
  -v, --verbose          Verbose output
      --trace-module     Log every module insertion
  -h, --help             Print help
  -V, --version          Print version
"

/-- How the program ends. -/
inductive Ending where
  | done
  /-- The command line was not understood. -/
  | misused (e : UsageError)
  /-- The translation of an input failed. -/
  | failed (input : String) (f : Failure)

namespace Ending

/-- The exit code. -/
def code : Ending → UInt32
  | .done => 0
  | .misused _ => 2
  | .failed _ _ => 1

/-- What is wrong with the command line, in words. -/
def usageText : UsageError → String
  | .unknownArgument => "unexpected argument"
  | .invalidValue => "a value is missing or empty"
  | .missingRequiredArgument => "no input was given"
  | .argumentConflict => "an argument was given twice"
  | .tooManyValues => "a value was given to an option without one"
  | .displayHelp => helpText
  | .displayVersion => versionText

/-- The last message, if there is one. -/
def message? : Ending → Option String
  | .done => none
  | .misused e => some ("error: " ++ usageText e)
  | .failed input f => some ("Error translating " ++ input ++ ": " ++ f.text)

end Ending

/-- The least important records shown for a command line. -/
def threshold (args : List String) : Level :=
  match CommandLine.parse args with
  | .ok c => c.threshold
  | .error _ => .warn

/-- The program, given its arguments. -/
def execute {m : Type → Type} [Monad m] [Host m] (args : List String) : m Ending := do
  match CommandLine.parse args with
  | .error .displayHelp =>
    Host.print helpText
    return .done
  | .error .displayVersion =>
    Host.print versionText
    return .done
  | .error e => return .misused e
  | .ok c =>
    match ← (run c : ExceptT Failure m Unit).run with
    | .ok () => return .done
    | .error f => return .failed c.input f

end Program

end Reify
