import Reify.Log
import Reify.Options

/-!
# The command line

Arguments are read from left to right, and the first problem wins. A value that stands apart from
its option is checked only when the next known option, the input or the end is reached, because
until then it is not certain to be the last one.
-/

namespace Reify

/-- What a command line asks for. -/
@[ext]
structure Config where
  input : String
  output : Option String
  spec : Option String
  only : List String
  noElaborate : Bool
  templates : Bool
  verbose : Bool
  traceModule : Bool
deriving DecidableEq, Repr

namespace Config

/-- The options of the translation. -/
def options (c : Config) : Options := ⟨!c.noElaborate, c.templates, c.traceModule⟩

/-- The least important records that are shown. -/
def threshold (c : Config) : Level :=
  if c.traceModule then .trace else if c.verbose then .debug else .warn

end Config

/-- Why a command line asks for no translation. -/
inductive UsageError where
  | unknownArgument
  | invalidValue
  | missingRequiredArgument
  | argumentConflict
  | tooManyValues
  | displayHelp
  | displayVersion
deriving DecidableEq, Repr

namespace CommandLine

/-- What takes a value: the input, or an option. -/
inductive Slot where
  | input
  | output
  | spec
  | only
deriving DecidableEq, Repr

/-- The options without a value. -/
inductive Flag where
  | noElaborate
  | templates
  | verbose
  | traceModule
  | help
  | version
deriving DecidableEq, Repr

/-- An option. -/
inductive Choice where
  | slot (s : Slot)
  | flag (f : Flag)
deriving DecidableEq, Repr

/-- The option of a long name. -/
def Choice.ofLong? : List Char → Option Choice
  | ['o', 'u', 't', 'p', 'u', 't'] => some (.slot .output)
  | ['s', 'p', 'e', 'c'] => some (.slot .spec)
  | ['o', 'n', 'l', 'y'] => some (.slot .only)
  | ['n', 'o', '-', 'e', 'l', 'a', 'b', 'o', 'r', 'a', 't', 'e'] => some (.flag .noElaborate)
  | ['t', 'e', 'm', 'p', 'l', 'a', 't', 'e', 's'] => some (.flag .templates)
  | ['v', 'e', 'r', 'b', 'o', 's', 'e'] => some (.flag .verbose)
  | ['t', 'r', 'a', 'c', 'e', '-', 'm', 'o', 'd', 'u', 'l', 'e'] => some (.flag .traceModule)
  | ['h', 'e', 'l', 'p'] => some (.flag .help)
  | ['v', 'e', 'r', 's', 'i', 'o', 'n'] => some (.flag .version)
  | _ => none

/-- The option of a letter. -/
def Choice.ofShort? : Char → Option Choice
  | 'o' => some (.slot .output)
  | 'v' => some (.flag .verbose)
  | 'h' => some (.flag .help)
  | 'V' => some (.flag .version)
  | _ => none

/-- What has been read so far. -/
structure State where
  /-- The input is empty as long as `hasInput` is false. -/
  config : Config
  hasInput : Bool
  /-- A slot that still awaits its value, or has one that is not checked yet. -/
  pending : Option (Slot × Option String)
  /-- Whether options are over, so that every argument is a value. -/
  isTrailing : Bool
deriving DecidableEq, Repr

namespace State

/-- Nothing read. -/
def start : State := ⟨⟨"", none, none, [], false, false, false, false⟩, false, none, false⟩

/-- Gives a value to a slot. A path is given once and not empty; `--only` takes any texts. -/
def assign (s : State) (slot : Slot) (value : String) : Except UsageError State :=
  match slot with
  | .input =>
    if value.isEmpty then .error .invalidValue
    else .ok { s with config := { s.config with input := value }, hasInput := true }
  | .output =>
    if s.config.output.isSome then .error .argumentConflict
    else if value.isEmpty then .error .invalidValue
    else .ok { s with config := { s.config with output := some value } }
  | .spec =>
    if s.config.spec.isSome then .error .argumentConflict
    else if value.isEmpty then .error .invalidValue
    else .ok { s with config := { s.config with spec := some value } }
  | .only => .ok { s with config := { s.config with only := s.config.only ++ [value] } }

/-- Checks the slot that is pending. -/
def settle (s : State) : Except UsageError State :=
  match s.pending with
  | none => .ok s
  | some (_, none) => .error .invalidValue
  | some (slot, some value) => assign { s with pending := none } slot value

/-- Sets a flag, which must not be set yet. -/
def raise (s : State) (flag : Flag) : Except UsageError State :=
  match flag with
  | .noElaborate =>
    if s.config.noElaborate then .error .argumentConflict
    else .ok { s with config := { s.config with noElaborate := true } }
  | .templates =>
    if s.config.templates then .error .argumentConflict
    else .ok { s with config := { s.config with templates := true } }
  | .verbose =>
    if s.config.verbose then .error .argumentConflict
    else .ok { s with config := { s.config with verbose := true } }
  | .traceModule =>
    if s.config.traceModule then .error .argumentConflict
    else .ok { s with config := { s.config with traceModule := true } }
  | .help => .error .displayHelp
  | .version => .error .displayVersion

/-- A flag on the command line. -/
def flag (s : State) (f : Flag) : Except UsageError State := do
  let s ← s.settle
  s.raise f

/-- An option with its value attached. -/
def attached (s : State) (slot : Slot) (value : String) : Except UsageError State := do
  let s ← s.settle
  s.assign slot value

/-- An option whose value is the next argument. -/
def awaiting (s : State) (slot : Slot) : Except UsageError State := do
  let s ← s.settle
  return { s with pending := some (slot, none) }

/-- Whether an input has been given, checked or not. -/
def sawInput (s : State) : Bool :=
  s.hasInput || s.pending.any fun (slot, _) ↦ slot == .input

/-- An argument that is the input. There is one only. -/
def positional (s : State) (value : String) : Except UsageError State :=
  if s.sawInput then .error .unknownArgument
  else do
    let s ← s.settle
    return { s with pending := some (.input, some value) }

/-- A long option, given what stands behind its dashes. -/
def long (s : State) (cs : List Char) : Except UsageError State :=
  let value := match cs.dropWhile (· != '=') with
    | [] => none
    | _ :: value => some (String.ofList value)
  match Choice.ofLong? (cs.takeWhile (· != '=')), value with
  | none, _ => .error .unknownArgument
  | some (.slot slot), some value => s.attached slot value
  | some (.slot slot), none => s.awaiting slot
  | some (.flag _), some _ => .error .tooManyValues
  | some (.flag f), none => s.flag f

/-- A group of letters behind one dash. An option with a value takes the rest of the group. -/
def short (s : State) : List Char → Except UsageError State
  | [] => .ok s
  | c :: cs =>
    match Choice.ofShort? c with
    | none => .error .unknownArgument
    | some (.flag f) => do
      let s ← s.flag f
      short s cs
    | some (.slot slot) =>
      match cs with
      | [] => s.awaiting slot
      | '=' :: value => s.attached slot (String.ofList value)
      | value => s.attached slot (String.ofList value)

/-- An argument that is no option: the value that is awaited, or the input. -/
def value (s : State) (arg : String) : Except UsageError State :=
  match s.pending with
  | some (slot, none) => .ok { s with pending := some (slot, some arg) }
  | _ => s.positional arg

/-- One argument. A lone dash is a value; two dashes end the options. -/
def step (s : State) (arg : String) : Except UsageError State :=
  if s.isTrailing then s.positional arg
  else match arg.toList with
    | ['-', '-'] => .ok { s with isTrailing := true }
    | '-' :: '-' :: cs => s.long cs
    | ['-'] => s.value arg
    | '-' :: cs => s.short cs
    | _ => s.value arg

/-- The command line at its end. -/
def finish (s : State) : Except UsageError Config := do
  let s ← s.settle
  if s.hasInput then return s.config else .error .missingRequiredArgument

end State

/-- What a list of arguments asks for. -/
def parse (args : List String) : Except UsageError Config :=
  args.foldlM State.step State.start >>= State.finish

end CommandLine

end Reify
