import Reify.CommandLine
import Reify.Host
import Reify.Translation

/-!
# A run of the translator

A run reads one unit, translates it, and writes the outputs that were asked for once the whole unit
has a text. If one of them cannot be written, those written before it are removed.
-/

namespace Reify

/-- Why a run fails. -/
inductive Failure where
  | translation (e : Error)
  /-- An output could not be written. -/
  | write (path reason : String)

/-- The text shown to the user. -/
def Failure.text : Failure → String
  | .translation e => e.text
  | .write _ reason => reason

section

variable {m : Type → Type} [Monad m] [Host m]

/-- Logs records one after the other. -/
def logAll : List Record → m Unit
  | [] => pure ()
  | r :: rs => do
    Host.log r
    logAll rs

/-- Hands what was logged to the host, and goes on with the result. -/
def replay {α : Type} (x : Logged Error α) : ExceptT Failure m α := do
  logAll x.log
  match x.result with
  | .ok a => return a
  | .error e => throw (.translation e)

/-- Removes an output again. -/
def discard (path : String) : m Unit := do
  match ← Host.remove path with
  | .removed => Host.log ⟨.debug, "Removed " ++ path⟩
  | .absent => return ()
  | .refused reason => Host.log ⟨.warn, "Could not remove " ++ path ++ ": " ++ reason⟩

/-- Removes some outputs again. -/
def discardAll : List String → m Unit
  | [] => pure ()
  | path :: paths => do
    discard path
    discardAll paths

/-- Writes all outputs or none: `written` holds those written so far, to be removed on failure. -/
def writeOutputs (written : List String) : List (String × String) → ExceptT Failure m Unit
  | [] => return ()
  | (path, text) :: outputs => do
    match ← Host.writeText path text with
    | .ok () =>
      Host.log ⟨.info, "Wrote " ++ path⟩
      writeOutputs (written ++ [path]) outputs
    | .error reason =>
      discardAll written
      throw (.write path reason)

/-- The files to write: the specifications first, then the text of the module. -/
def Config.outputs (c : Config) (specs ir : String) : List (String × String) :=
  (c.spec.map (·, specs)).toList ++ (c.output.map (·, ir)).toList

/-- The filter that a command line asks for. Without `--only` it lets everything through. -/
def Config.filter (c : Config) : Filter := if c.only.isEmpty then .all else .inFiles c.only

/-- One run. Standard output comes last, because it cannot be taken back. -/
def run (c : Config) : ExceptT Failure m Unit := do
  Host.log ⟨.debug, "Options: " ++ c.options.toJson.compact⟩
  match ← Host.readText c.input with
  | .error reason => throw (.translation (.io reason))
  | .ok source =>
    let u ← replay (TranslationUnit.load source)
    let t := u.translate c.filter c.options []
    let ir ← replay t.output
    writeOutputs [] (c.outputs (Spec.renderAll t.specs) ir)
    if !t.specs.isEmpty then
      Host.log ⟨.info, "Collected " ++ toString t.specs.length ++ " specifications"⟩
    if c.output.isNone then Host.print ir

end

end Reify
