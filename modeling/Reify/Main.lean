import Reify.Program

/-!
# Entry point
-/

namespace Reify

/-- The console: the real files and streams, and the level from which records are shown. -/
abbrev Console := ReaderT Level IO

/-- Runs an action on a file, and keeps the reason for a failure. -/
def attempt {α : Type} (action : IO α) : Console (Except String α) := do
  try return .ok (← action)
  catch e => return .error (toString e)

instance : Host Console where
  readText path := attempt (IO.FS.readFile path)
  writeText path text := attempt (IO.FS.writeFile path text)
  remove path := do
    try
      IO.FS.removeFile path
      return .removed
    catch
      | .noFileOrDirectory .. => return .absent
      | e => return .refused (toString e)
  print text := fun _ ↦ IO.print text
  log r := fun threshold ↦ do
    if r.reaches threshold then IO.eprint r.line

end Reify

/-- Runs the program on the arguments of the command line. -/
def main (args : List String) : IO UInt32 := do
  let ending ← (Reify.Program.execute args : Reify.Console _) (Reify.Program.threshold args)
  match ending.message? with
  | some message => IO.eprintln message
  | none => pure ()
  return ending.code
